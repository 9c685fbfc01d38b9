import QueryLint.Proofs.Report.Reader

/-! JSON read back. Main statement: `read_render`, what is written for a value reads as the value where
no object in it has a key twice. -/
namespace QueryLint.JsonValue
set_option autoImplicit false

/-- No object in the value has a key twice. -/
inductive Keyed : JsonValue → Prop
  | null : Keyed .null
  | number (n : Int) : Keyed (.number n)
  | text (s : String) : Keyed (.text s)
  | array {items : List JsonValue} (h : ∀ v ∈ items, Keyed v) : Keyed (.array items)
  | object {entries : List JsonEntry} (hkeys : (entries.map JsonEntry.key).Nodup)
      (h : ∀ e ∈ entries, Keyed e.value) : Keyed (.object entries)

/-! ## Lines in brackets -/

theorem leads_newLine {p p' : Place} {brackets : List Bracket}
    (hbreak : step ⟨brackets, p⟩ '\n' = some ⟨brackets, p'⟩)
    (hblank : step ⟨brackets, p'⟩ ' ' = some ⟨brackets, p'⟩) (level : Nat) :
    Leads ⟨brackets, p⟩ (newLine level) ⟨brackets, p'⟩ := by
  refine .cons hbreak ?_
  rw [Text.blanks]
  induction 2 * level with
  | zero => exact .refl _
  | succ n ih => exact .cons hblank ih

/-- A line adds to what is open: a comma leads on to the next line and the closing bracket leads
out, each with the line added. -/
structure Adds {α : Type} (inside outside : α → State) (stop : Char) (line : Text)
    (before after : α) : Prop where
  comma (level : Nat) : Leads (inside before) (line ++ ',' :: newLine level) (inside after)
  close (level : Nat) : Leads (inside before) (line ++ newLine level ++ [stop]) (outside after)

section Lines

variable {α β : Type} {inside outside : α → State} {stop : Char} {line : β → Text} {add : α → β → α}

/-- Lines that each add to what is open lead out with all of them. -/
theorem leads_joinLines (level outer : Nat) {x : β} {rest : List β} {before : α}
    (hadds : ∀ y ∈ x :: rest, ∀ a, Adds inside outside stop (line y) a (add a y)) :
    Leads (inside before) (joinLines level ((x :: rest).map line) ++ newLine outer ++ [stop])
      (outside ((x :: rest).foldl add before)) := by
  induction rest generalizing x before with
  | nil => exact (hadds x (by simp) before).close outer
  | cons y rest ih =>
    have hline := (hadds x (by simp) before).comma level
    have hlines := @ih y (add before x) fun z hz => hadds z (List.mem_cons_of_mem _ hz)
    have h := hline.trans hlines
    simpa [joinLines] using h

theorem leads_bracketed {s : State} {start : Char} {empty : α} (level : Nat) {xs : List β}
    (hstart : step s start = some (inside empty))
    (hmargin : Leads (inside empty) (newLine (level + 1)) (inside empty))
    (hempty : step (inside empty) stop = some (outside empty))
    (hadds : ∀ x ∈ xs, ∀ a, Adds inside outside stop (line x) a (add a x)) :
    Leads s (bracketed start stop level (xs.map line)) (outside (xs.foldl add empty)) := by
  cases xs with
  | nil => exact .cons hstart (.single hempty)
  | cons x rest =>
    have h := Leads.cons hstart (hmargin.trans (leads_joinLines (level + 1) level hadds))
    simpa [bracketed] using h

end Lines

/-! ## Values that were written -/

section Values

variable {brackets : List Bracket} {p : Place} {v : JsonValue} {line : Text}

def inArray (outer : List Bracket) (items : List JsonValue) : State :=
  ⟨.items items :: outer, .value⟩

def afterArray (outer : List Bracket) (items : List JsonValue) : State :=
  ⟨outer, .done (.array items)⟩

def inObject (outer : List Bracket) (entries : List JsonEntry) : State :=
  ⟨.entries entries :: outer, .key⟩

def afterObject (outer : List Bracket) (entries : List JsonEntry) : State :=
  ⟨outer, .done (.object entries)⟩

def renderEntry (level : Nat) (e : JsonEntry) : Text :=
  renderText e.key ++ ':' :: ' ' :: render level e.value

/-- Where a value may end, a character that is no digit ends it. -/
theorem step_of_value? (hp : p.value? = some v) {c : Char} (hc : digit? c = none) :
    step ⟨brackets, p⟩ c = stepDone brackets v c := by
  cases p with
  | done w =>
    obtain rfl : w = v := by simpa [Place.value?] using hp
    rfl
  | digits negative n =>
    obtain rfl : JsonValue.number (if negative then -n else n) = v := by
      simpa only [Place.value?, Option.some.injEq] using hp
    simp [step, hc]
  | _ => simp [Place.value?] at hp

theorem leads_done (hp : p.value? = some v) (level : Nat) :
    Leads ⟨brackets, p⟩ (newLine level) ⟨brackets, .done v⟩ :=
  leads_newLine (step_of_value? hp rfl) rfl level

theorem ReadsAs.adds_item (h : ReadsAs line v) (outer : List Bracket) (before : List JsonValue) :
    Adds (inArray outer) (afterArray outer) ']' line before (before ++ [v]) := by
  obtain ⟨p, hline, hp⟩ := h (.items before :: outer)
  refine ⟨fun level => ?_, fun level => ?_⟩
  · exact hline.trans (.cons (step_of_value? hp rfl) (leads_newLine rfl rfl level))
  · exact (hline.trans (leads_done hp level)).trans (.single rfl)

theorem ReadsAs.adds_entry {level : Nat} {e : JsonEntry}
    (h : ReadsAs (render level e.value) e.value) (outer : List Bracket) (before : List JsonEntry) :
    Adds (inObject outer) (afterObject outer) '\x7d' (renderEntry level e) before
      (setEntry before e) := by
  obtain ⟨key, value⟩ := e
  obtain ⟨p, hvalue, hp⟩ := h (.entry before key :: outer)
  have hcolon : Leads (inObject outer before) (renderText key ++ [':', ' '])
      ⟨.entry before key :: outer, .value⟩ := (leads_key _ key).trans (.cons rfl (.single rfl))
  have hline : Leads (inObject outer before) (renderEntry level ⟨key, value⟩)
      ⟨.entry before key :: outer, p⟩ := by simpa [renderEntry] using hcolon.trans hvalue
  refine ⟨fun level => ?_, fun level => ?_⟩
  · exact hline.trans (.cons (step_of_value? hp rfl) (leads_newLine rfl rfl level))
  · exact (hline.trans (leads_done hp level)).trans (.single rfl)

end Values

theorem renderItems_eq_map (level : Nat) (items : List JsonValue) :
    renderItems level items = items.map (render level) := by
  induction items with
  | nil => rfl
  | cons item rest ih => rw [renderItems, ih, List.map_cons]

theorem renderEntries_eq_map (level : Nat) (entries : List JsonEntry) :
    renderEntries level entries = entries.map (renderEntry level) := by
  induction entries with
  | nil => rfl
  | cons e rest ih =>
    cases e
    rw [renderEntries, ih, List.map_cons, renderEntry]

theorem foldl_append_items (items before : List JsonValue) :
    items.foldl (fun a v => a ++ [v]) before = before ++ items := by
  induction items generalizing before with
  | nil => simp
  | cons v rest ih => simp [ih]

/-- Entries of distinct keys are all kept as they come. -/
theorem foldl_setEntry {entries before : List JsonEntry}
    (h : ((before ++ entries).map JsonEntry.key).Nodup) :
    entries.foldl setEntry before = before ++ entries := by
  induction entries generalizing before with
  | nil => simp
  | cons e rest ih =>
    have hnew : setEntry before e = before ++ [e] := by
      have hkey : ∀ f ∈ before, f.key ≠ e.key := by
        rw [List.map_append, List.nodup_append] at h
        exact fun f hf => h.2.2 _ (List.mem_map_of_mem hf) _ (by simp)
      have hany : (before.any fun f => f.key == e.key) = false := by simpa using hkey
      simp [setEntry, hany]
    have hrest : ((before ++ [e] ++ rest).map JsonEntry.key).Nodup := by simpa using h
    rw [List.foldl_cons, hnew, ih hrest]
    simp

theorem leads_array {level : Nat} {items : List JsonValue}
    (h : ∀ v ∈ items, ReadsAs (render (level + 1) v) v) (brackets : List Bracket) :
    Leads ⟨brackets, .value⟩ (render level (.array items)) (afterArray brackets items) := by
  have hstart : step ⟨brackets, .value⟩ '[' = some (inArray brackets []) := rfl
  have hmargin : Leads (inArray brackets []) (newLine (level + 1)) (inArray brackets []) :=
    leads_newLine rfl rfl (level + 1)
  have hlines := leads_bracketed level hstart hmargin rfl fun v hv => (h v hv).adds_item brackets
  rw [foldl_append_items, List.nil_append, ← renderItems_eq_map] at hlines
  exact hlines

theorem leads_object {level : Nat} {entries : List JsonEntry}
    (hkeys : (entries.map JsonEntry.key).Nodup)
    (h : ∀ e ∈ entries, ReadsAs (render (level + 1) e.value) e.value) (brackets : List Bracket) :
    Leads ⟨brackets, .value⟩ (render level (.object entries)) (afterObject brackets entries) := by
  have hstart : step ⟨brackets, .value⟩ '\x7b' = some (inObject brackets []) := rfl
  have hmargin : Leads (inObject brackets []) (newLine (level + 1)) (inObject brackets []) :=
    leads_newLine rfl rfl (level + 1)
  have hlines := leads_bracketed level hstart hmargin rfl fun e he => (h e he).adds_entry brackets
  have hall : entries.foldl setEntry [] = entries := @foldl_setEntry entries [] hkeys
  rw [hall, ← renderEntries_eq_map] at hlines
  exact hlines

theorem Keyed.readsAs {v : JsonValue} (h : v.Keyed) (level : Nat) : ReadsAs (render level v) v := by
  -- what stands in brackets is written one level further in
  induction h generalizing level with
  | null => exact fun brackets => ⟨_, .cons rfl (.cons rfl (.cons rfl (.single rfl))), rfl⟩
  | number n => exact number_readsAs n
  | text s => exact fun brackets => ⟨_, leads_text brackets s, rfl⟩
  | array _ ih =>
    exact fun brackets => ⟨_, leads_array (fun v hv => ih v hv (level + 1)) brackets, rfl⟩
  | object hkeys _ ih =>
    exact fun brackets => ⟨_, leads_object hkeys (fun e he => ih e he (level + 1)) brackets, rfl⟩

/-- A value is read back from what is written for it. -/
theorem read_render {v : JsonValue} (h : v.Keyed) (level : Nat) :
    read (render level v) = some v := by
  obtain ⟨p, hrun, hp⟩ := h.readsAs level []
  rw [Leads] at hrun
  rw [read, hrun]
  exact hp

example : read "[ -20,\"\\u00e9\\ud83d\\ude00\\/\" , \x7b\"a\":1,\"a\" : null\x7d,[]]\n".toList
    = some (.array [.number (-20), .text "é😀/", .object [⟨"a", .null⟩], .array []]) := by rfl

end QueryLint.JsonValue
