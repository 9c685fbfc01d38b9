import QueryLint.Proofs.Sql.Stretch

/-! Balanced groups: what stands between a parenthesis and the one that closes it. A group is given by
a grammar, in which quotes hide parentheses and each kind of quote hides the other; the scan for the
closing parenthesis keeps a depth and an open quote instead. Main statement: `closingParen?_iff_group`,
the scan ends where the group ends, and it ends nowhere just where no group begins. -/
namespace QueryLint.Sql
set_option autoImplicit false

/-! ## Signs -/

theorem ne_of_class {signs : Text} {p : Char → Bool} (hclass : signs.all (fun d => !p d) = true) {c : Char}
    (hc : p c = true) : ∀ d ∈ signs, c ≠ d := by
  rintro d hd rfl
  simpa [hc] using List.all_eq_true.mp hclass c hd

/-- A character of a class that has no quote, no parenthesis and not this sign is none of them. -/
theorem unsigned_of_class {sign : Char} {p : Char → Bool}
    (hclass : (sign :: "'\"()".toList).all (fun d => !p d) = true) {c : Char} (hc : p c = true) :
    isQuote c = false ∧ c ≠ '(' ∧ c ≠ ')' ∧ c ≠ sign := by
  obtain ⟨hsign, hne⟩ := List.forall_mem_cons.mp (ne_of_class hclass hc)
  simp only [isQuote, Bool.or_eq_false_iff, beq_eq_false_iff_ne]
  exact ⟨⟨hne '\'' (by decide), hne '"' (by decide)⟩, hne '(' (by decide), hne ')' (by decide), hsign⟩

theorem noSign_of_class {p : Char → Bool} (hclass : ";'\"()".toList.all (fun d => !p d) = true) {c : Char}
    (hc : p c = true) : isQuote c = false ∧ c ≠ '(' ∧ c ≠ ')' ∧ c ≠ ';' := unsigned_of_class hclass hc

/-! ## The grammar -/

/-- Items one after the other: a character that is no quote and no parenthesis, a quoted run without
its own quote inside, or a group in parentheses. -/
inductive Items : Text → Prop
  | nil : Items []
  | plain {c : Char} {rest : Text} (hquote : isQuote c = false) (hopen : c ≠ '(') (hclose : c ≠ ')')
      (others : Items rest) : Items (c :: rest)
  | quoted {q : Char} {inside rest : Text} (hquote : isQuote q = true) (hinside : q ∉ inside)
      (others : Items rest) : Items (q :: (inside ++ q :: rest))
  | group {body rest : Text} (h : Items body) (others : Items rest) :
      Items ('(' :: (body ++ ')' :: rest))

def Group (t : Text) : Prop := ∃ body, Items body ∧ t = '(' :: (body ++ [')'])

/-- Items and a closing parenthesis, and so on for a number of levels: what stands between a place and
the end of the groups that are open there. -/
inductive Closes : Nat → Text → Prop
  | done : Closes 0 []
  | level {depth : Nat} {body rest : Text} (h : Items body) (others : Closes depth rest) :
      Closes (depth + 1) (body ++ ')' :: rest)

/-- What begins the items of a level leaves what closes it as it is. -/
theorem Closes.before {depth : Nat} {t : Text} (h : Closes (depth + 1) t) (front : Text)
    (hfront : ∀ body, Items body → Items (front ++ body)) : Closes (depth + 1) (front ++ t) := by
  cases h with
  | level hbody others =>
    rw [← List.append_assoc]
    exact .level (hfront _ hbody) others

/-- A group that is opened is an item of the level around it. -/
theorem Closes.opened {depth : Nat} {t : Text} (h : Closes (depth + 2) t) :
    Closes (depth + 1) ('(' :: t) := by
  cases h with
  | @level _ body rest hbody others =>
    have hfront := others.before ('(' :: (body ++ [')'])) fun after hafter => by
      simpa using Items.group hbody hafter
    simpa using hfront

theorem group_of_closes {t : Text} (h : Closes 1 t) : Group ('(' :: t) := by
  cases h with
  | @level _ body rest hbody others =>
    cases others with
    | done => exact ⟨body, hbody, rfl⟩

/-! ## One character of the scan -/

/-- What a character is to a scan that keeps an open quote: hidden from it, a parenthesis, or none of
these. -/
inductive CharCase : Option Char → Char → Prop
  | hidden {quote : Option Char} {c : Char} (h : ¬isBare quote c = true) : CharCase quote c
  | opening : CharCase none '('
  | closing : CharCase none ')'
  | plain {c : Char} (hquote : isQuote c = false) (hopen : c ≠ '(') (hclose : c ≠ ')') : CharCase none c

theorem charCase (quote : Option Char) (c : Char) : CharCase quote c := by
  by_cases hbare : isBare quote c = true
  · obtain ⟨rfl, hquote⟩ : quote = none ∧ isQuote c = false := by simpa [isBare] using hbare
    by_cases hopen : c = '('
    · exact hopen ▸ .opening
    · by_cases hclose : c = ')'
      · exact hclose ▸ .closing
      · exact .plain hquote hopen hclose
  · exact .hidden hbare

section Step

variable {depth : Int} {position : Nat} {rest : Text}

theorem closingFrom_open :
    closingFrom depth none position ('(' :: rest)
      = closingFrom (depth + 1) none (position + 1) rest := rfl

theorem closingFrom_close :
    closingFrom depth none position (')' :: rest)
      = if depth - 1 = 0 then some (position + 1)
        else closingFrom (depth - 1) none (position + 1) rest := rfl

theorem closingFrom_plain {c : Char} (hquote : isQuote c = false) (hopen : c ≠ '(')
    (hclose : c ≠ ')') :
    closingFrom depth none position (c :: rest) = closingFrom depth none (position + 1) rest := by
  simp [closingFrom, isBare, hquote, hopen, hclose]

theorem closingFrom_quote {q : Char} (hquote : isQuote q = true) :
    closingFrom depth none position (q :: rest)
      = closingFrom depth (some q) (position + 1) rest := by
  simp [closingFrom, isBare, quoteAfter, hquote]

theorem closingFrom_quoted {q c : Char} (h : c ≠ q) :
    closingFrom depth (some q) position (c :: rest)
      = closingFrom depth (some q) (position + 1) rest := by
  simp [closingFrom, isBare, quoteAfter, h]

theorem closingFrom_unquote {q : Char} :
    closingFrom depth (some q) position (q :: rest)
      = closingFrom depth none (position + 1) rest := by
  simp [closingFrom, isBare, quoteAfter]

end Step

/-! ## The scan passes over what the grammar derives -/

theorem closingFrom_inside {depth : Int} {position : Nat} {q : Char} {inside rest : Text}
    (h : q ∉ inside) :
    closingFrom depth (some q) position (inside ++ q :: rest)
      = closingFrom depth none (position + inside.length + 1) rest := by
  induction inside generalizing position with
  | nil => exact closingFrom_unquote
  | cons c inside ih =>
    obtain ⟨hc, hinside⟩ := List.ne_and_not_mem_of_not_mem_cons h
    rw [List.cons_append, closingFrom_quoted (Ne.symm hc), ih hinside, List.length_cons]
    congr 1
    omega

/-- Within an open group, items leave the depth as it is. -/
theorem closingFrom_items {body : Text} (h : Items body) {depth : Int} (hdepth : 0 < depth)
    (position : Nat) (rest : Text) :
    closingFrom depth none position (body ++ rest)
      = closingFrom depth none (position + body.length) rest := by
  induction h generalizing depth position rest with
  | nil => rfl
  | plain hquote hopen hclose _ ih =>
    rw [List.cons_append, closingFrom_plain hquote hopen hclose, ih hdepth, List.length_cons]
    congr 1
    omega
  | quoted hquote hinside _ ih =>
    rw [List.cons_append, List.append_assoc, List.cons_append, closingFrom_quote hquote,
      closingFrom_inside hinside, ih hdepth]
    congr 1
    simp only [List.length_cons, List.length_append]
    omega
  | group _ _ ihbody ih =>
    rw [List.cons_append, List.append_assoc, List.cons_append, closingFrom_open,
      ihbody (by omega), closingFrom_close, if_neg (by omega), Int.add_sub_cancel, ih hdepth]
    congr 1
    simp only [List.length_cons, List.length_append]
    omega

theorem closingFrom_group {group : Text} (h : Group group) (position : Nat) (rest : Text) :
    closingFrom 0 none position (group ++ rest) = some (position + group.length) := by
  obtain ⟨body, hbody, rfl⟩ := h
  rw [List.cons_append, List.append_assoc, closingFrom_open, closingFrom_items hbody (by omega),
    List.cons_append, closingFrom_close, if_pos (by omega)]
  congr 1
  simp only [List.length_cons, List.length_append, List.length_nil]
  omega

/-! ## Where the scan ends, the grammar has derived what it passed -/

/-- What the scan has passed when it ends: the rest of an open quote, if there is one, and then what
closes the levels that are open. -/
inductive Passed (depth : Nat) : Option Char → Text → Prop
  | bare {t : Text} (h : Closes depth t) : Passed depth none t
  | quoted {q : Char} (inside : Text) {t : Text} (hinside : q ∉ inside) (h : Closes depth t) :
      Passed depth (some q) (inside ++ q :: t)

theorem Passed.closes {depth : Nat} {t : Text} (h : Passed depth none t) : Closes depth t := by
  cases h with
  | bare h => exact h

/-- The invariant of the scan, by induction on the text that is left to read. -/
theorem passed_of_closingFrom (depth : Nat) {quote : Option Char} {position stop : Nat} {t : Text}
    (h : closingFrom (depth + 1 : Nat) quote position t = some stop) :
    ∃ passed rest, t = passed ++ rest ∧ stop = position + passed.length ∧
      Passed (depth + 1) quote passed := by
  induction t generalizing depth quote position with
  | nil => exact absurd h (by simp [closingFrom])
  | cons c t ih =>
    -- A character is put before what the rest of the scan passes.
    have before : ∀ (depth' : Nat) {quote' : Option Char},
        closingFrom (depth' + 1 : Nat) quote' (position + 1) t = some stop →
        (∀ passed, Passed (depth' + 1) quote' passed → Passed (depth + 1) quote (c :: passed)) →
        ∃ passed rest, c :: t = passed ++ rest ∧ stop = position + passed.length ∧
          Passed (depth + 1) quote passed := by
      intro depth' quote' hscan hput
      obtain ⟨passed, rest, rfl, rfl, hpassed⟩ := ih depth' hscan
      refine ⟨c :: passed, rest, rfl, ?_, hput passed hpassed⟩
      rw [List.length_cons]
      omega
    cases quote with
    | some q =>
      by_cases hc : c = q
      · subst hc
        rw [closingFrom_unquote] at h
        refine before depth h fun passed hpassed => ?_
        exact .quoted [] List.not_mem_nil hpassed.closes
      · rw [closingFrom_quoted hc] at h
        refine before depth h fun passed hpassed => ?_
        cases hpassed with
        | quoted inside hinside hcloses =>
          exact .quoted (c :: inside) (by simp [Ne.symm hc, hinside]) hcloses
    | none =>
      cases charCase none c with
      | hidden hhidden =>
        have hquote : isQuote c = true := by simpa [isBare] using hhidden
        rw [closingFrom_quote hquote] at h
        refine before depth h fun passed hpassed => ?_
        cases hpassed with
        | quoted inside hinside hcloses =>
          have hfront := hcloses.before (c :: (inside ++ [c])) fun body hbody => by
            simpa using Items.quoted hquote hinside hbody
          exact .bare (by simpa using hfront)
      | opening =>
        rw [closingFrom_open] at h
        exact before (depth + 1) h fun passed hpassed => .bare hpassed.closes.opened
      | closing =>
        rw [closingFrom_close] at h
        cases depth with
        | zero =>
          rw [if_pos (by simp)] at h
          obtain rfl := Option.some.inj h
          exact ⟨[')'], t, rfl, rfl, .bare (.level .nil .done)⟩
        | succ depth =>
          rw [if_neg (by omega), show ((depth + 1 + 1 : Nat) : Int) - 1 = (depth + 1 : Nat) by
            omega] at h
          exact before depth h fun passed hpassed => .bare (.level .nil hpassed.closes)
      | plain hquote hopen hclose =>
        rw [closingFrom_plain hquote hopen hclose] at h
        refine before depth h fun passed hpassed => ?_
        exact .bare (hpassed.closes.before [c] fun body => .plain hquote hopen hclose)

/-! ## Closing parentheses -/

theorem closingParen?_of_group {t group : Text} {start : Nat} (h : Group group)
    (hbegins : group <+: t.drop start) : closingParen? t start = some (start + group.length) := by
  obtain ⟨rest, hrest⟩ := hbegins
  rw [closingParen?, ← hrest, closingFrom_group h]

theorem group_of_closingParen? {t : Text} {start stop : Nat} (hopen : t[start]? = some '(')
    (h : closingParen? t start = some stop) :
    ∃ group, Group group ∧ group <+: t.drop start ∧ stop = start + group.length := by
  obtain ⟨hstart, hchar⟩ := List.getElem?_eq_some_iff.mp hopen
  rw [closingParen?, List.drop_eq_getElem_cons hstart, hchar, closingFrom_open] at h
  obtain ⟨passed, rest, hdrop, rfl, hpassed⟩ := passed_of_closingFrom 0 h
  refine ⟨'(' :: passed, group_of_closes hpassed.closes, ⟨rest, ?_⟩, ?_⟩
  · rw [List.drop_eq_getElem_cons hstart, hchar, hdrop, List.cons_append]
  · rw [List.length_cons]
    omega

/-- The slices from a place on are the prefixes of what follows it. -/
theorem slice_iff_begins {t : Text} {start stop : Nat} {p : Text → Prop} (hempty : ¬p []) :
    (stop ≤ t.length ∧ p (t.slice ⟨start, stop⟩)) ↔
      ∃ piece, p piece ∧ piece <+: t.drop start ∧ stop = start + piece.length := by
  constructor
  · rintro ⟨hstop, hp⟩
    have hlength : (t.slice ⟨start, stop⟩).length = stop - start := Text.length_slice hstop
    have hpos : (t.slice ⟨start, stop⟩).length ≠ 0 := by
      intro hzero
      rw [List.length_eq_zero_iff] at hzero
      exact hempty (hzero ▸ hp)
    refine ⟨_, hp, ?_, by omega⟩
    rw [Text.slice_eq_take_drop]
    exact List.take_prefix _ _
  · rintro ⟨piece, hp, hbegins, rfl⟩
    have hslice := Text.slice_of_begins hbegins
    have hle := hbegins.length_le
    have hpos : piece.length ≠ 0 := fun h => hempty (List.length_eq_zero_iff.mp h ▸ hp)
    rw [List.length_drop] at hle
    rw [hslice]
    exact ⟨by omega, hp⟩

theorem not_group_nil : ¬Group [] := by
  rintro ⟨body, -, h⟩
  exact List.cons_ne_nil _ _ h.symm

theorem closingParen?_eq_none_iff {t : Text} {start : Nat} (hopen : t[start]? = some '(') :
    closingParen? t start = none ↔ ∀ piece, piece <+: t.drop start → ¬Group piece := by
  constructor
  · intro h piece hbegins hgroup
    rw [closingParen?_of_group hgroup hbegins] at h
    exact Option.some_ne_none _ h
  · intro h
    cases hscan : closingParen? t start with
    | none => rfl
    | some stop =>
      obtain ⟨group, hgroup, hbegins, -⟩ := group_of_closingParen? hopen hscan
      exact absurd hgroup (h group hbegins)

theorem eq_of_groups {t piece piece' : Text} {start : Nat} (hbegins : piece <+: t.drop start)
    (hbegins' : piece' <+: t.drop start) (hgroup : Group piece) (hgroup' : Group piece') :
    piece = piece' := by
  have hscan := closingParen?_of_group hgroup hbegins
  rw [closingParen?_of_group hgroup' hbegins'] at hscan
  have hlength : piece.length = piece'.length := Nat.add_left_cancel (Option.some.inj hscan).symm
  exact (List.prefix_of_prefix_length_le hbegins hbegins' (Nat.le_of_eq hlength)).eq_of_length hlength

/-! ## Where a group begins -/

def turn (quote : Option Char) (c : Char) : Int :=
  if isBare quote c then if c == '(' then 1 else if c == ')' then -1 else 0 else 0

/-- Each character ends the scan, or it changes depth and quote. -/
theorem closingFrom_cons_cases {depth : Int} {quote : Option Char} {position stop : Nat} {c : Char}
    {t : Text} (h : closingFrom depth quote position (c :: t) = some stop) :
    (quote = none ∧ depth = 1 ∧ stop = position + 1) ∨
      (closingFrom (depth + turn quote c) (quoteAfter quote c) (position + 1) t = some stop ∧
        (0 < depth → 0 < depth + turn quote c)) := by
  cases charCase quote c with
  | hidden hhidden =>
    have hturn : turn quote c = 0 := by simp [turn, hhidden]
    rw [closingFrom, if_neg hhidden] at h
    rw [hturn, Int.add_zero]
    exact .inr ⟨h, id⟩
  | opening => exact .inr ⟨h, fun hpos => Int.add_pos hpos Int.one_pos⟩
  | closing =>
    rw [closingFrom_close] at h
    by_cases hlast : depth - 1 = 0
    · rw [if_pos hlast] at h
      exact .inl ⟨rfl, by omega, (Option.some.inj h).symm⟩
    · rw [if_neg hlast] at h
      exact .inr ⟨h, fun hpos => show 0 < depth - 1 by omega⟩
  | plain hquote hopen hclose =>
    rw [closingFrom_plain hquote hopen hclose] at h
    have hafter : quoteAfter none c = none := by simp [quoteAfter, hquote]
    have hturn : turn none c = 0 := by simp [turn, hopen, hclose]
    rw [hafter, hturn, Int.add_zero]
    exact .inr ⟨h, id⟩

theorem quoteAfter_isQuote {quote : Option Char} {c : Char} (h : ∀ q ∈ quote, isQuote q = true) :
    ∀ q ∈ quoteAfter quote c, isQuote q = true := by
  cases quote with
  | none =>
    rw [quoteAfter]
    split <;> simp_all
  | some q' =>
    rw [quoteAfter]
    split <;> simp_all

/-- A character leads no two states to one. -/
theorem quoteAfter_inj {quote quote' : Option Char} {c : Char} (h : ∀ q ∈ quote, isQuote q = true)
    (h' : ∀ q ∈ quote', isQuote q = true) (heq : quoteAfter quote c = quoteAfter quote' c) :
    quote = quote' := by
  cases quote <;> cases quote' <;> simp only [quoteAfter] at heq <;> grind

/-- Two scans that end at one place agree wherever both have come, since no character leads two states
to one. -/
theorem closingFrom_inj {depth depth' : Int} {quote quote' : Option Char} {position stop : Nat} {t : Text}
    (hquote : ∀ q ∈ quote, isQuote q = true) (hquote' : ∀ q ∈ quote', isQuote q = true)
    (h : closingFrom depth quote position t = some stop)
    (h' : closingFrom depth' quote' position t = some stop) : depth = depth' ∧ quote = quote' := by
  induction t generalizing depth depth' quote quote' position with
  | nil => cases h
  | cons c t ih =>
    rcases closingFrom_cons_cases h with ⟨rfl, rfl, hstop⟩ | ⟨hnext, -⟩ <;>
      rcases closingFrom_cons_cases h' with ⟨rfl, rfl, hstop'⟩ | ⟨hnext', -⟩
    · exact ⟨rfl, rfl⟩
    · have hlt := (closingFrom_bounds hnext').1
      omega
    · have hlt := (closingFrom_bounds hnext).1
      omega
    · obtain ⟨hdepth, hafter⟩ := ih (quoteAfter_isQuote hquote) (quoteAfter_isQuote hquote') hnext hnext'
      obtain rfl := quoteAfter_inj hquote hquote' hafter
      exact ⟨by omega, rfl⟩

/-- A scan that ends after a place comes to that place, and its groups are open there. -/
theorem closingFrom_reaches {depth : Int} {quote : Option Char} {position stop : Nat} {u t : Text}
    (hdepth : 0 < depth) (hquote : ∀ q ∈ quote, isQuote q = true)
    (h : closingFrom depth quote position (u ++ t) = some stop) (hlt : position + u.length < stop) :
    ∃ depth' quote', 0 < depth' ∧ (∀ q ∈ quote', isQuote q = true) ∧
      closingFrom depth' quote' (position + u.length) t = some stop := by
  induction u generalizing depth quote position with
  | nil => exact ⟨depth, quote, hdepth, hquote, h⟩
  | cons c u ih =>
    rw [List.length_cons] at hlt ⊢
    rcases closingFrom_cons_cases h with ⟨-, -, hstop⟩ | ⟨hnext, hpos⟩
    · omega
    · rw [← Nat.add_assoc, Nat.add_right_comm] at hlt ⊢
      exact ih (hpos hdepth) (quoteAfter_isQuote hquote) hnext hlt

theorem eq_of_closingParen? {t : Text} {i j stop : Nat} (hi : t[i]? = some '(') (hj : t[j]? = some '(')
    (h : closingParen? t i = some stop) (h' : closingParen? t j = some stop) : i = j := by
  have hnot : ∀ {i j : Nat}, t[i]? = some '(' → closingParen? t i = some stop →
      closingParen? t j = some stop → ¬i < j := by
    intro i j hi h h' hlt
    obtain ⟨hin, hchar⟩ := List.getElem?_eq_some_iff.mp hi
    have hbounds := closingParen?_bounds h'
    rw [closingParen?, List.drop_eq_getElem_cons hin, hchar, closingFrom_open,
      ← List.take_append_drop (j - (i + 1)) (t.drop (i + 1)), List.drop_drop] at h
    have hlength : i + 1 + ((t.drop (i + 1)).take (j - (i + 1))).length = j := by
      rw [List.length_take, List.length_drop]
      omega
    obtain ⟨depth, quote, hdepth, hquote, hscan⟩ :=
      closingFrom_reaches (by decide) (by simp) h (by omega)
    rw [hlength, Nat.add_sub_cancel' hlt] at hscan
    obtain ⟨rfl, -⟩ := closingFrom_inj hquote (by simp) hscan h'
    omega
  exact Nat.le_antisymm (Nat.le_of_not_lt (hnot hj h' h)) (Nat.le_of_not_lt (hnot hi h h'))

/-! ## What the scan finds -/

/-- The scan from an opening parenthesis ends just where the text from there on is a group. It ends
nowhere just where no group begins there, and at most one does. -/
theorem closingParen?_iff_group {t : Text} {start : Nat} (hopen : t[start]? = some '(') :
    (∀ stop, closingParen? t start = some stop ↔
      stop ≤ t.length ∧ Group (t.slice ⟨start, stop⟩)) ∧
    (closingParen? t start = none ↔ ∀ piece, piece <+: t.drop start → ¬Group piece) ∧
    ∀ piece piece', piece <+: t.drop start → piece' <+: t.drop start →
      Group piece → Group piece' → piece = piece' := by
  refine ⟨fun stop => ?_, closingParen?_eq_none_iff hopen, fun _ _ => eq_of_groups⟩
  rw [slice_iff_begins not_group_nil]
  constructor
  · exact group_of_closingParen? hopen
  · rintro ⟨group, hgroup, hbegins, rfl⟩
    exact closingParen?_of_group hgroup hbegins

/-- A call with parentheses in both kinds of quotes and a group inside, and one more parenthesis. -/
def quotedParens : Text := "f('\"(', \")'\", (x)))".toList

theorem quotedParens_group :
    quotedParens[1]? = some '(' ∧ closingParen? quotedParens 1 = some 18 ∧
      Group (quotedParens.slice ⟨1, 18⟩) := by
  have hopen : quotedParens[1]? = some '(' := by decide
  have hclosing : closingParen? quotedParens 1 = some 18 := by decide
  exact ⟨hopen, hclosing, (((closingParen?_iff_group hopen).1 18).mp hclosing).2⟩

end QueryLint.Sql
