import QueryLint.Proofs.Pattern.Preferred
import QueryLint.Proofs.Sql.Keyword
import QueryLint.Sql.Clause

/-! Where clauses end. The body of a clause, read alone from its first character, goes on to the first
place at which nothing is open and a closing parenthesis comes, a semicolon, or a word that ends the
clause. Main statements: `clauseEnd_firstStop`, the scan finds the first such place; `clauseAt_whole_iff`,
a body takes all of the text just if there is none; and `clauses_longest`, for the clauses of WHERE and
ON. -/
namespace QueryLint.Sql
set_option autoImplicit false
open Text Shape

/-! ## Words that end a clause -/

/-- A word that ends a clause, or two words of which the second has to follow. -/
structure Ending where
  first : String
  second? : Option String
deriving DecidableEq

namespace Ending

def shape (e : Ending) : Shape := e.second?.elim (lit e.first) (pair e.first)

/-- The words stand at the beginning of a text, letter case aside, and the text goes on with no word. -/
def Begins (e : Ending) (t : Text) : Prop :=
  sameLetters e.first.toList (leadingWord t) = true ∧ ∀ second ∈ e.second?, ∃ gap rest,
    t = leadingWord t ++ (gap ++ rest) ∧ gap ≠ [] ∧ (∀ c ∈ gap, isBlank c = true) ∧
      sameLetters second.toList (leadingWord rest) = true

structure IsWords (e : Ending) : Prop where
  first : IsWordName e.first.toList
  second : ∀ second ∈ e.second?, IsWordName second.toList

theorem isWords_of_ascii {e : Ending} (h : ∀ w ∈ e.first :: e.second?.toList, IsAsciiName w.toList) :
    e.IsWords := by
  obtain ⟨hfirst, hsecond⟩ := List.forall_mem_cons.mp h
  exact ⟨hfirst.isWordName, fun second hmem => (hsecond second (Option.mem_toList.mpr hmem)).isWordName⟩

theorem exists_end_iff_begins {e : Ending} (he : e.IsWords) {p : Progress} :
    (∃ q, q ∈ (e.shape ++ edge).ends true p) ↔ e.Begins p.cursor.rest := by
  obtain ⟨first, second?⟩ := e
  cases second? with
  | none =>
    have hword : ∀ q, q ∈ (lit first ++ edge).ends true p ↔ _ := fun q => mem_ends_word he.first
    simp [shape, hword, Begins]
  | some second =>
    have hassoc : ((lit first ++ space ++ lit second) ++ edge).ends true p
        = ((lit first ++ space) ++ (lit second ++ edge)).ends true p := ends_assoc p
    constructor
    · rintro ⟨q, hq⟩
      obtain ⟨r, hr, hq⟩ := mem_ends_seq.mp (hassoc ▸ hq)
      obtain ⟨r, hfirst, hspace⟩ := mem_ends_seq.mp hr
      obtain ⟨v, hv, ⟨after, hafter⟩, rfl⟩ := mem_ends_chars.mp hfirst
      obtain ⟨gap, hne, ⟨rest, hrest⟩, hgap, rfl⟩ := mem_ends_space.mp hspace
      obtain ⟨hsecond, -⟩ := (mem_ends_word (he.second second rfl)).mp hq
      rw [Progress.past_cursor, Cursor.past_rest, ← hafter, List.drop_left] at hrest
      have hends : WordEnds (gap ++ rest) := by
        obtain ⟨c, gap, rfl⟩ := List.exists_cons_of_ne_nil hne
        exact wordEnds_cons.mpr (isWord_of_isBlank (hgap c List.mem_cons_self))
      have hlead : leadingWord p.cursor.rest = v := by
        rw [← hafter, ← hrest, leadingWord_append (he.first.isWord_of_sameLetters hv) hends]
      refine ⟨by rwa [hlead], fun w hw => ?_⟩
      obtain rfl := Option.some.inj hw
      refine ⟨gap, rest, by rw [hlead, hrest, hafter], hne, hgap, ?_⟩
      rwa [Progress.past_past, Progress.past_cursor, Cursor.past_rest, ← hafter, ← hrest,
        ← List.append_assoc, List.drop_left] at hsecond
    · rintro ⟨hfirst, hlater⟩
      obtain ⟨gap, rest, hsplit, hne, hgap, hsecond⟩ := hlater second rfl
      have hfirstIn : leadingWord p.cursor.rest <+: p.cursor.rest := List.takeWhile_prefix _
      have hafter : (p.past (leadingWord p.cursor.rest)).cursor.rest = gap ++ rest := rest_past hsplit
      have hgapIn : gap <+: (p.past (leadingWord p.cursor.rest)).cursor.rest :=
        hafter ▸ List.prefix_append gap rest
      have hpair := mem_ends_seq.mpr ⟨_, mem_ends_chars.mpr ⟨_, hfirst, hfirstIn, rfl⟩,
        mem_ends_space.mpr ⟨gap, hne, hgapIn, hgap, rfl⟩⟩
      refine ⟨_, hassoc ▸ mem_ends_seq.mpr ⟨_, hpair,
        (mem_ends_word (he.second second rfl)).mpr ⟨?_, rfl⟩⟩⟩
      rwa [rest_past hafter]

end Ending

theorem mem_ends_oneOf {blind : Bool} {shapes : List Shape} {p q : Progress} :
    q ∈ (oneOf shapes).ends blind p ↔ ∃ s ∈ shapes, q ∈ s.ends blind p := by
  induction shapes with
  | nil => simp [oneOf, ends]
  | cons s shapes ih =>
    cases shapes with
    | nil => simp [oneOf]
    | cons s' shapes => simp [oneOf, mem_ends_either, ih]

/-- The pattern matches just where one of the endings begins. -/
structure Terminates (terminator : Pattern) (endings : List Ending) : Prop where
  words : ∀ e ∈ endings, e.IsWords
  match_iff : ∀ c : Cursor,
    (terminator.matchAt? c).isSome = true ↔ ∃ e ∈ endings, e.Begins c.rest

theorem terminates_of_words {endings : List Ending} (hwords : ∀ e ∈ endings, e.IsWords) :
    Terminates (.anyCase (oneOf (endings.map Ending.shape) ++ edge)) endings := by
  refine ⟨hwords, fun c => ?_⟩
  rw [Pattern.isSome_matchAt?]
  constructor
  · rintro ⟨q, hq⟩
    obtain ⟨r, hr, hedge⟩ := mem_ends_seq.mp hq
    obtain ⟨s, hs, hr⟩ := mem_ends_oneOf.mp hr
    obtain ⟨e, he, rfl⟩ := List.mem_map.mp hs
    exact ⟨e, he, (Ending.exists_end_iff_begins (hwords e he)).mp
      ⟨q, mem_ends_seq.mpr ⟨r, hr, hedge⟩⟩⟩
  · rintro ⟨e, he, hbegins⟩
    obtain ⟨q, hq⟩ := (Ending.exists_end_iff_begins (p := ⟨c, []⟩) (hwords e he)).mpr hbegins
    obtain ⟨r, hr, hedge⟩ := mem_ends_seq.mp hq
    have hmem := mem_ends_oneOf.mpr ⟨_, List.mem_map_of_mem he, hr⟩
    exact ⟨q, mem_ends_seq.mpr ⟨r, hmem, hedge⟩⟩

def whereEndings : List Ending :=
  [⟨"group", some "by"⟩, ⟨"order", some "by"⟩, ⟨"having", none⟩, ⟨"qualify", none⟩, ⟨"window", none⟩,
    ⟨"limit", none⟩, ⟨"offset", none⟩, ⟨"union", none⟩, ⟨"intersect", none⟩, ⟨"except", none⟩,
    ⟨"returning", none⟩]

def onEndings : List Ending :=
  [⟨"join", none⟩, ⟨"inner", none⟩, ⟨"left", none⟩, ⟨"right", none⟩, ⟨"full", none⟩, ⟨"cross", none⟩,
    ⟨"natural", none⟩, ⟨"positional", none⟩, ⟨"asof", none⟩, ⟨"anti", none⟩, ⟨"semi", none⟩,
    ⟨"where", none⟩, ⟨"group", some "by"⟩, ⟨"order", some "by"⟩, ⟨"having", none⟩, ⟨"qualify", none⟩,
    ⟨"window", none⟩, ⟨"limit", none⟩, ⟨"offset", none⟩, ⟨"union", none⟩, ⟨"intersect", none⟩,
    ⟨"except", none⟩]

theorem whereTerminator_terminates : Terminates whereTerminator whereEndings := by
  have hascii : ∀ e ∈ whereEndings, ∀ w ∈ e.first :: e.second?.toList, IsAsciiName w.toList := by decide
  exact terminates_of_words fun e he => Ending.isWords_of_ascii (hascii e he)

theorem onTerminator_terminates : Terminates onTerminator onEndings := by
  have hascii : ∀ e ∈ onEndings, ∀ w ∈ e.first :: e.second?.toList, IsAsciiName w.toList := by decide
  exact terminates_of_words fun e he => Ending.isWords_of_ascii (hascii e he)

/-! ## What a stretch leaves open -/

/-- What a stretch leaves open: the quote that is not closed, and by how much more parentheses outside
quotes are opened than closed. -/
structure Standing where
  quote : Option Char
  level : Int
deriving DecidableEq

def Standing.after (s : Standing) (c : Char) : Standing :=
  ⟨quoteAfter s.quote c, if isBare s.quote c then s.level + Sql.level [c] else s.level⟩

def Standing.ground : Standing := ⟨none, 0⟩

def standing (t : Text) : Standing := t.foldl Standing.after .ground

theorem standing_concat (t : Text) (c : Char) : standing (t ++ [c]) = (standing t).after c :=
  List.foldl_append

namespace Standing

variable {n : Int}

theorem after_hidden {quote : Option Char} {c : Char} (h : ¬isBare quote c = true) :
    (mk quote n).after c = mk (quoteAfter quote c) n := by
  rw [after, if_neg h]

theorem after_plain {c : Char} (hquote : isQuote c = false) (hopen : c ≠ '(') (hclose : c ≠ ')') :
    (mk none n).after c = mk none n := by
  have hlevel : Sql.level [c] = 0 :=
    Plain.level fun d hd => List.mem_singleton.mp hd ▸ ⟨hopen, hclose⟩
  simp [after, isBare, quoteAfter, hquote, hlevel]

theorem after_quote {q : Char} (hquote : isQuote q = true) : (mk none n).after q = mk (some q) n := by
  simp [after, isBare, quoteAfter, hquote]

theorem after_unquote (q : Char) : (mk (some q) n).after q = mk none n := by
  simp [after, isBare, quoteAfter]

theorem after_open : (mk none n).after '(' = mk none (n + 1) := rfl

theorem after_close : (mk none (n + 1)).after ')' = mk none n := by
  have hafter : (mk none (n + 1)).after ')' = mk none (n + 1 + -1) := rfl
  rw [hafter, Int.add_neg_cancel_right]

end Standing

theorem slice_self (t : Text) (i : Nat) : t.slice ⟨i, i⟩ = [] := by
  rw [Text.slice_eq_take_drop, Nat.sub_self, List.take_zero]

theorem slice_succ {t : Text} {start i : Nat} {c : Char} (hstart : start ≤ i) (hc : t[i]? = some c) :
    t.slice ⟨start, i + 1⟩ = t.slice ⟨start, i⟩ ++ [c] := by
  have hlt : i < t.length := (List.getElem?_eq_some_iff.mp hc).1
  rw [Text.slice, List.take_add_one, hc, Option.toList_some,
    List.drop_append_of_le_length (by simp only [List.length_take]; omega)]
  rfl

/-! ## Stops -/

/-- A clause that begins at `start` cannot go on at `i`: what it has passed leaves nothing open, and a
closing parenthesis comes, a semicolon, or after no word character an ending. -/
structure StopsAt (endings : List Ending) (sql : Text) (start i : Nat) : Prop where
  ground : standing (sql.slice ⟨start, i⟩) = .ground
  sign : sql[i]? = some ')' ∨ sql[i]? = some ';' ∨
    (∀ c ∈ (sql.take i).getLast?, isWord c = false) ∧ ∃ e ∈ endings, e.Begins (sql.drop i)

/-- The clause can go on at every place before `stop`. -/
def Clear (endings : List Ending) (sql : Text) (start stop : Nat) : Prop :=
  ∀ i, start ≤ i → i < stop → ¬StopsAt endings sql start i

/-- From `i` on, the first place where the clause cannot go on, or the end of the text. -/
structure FirstStop (endings : List Ending) (sql : Text) (start i stop : Nat) : Prop where
  le : i ≤ stop
  le_length : stop ≤ sql.length
  clear : ∀ j, i ≤ j → j < stop → ¬StopsAt endings sql start j
  stopped : stop = sql.length ∨ StopsAt endings sql start stop

section Scan

variable {terminator : Pattern} {endings : List Ending} {sql : Text} {start i : Nat}

theorem FirstStop.of_next {stop : Nat} (hnot : ¬StopsAt endings sql start i)
    (h : FirstStop endings sql start (i + 1) stop) : FirstStop endings sql start i stop := by
  obtain ⟨hle, hlength, hclear, hstopped⟩ := h
  refine ⟨by omega, hlength, fun j hj hlt => ?_, hstopped⟩
  rcases Nat.eq_or_lt_of_le hj with rfl | hj
  · exact hnot
  · exact hclear j hj hlt

theorem FirstStop.here (hi : i ≤ sql.length) (h : i = sql.length ∨ StopsAt endings sql start i) :
    FirstStop endings sql start i i :=
  ⟨Nat.le_refl i, hi, fun _ hj hlt => absurd hlt (Nat.not_lt_of_le hj), h⟩

theorem noSign_of_isWord {c : Char} (hword : isWord c = true) :
    isQuote c = false ∧ c ≠ '(' ∧ c ≠ ')' ∧ c ≠ ';' := noSign_of_class (by decide) hword

theorem StopsAt.bare (hwords : ∀ e ∈ endings, e.IsWords) (h : StopsAt endings sql start i) {c : Char}
    (hc : sql[i]? = some c) : isQuote c = false ∧ c ≠ '(' := by
  rcases h.sign with hsign | hsign | ⟨-, e, he, hbegins, -⟩
  · obtain rfl := Option.some.inj (hc.symm.trans hsign)
    exact ⟨rfl, by decide⟩
  · obtain rfl := Option.some.inj (hc.symm.trans hsign)
    exact ⟨rfl, by decide⟩
  · have hne := (hwords e he).first.ne_nil_of_sameLetters hbegins
    have hhead := head?_of_begins (List.takeWhile_prefix isWord) hne
    rw [List.head?_drop, hc] at hhead
    have hword := (hwords e he).first.isWord_of_sameLetters hbegins c (List.mem_of_mem_head? hhead)
    exact ⟨(noSign_of_isWord hword).1, (noSign_of_isWord hword).2.1⟩

theorem StopsAt.nothing_open {quote : Option Char} {depth : Nat} (h : StopsAt endings sql start i)
    (hstanding : standing (sql.slice ⟨start, i⟩) = ⟨quote, depth⟩) : quote = none ∧ depth = 0 := by
  obtain ⟨hquote, hlevel⟩ := Standing.mk.inj (hstanding.symm.trans h.ground)
  exact ⟨hquote, Int.ofNat_eq_zero.mp hlevel⟩

/-- The test of the scan at a character that is no parenthesis. -/
theorem stopsAt_iff_test (hterm : Terminates terminator endings) {depth : Nat}
    (hstanding : standing (sql.slice ⟨start, i⟩) = ⟨none, depth⟩) {c : Char} {rest : Text}
    (hrest : sql.drop i = c :: rest) (hclose : c ≠ ')') :
    StopsAt endings sql start i ↔
      (decide (depth = 0) && (c == ';' || (!(sql.take i).getLast?.any isWord &&
        (terminator.matchAt? ⟨(sql.take i).getLast?, i, c :: rest⟩).isSome))) = true := by
  have hc : sql[i]? = some c := by rw [← List.head?_drop, hrest, List.head?_cons]
  have hbegins := hterm.match_iff ⟨(sql.take i).getLast?, i, c :: rest⟩
  rw [Bool.and_eq_true, decide_eq_true_eq, Bool.or_eq_true, beq_iff_eq, Bool.and_eq_true,
    Bool.not_eq_true', any_isWord_eq_false, hbegins, ← hrest]
  constructor
  · intro h
    refine ⟨(h.nothing_open hstanding).2, ?_⟩
    rcases h.sign with hsign | hsign | hending
    · exact absurd (Option.some.inj (hc.symm.trans hsign)) hclose
    · exact .inl (Option.some.inj (hc.symm.trans hsign))
    · exact .inr hending
  · rintro ⟨rfl, hsign⟩
    exact ⟨hstanding, .inr (hsign.imp_left fun h : c = ';' => h ▸ hc)⟩

/-- The invariant of the scan, by induction on what is left: quote and depth are what the text passed so
far leaves open. -/
theorem clauseEnd_firstStop (hterm : Terminates terminator endings) {depth : Nat} {quote : Option Char}
    {rest : Text} (hrest : sql.drop i = rest) (hstart : start ≤ i) (hi : i ≤ sql.length)
    (hstanding : standing (sql.slice ⟨start, i⟩) = ⟨quote, depth⟩) :
    FirstStop endings sql start i
      (clauseEnd terminator depth quote (sql.take i).getLast? i rest) := by
  induction rest generalizing i depth quote with
  | nil =>
    have hend : i = sql.length := Nat.le_antisymm hi (List.drop_eq_nil_iff.mp hrest)
    exact .here hi (.inl hend)
  | cons c rest ih =>
    have hc : sql[i]? = some c := by rw [← List.head?_drop, hrest, List.head?_cons]
    have hlt : i < sql.length := (List.getElem?_eq_some_iff.mp hc).1
    have hlast : (sql.take (i + 1)).getLast? = some c := by
      rw [List.take_add_one, hc, Option.toList_some, List.getLast?_concat]
    -- The scan goes on after a character that is no stop.
    have next : ∀ {quote' : Option Char} {depth' : Nat}, ¬StopsAt endings sql start i →
        (Standing.mk quote depth).after c = ⟨quote', depth'⟩ →
        FirstStop endings sql start i
          (clauseEnd terminator depth' quote' (some c) (i + 1) rest) := by
      intro quote' depth' hnot hafter
      have hnext : sql.drop (i + 1) = rest := by rw [← List.drop_drop, hrest]; rfl
      have hlater := ih hnext (Nat.le_succ_of_le hstart) hlt
        (by rw [slice_succ hstart hc, standing_concat, hstanding, hafter])
      rw [hlast] at hlater
      exact hlater.of_next hnot
    rw [clauseEnd]
    cases charCase quote c with
    | hidden hhidden =>
      rw [if_neg hhidden]
      refine next (fun h => hhidden ?_) (Standing.after_hidden hhidden)
      obtain ⟨rfl, -⟩ := h.nothing_open hstanding
      simp [isBare, (h.bare hterm.words hc).1]
    | opening => exact next (fun h => (h.bare hterm.words hc).2 rfl) Standing.after_open
    | closing =>
      cases depth with
      | zero => exact .here hi (.inr ⟨hstanding, .inl hc⟩)
      | succ depth =>
        have hnot : ¬StopsAt endings sql start i := fun h =>
          absurd (h.nothing_open hstanding).2 (Nat.succ_ne_zero depth)
        exact next hnot (Standing.after_close (n := depth))
    | plain hquote hopen hclose =>
      have htest := stopsAt_iff_test hterm hstanding hrest hclose
      simp only [isBare, hquote, Option.isNone_none, Bool.not_false, Bool.and_self, if_true, beq_iff_eq,
        hopen, hclose, if_false]
      split
      · rename_i hstop
        exact .here hi (.inr (htest.mpr (by simpa using hstop)))
      · rename_i hstop
        exact next (fun h => hstop (by simpa using htest.mp h)) (Standing.after_plain hquote hopen hclose)

theorem clauseAt_firstStop (hterm : Terminates terminator endings) (h : start ≤ sql.length) :
    ∃ stop, FirstStop endings sql start start stop ∧
      clauseAt terminator sql start = ⟨start, sql.slice ⟨start, stop⟩⟩ := by
  have hground : standing (sql.slice ⟨start, start⟩) = ⟨none, (0 : Nat)⟩ := by
    rw [slice_self]
    rfl
  have hstop := clauseEnd_firstStop hterm rfl (Nat.le_refl start) h hground
  refine ⟨_, hstop, ?_⟩
  simp only [clauseAt, Cursor.seek, List.length_take, Nat.min_eq_left h]

theorem FirstStop.clear_iff {stop : Nat} (h : FirstStop endings sql start start stop) {j : Nat}
    (hj : j ≤ sql.length) : Clear endings sql start j ↔ j ≤ stop := by
  constructor
  · intro hclear
    refine Nat.le_of_not_lt fun hlt => ?_
    rcases h.stopped with hend | hstops
    · omega
    · exact hclear stop h.le hlt hstops
  · intro hle i hi hlt
    exact h.clear i hi (Nat.lt_of_lt_of_le hlt hle)

theorem clauseAt_whole_iff (hterm : Terminates terminator endings) (h : start ≤ sql.length) :
    clauseAt terminator sql start = ⟨start, sql.drop start⟩ ↔ Clear endings sql start sql.length := by
  obtain ⟨stop, hstop, hbody⟩ := clauseAt_firstStop hterm h
  have hle := hstop.le
  have hlength := hstop.le_length
  rw [hbody, hstop.clear_iff (Nat.le_refl _)]
  constructor
  · intro heq
    have hdrop := congrArg (fun c : Clause => c.body.length) heq
    simp only [List.length_drop] at hdrop
    rw [Text.length_slice hlength] at hdrop
    simp only at hdrop
    omega
  · intro hend
    obtain rfl : stop = sql.length := by omega
    rw [Text.slice, List.take_length]

end Scan

/-! ## The clauses of a keyword -/

/-- For each place where the keyword stands alone one clause: it begins after the keyword, its body is
the text from there on, it can go on at every place of the body, and not at its end. -/
structure LongestBodies (keyword : Text) (endings : List Ending) (sql : Text) (found : List Clause) :
    Prop where
  starts : found.map Clause.start = (wordPlaces keyword sql).map (· + keyword.length)
  body : ∀ c ∈ found, sql.slice ⟨c.start, c.start + c.body.length⟩ = c.body
  longest : ∀ c ∈ found, ∀ stop ≤ sql.length,
    Clear endings sql c.start stop ↔ stop ≤ c.start + c.body.length
  stopped : ∀ c ∈ found, c.start + c.body.length = sql.length ∨
    StopsAt endings sql c.start (c.start + c.body.length)

theorem clauses_longestBodies {s : String} (hs : IsWordName s.toList) {terminator : Pattern}
    {endings : List Ending} (hterm : Terminates terminator endings) (sql : Text) :
    LongestBodies s.toList endings sql (clauses (.anyCase (keyword s)) terminator sql) := by
  have hclause : ∀ c ∈ clauses (.anyCase (keyword s)) terminator sql, ∃ stop,
      FirstStop endings sql c.start c.start stop ∧ c.body = sql.slice ⟨c.start, stop⟩ ∧
        stop = c.start + c.body.length := by
    intro c hc
    obtain ⟨m, hm, rfl⟩ := List.mem_map.mp hc
    obtain ⟨stop, hstop, heq⟩ :=
      clauseAt_firstStop hterm (Pattern.of_mem_all hm).stop_le_length
    have hle := hstop.le
    refine ⟨stop, heq ▸ hstop, by rw [heq], ?_⟩
    rw [heq, Text.length_slice hstop.le_length]
    simp only
    omega
  constructor
  · rw [clauses, List.map_map, all_keyword hs, List.map_map]
    rfl
  · intro c hc
    obtain ⟨stop, -, hbody, rfl⟩ := hclause c hc
    exact hbody.symm
  · intro c hc j hj
    obtain ⟨stop, hstop, -, rfl⟩ := hclause c hc
    exact hstop.clear_iff hj
  · intro c hc
    obtain ⟨stop, hstop, -, rfl⟩ := hclause c hc
    exact hstop.stopped

/-- The clauses of WHERE and of ON have the longest bodies that no stop interrupts, where the endings
are just what their terminators match. -/
theorem clauses_longest (sql : Text) :
    Terminates whereTerminator whereEndings ∧ Terminates onTerminator onEndings ∧
      LongestBodies "where".toList whereEndings sql (whereClauses sql) ∧
      LongestBodies "on".toList onEndings sql (clauses onKeyword onTerminator sql) :=
  ⟨whereTerminator_terminates, onTerminator_terminates,
    clauses_longestBodies (isWordName "where") whereTerminator_terminates sql,
    clauses_longestBodies (isWordName "on") onTerminator_terminates sql⟩

end QueryLint.Sql
