import QueryLint.Proofs.Pattern.Taken
import QueryLint.Proofs.Sql.Stretch
import QueryLint.Proofs.Text.Variant
import QueryLint.Sql.Call

/-! Calls of a function by name, said without a pattern: the letters of the name at the edge of a word,
white space, an opening parenthesis, and all up to the one that closes it. Main statements:
`headAt?_of_isHead` and `exists_isHead_of_headAt?`, the search finds the heads; and `mapCallsFrom_cons` and
`mapCallsFrom_call`, one step of the rewriting where no call begins and where one begins. -/
namespace QueryLint.Sql
set_option autoImplicit false
open Text Shape

/-! ## Heads -/

/-- A head of a call after a character: the letters of the name, case aside, at the edge of a word,
white space, and the opening parenthesis. -/
def IsHead (name : Text) (before : Option Char) (head : Text) : Prop :=
  ∃ word gap, head = word ++ (gap ++ ['(']) ∧ sameLetters name word = true ∧
    (∀ c ∈ gap, isBlank c = true) ∧ wordEdge before head.head? = true

/-- A name that a call can have: word characters, at least one. -/
structure IsName (name : Text) : Prop where
  ne_nil : name ≠ []
  word : ∀ c ∈ name, isWord c = true

instance (name : Text) : Decidable (IsName name) :=
  decidable_of_iff (name ≠ [] ∧ name.all isWord = true)
    ⟨fun ⟨hne, hall⟩ => ⟨hne, List.all_eq_true.mp hall⟩,
      fun h => ⟨h.ne_nil, List.all_eq_true.mpr h.word⟩⟩

namespace IsHead

variable {name : Text} {before : Option Char} {head : Text}

theorem ne_nil (h : IsHead name before head) : head ≠ [] := by
  obtain ⟨word, gap, rfl, -⟩ := h
  simp

theorem name_length_lt (h : IsHead name before head) : name.length < head.length := by
  obtain ⟨word, gap, rfl, hname, -⟩ := h
  rw [length_eq_of_sameLetters hname, List.length_append, List.length_append, List.length_singleton]
  omega

/-- Only whether a word stands before it matters for a head. -/
theorem congr_before (h : IsHead name before head) {before' : Option Char}
    (hbefore : before'.any isWord = before.any isWord) : IsHead name before' head := by
  obtain ⟨word, gap, hhead, hname, hgap, hedge⟩ := h
  refine ⟨word, gap, hhead, hname, hgap, ?_⟩
  rw [wordEdge, hbefore]
  exact hedge

theorem letter (h : IsHead name before head) {i : Nat} {c : Char} (hc : name[i]? = some c) :
    ∃ d, head[i]? = some d ∧ sameLetter c d = true := by
  obtain ⟨word, gap, rfl, hname, -⟩ := h
  have hfold := congrArg (·[i]?) (sameLetters_iff.mp hname)
  simp only [List.getElem?_map, hc, Option.map_some] at hfold
  obtain ⟨d, hd, hsame⟩ := Option.map_eq_some_iff.mp hfold.symm
  have hlt : i < word.length := (List.getElem?_eq_some_iff.mp hd).1
  exact ⟨d, by rw [List.getElem?_append_left hlt, hd], sameLetter_iff.mpr hsame.symm⟩

theorem delimiter (h : IsHead name before head) {i : Nat} (hi : name.length ≤ i)
    (hlt : i < head.length) : ∃ d, head[i]? = some d ∧ isDelimiter d = true := by
  obtain ⟨word, gap, rfl, hname, hgap, -⟩ := h
  rw [length_eq_of_sameLetters hname] at hi
  refine ⟨_, List.getElem?_eq_getElem hlt, ?_⟩
  rw [List.getElem_append_right hi]
  have hmem := List.getElem_mem (l := gap ++ ['(']) (n := i - word.length) (by
    rw [List.length_append] at hlt
    omega)
  rcases List.mem_append.mp hmem with hmem | hmem
  · simp [isDelimiter, hgap _ hmem]
  · rw [List.mem_singleton.mp hmem]
    rfl

theorem unique {before' : Option Char} {head' t : Text} (h : IsHead name before head)
    (h' : IsHead name before' head') (ht : head <+: t) (ht' : head' <+: t) : head = head' := by
  obtain ⟨word, gap, rfl, hname, hgap, -⟩ := h
  obtain ⟨word', gap', rfl, hname', hgap', -⟩ := h'
  have hlength : word.length = word'.length :=
    (length_eq_of_sameLetters hname).symm.trans (length_eq_of_sameLetters hname')
  obtain rfl : word = word' :=
    (List.prefix_of_prefix_length_le ((List.prefix_append _ _).trans ht)
      ((List.prefix_append _ _).trans ht') (Nat.le_of_eq hlength)).eq_of_length hlength
  -- What follows the word determines the white space: it ends where the parenthesis stands.
  obtain ⟨after, hafter⟩ := ht
  obtain ⟨after', hafter'⟩ := ht'
  rw [← hafter, List.append_assoc, List.append_assoc, List.append_assoc, List.append_assoc,
    List.append_cancel_left_eq] at hafter'
  have htake : ∀ {g : Text} (a : Text), (∀ c ∈ g, isBlank c = true) →
      (g ++ (['('] ++ a)).takeWhile isBlank = g := by
    intro g a hg
    rw [List.takeWhile_append_of_pos hg, List.singleton_append, List.takeWhile_cons_of_neg (by decide),
      List.append_nil]
  have hgaps := congrArg (List.takeWhile isBlank) hafter'
  rw [htake _ hgap, htake _ hgap'] at hgaps
  rw [hgaps]

end IsHead

/-- No head begins inside another of the same name: its letters would have to be met where the other
has its white space or its parenthesis. -/
theorem IsHead.not_inside {name : Text} (hname : IsName name) {before before' : Option Char}
    {u v after head' : Text} (h : IsHead name before (u ++ v)) (hu : u ≠ []) (hv : v ≠ [])
    (h' : IsHead name before' head') : ¬head' <+: v ++ after := by
  rintro ⟨rest, hrest⟩
  have hk : 0 < u.length := List.length_pos_iff.mpr hu
  have hn : 0 < name.length := List.length_pos_iff.mpr hname.ne_nil
  have hlt : max u.length name.length < (u ++ v).length := by
    have hlonger := h.name_length_lt
    have hpos := List.length_pos_iff.mpr hv
    rw [List.length_append] at hlonger ⊢
    omega
  obtain ⟨d, hd, hdelimiter⟩ := h.delimiter (Nat.le_max_right u.length name.length) hlt
  have hi : max u.length name.length - u.length < name.length := by omega
  obtain ⟨d', hd', hsame⟩ := h'.letter (List.getElem?_eq_getElem hi)
  have hplace : (v ++ after)[max u.length name.length - u.length]? = some d := by
    rw [List.length_append] at hlt
    rw [List.getElem?_append_left (by omega)]
    rwa [List.getElem?_append_right (Nat.le_max_left _ _)] at hd
  rw [← hrest, List.getElem?_append_left (List.getElem?_eq_some_iff.mp hd').1, hd'] at hplace
  obtain rfl := Option.some.inj hplace
  rw [not_isDelimiter_of_sameLetter (hname.word _ (List.getElem_mem hi)) hsame] at hdelimiter
  exact nomatch hdelimiter

/-- A head that begins in a text with white space at its end does not go on where neither white space nor a
parenthesis follows. -/
theorem IsHead.within_left {name : Text} (hname : IsName name) {before : Option Char} {head u v : Text}
    (h : IsHead name before head) (hbegins : head <+: u ++ v) (hu : u ≠ [])
    (hblank : ∀ c ∈ u.getLast?, isBlank c = true) (hv : ∀ c ∈ v.head?, isDelimiter c = false) : head <+: u := by
  refine List.prefix_of_prefix_length_le hbegins (List.prefix_append u v) (Nat.le_of_not_lt fun hlt => ?_)
  have hk : 0 < u.length := List.length_pos_iff.mpr hu
  have hchar : ∀ {i}, i < head.length → head[i]? = (u ++ v)[i]? := by
    intro i hi
    obtain ⟨after, hafter⟩ := hbegins
    rw [← hafter, List.getElem?_append_left hi]
  have hshort : u.length < name.length := by
    refine Nat.lt_of_not_le fun hle => ?_
    obtain ⟨d, hd, hdelimiter⟩ := h.delimiter hle hlt
    rw [hchar hlt, List.getElem?_append_right (Nat.le_refl _), Nat.sub_self, ← List.head?_eq_getElem?] at hd
    exact nomatch (hv d hd).symm.trans hdelimiter
  have hin : u.length - 1 < name.length := by omega
  obtain ⟨d, hd, hsame⟩ := h.letter (List.getElem?_eq_getElem hin)
  rw [hchar (by omega), List.getElem?_append_left (by omega), ← List.getLast?_eq_getElem?] at hd
  have hdelimiter : isDelimiter d = true := by simp [isDelimiter, hblank d hd]
  rw [not_isDelimiter_of_sameLetter (hname.word _ (List.getElem_mem hin)) hsame] at hdelimiter
  exact nomatch hdelimiter

/-! ## Characters of a text -/

theorem forall_getLast? {P : Char → Prop} {t : Text} {c : Char} (ht : t.getLast? = some c) (h : P c) :
    ∀ d ∈ t.getLast?, P d := fun _ hd => Option.some.inj (ht.symm.trans hd) ▸ h

theorem forall_of_all {P : Char → Prop} [DecidablePred P] {t : Text}
    (h : t.all (fun c => decide (P c)) = true) : ∀ c ∈ t, P c :=
  fun c hc => of_decide_eq_true (List.all_eq_true.mp h c hc)

theorem head?_of_begins {w t : Text} (h : w <+: t) (hw : w ≠ []) : w.head? = t.head? := by
  obtain ⟨rest, rfl⟩ := h
  rw [List.head?_append, Option.or_of_isSome (List.isSome_head?.mpr hw)]

/-! ## Heads are what the pattern matches -/

theorem mem_ends_callHead {name : Text} {p q : Progress} :
    q ∈ (callOf (chars name)).ends true p ↔
      ∃ head, IsHead name p.cursor.before head ∧ head <+: p.cursor.rest ∧ q = p.past head := by
  rw [callOf, mem_ends_seq]
  constructor
  · rintro ⟨r₃, hr₃, hopen⟩
    obtain ⟨r₂, hr₂, hspace⟩ := mem_ends_seq.mp hr₃
    obtain ⟨r₁, hr₁, hname⟩ := mem_ends_seq.mp hr₂
    obtain ⟨hedge, hr₁⟩ := mem_ends_edge.mp hr₁
    subst r₁
    obtain ⟨word, hword, hwordIn, rfl⟩ := mem_ends_chars.mp hname
    obtain ⟨gap, hgapIn, hgap, rfl⟩ := mem_ends_gap.mp hspace
    obtain ⟨c, hcIn, hc, rfl⟩ := mem_ends_char.mp hopen
    obtain rfl : c = '(' := eq_of_sameLetter (by decide) rfl hc
    have hin : word ++ (gap ++ ['(']) <+: p.cursor.rest :=
      (prefix_drop_iff hwordIn).mp ((prefix_drop_iff hgapIn).mp hcIn)
    refine ⟨_, ⟨word, gap, rfl, hword, hgap, ?_⟩, hin, ?_⟩
    · rwa [head?_of_begins hin (by simp)]
    · simp only [Progress.past_past, List.append_assoc]
  · rintro ⟨head, ⟨word, gap, rfl, hword, hgap, hedge⟩, hin, rfl⟩
    have hwordIn : word <+: p.cursor.rest := (List.prefix_append _ _).trans hin
    have hafter := (prefix_drop_iff hwordIn).mpr hin
    have hgapIn : gap <+: p.cursor.rest.drop word.length := (List.prefix_append _ _).trans hafter
    refine ⟨(p.past word).past gap, mem_ends_seq.mpr ⟨p.past word, mem_ends_seq.mpr ⟨p, ?_, ?_⟩, ?_⟩, ?_⟩
    · exact mem_ends_edge.mpr ⟨by rwa [← head?_of_begins hin (by simp)], rfl⟩
    · exact mem_ends_chars.mpr ⟨word, hword, hwordIn, rfl⟩
    · exact mem_ends_gap.mpr ⟨gap, hgapIn, hgap, rfl⟩
    · refine mem_ends_char.mpr ⟨'(', (prefix_drop_iff hgapIn).mpr hafter, by decide, ?_⟩
      simp only [Progress.past_past, List.append_assoc]

/-! ## The search for a head -/

section Search

variable {name : Text} {before : Option Char} {t head : Text}

theorem matchAt?_callHead {c : Cursor} (h : IsHead name c.before head) (ht : head <+: c.rest) :
    ∃ m, (callHead name).matchAt? c = some m ∧
      m.span = ⟨c.position, c.position + head.length⟩ := by
  have hmem : Progress.past ⟨c, []⟩ head ∈ (callHead name).shape.ends true ⟨c, []⟩ :=
    mem_ends_callHead.mpr ⟨head, h, ht, rfl⟩
  cases hm : (callHead name).matchAt? c with
  | none =>
    rw [Pattern.matchAt?_eq_head?, List.head?_eq_none_iff, List.map_eq_nil_iff] at hm
    exact absurd (hm ▸ hmem) List.not_mem_nil
  | some m =>
    obtain ⟨q, hq, rfl⟩ := Pattern.exists_end_of_matchAt? hm
    obtain ⟨head', h', ht', rfl⟩ := mem_ends_callHead.mp hq
    obtain rfl := h.unique h' ht ht'
    exact ⟨_, rfl, rfl⟩

theorem exists_isHead_of_matchAt? {c : Cursor} {m : Match}
    (h : (callHead name).matchAt? c = some m) :
    ∃ head, IsHead name c.before head ∧ head <+: c.rest ∧
      m.span = ⟨c.position, c.position + head.length⟩ := by
  obtain ⟨q, hq, rfl⟩ := Pattern.exists_end_of_matchAt? h
  obtain ⟨head, hhead, ht, rfl⟩ := mem_ends_callHead.mp hq
  exact ⟨head, hhead, ht, rfl⟩

theorem headAt?_of_isHead (h : IsHead name before head) (ht : head <+: t) :
    headAt? name before t = some (head.length, closingParen? t (head.length - 1)) := by
  obtain ⟨m, hm, hspan⟩ := matchAt?_callHead (c := ⟨before, 0, t⟩) h ht
  simp only [headAt?, hm, hspan, Option.map_some, Nat.zero_add]

theorem exists_isHead_of_headAt? {length : Nat} {stop : Option Nat}
    (h : headAt? name before t = some (length, stop)) :
    ∃ head, IsHead name before head ∧ head <+: t ∧ length = head.length ∧
      stop = closingParen? t (head.length - 1) := by
  obtain ⟨m, hm, -⟩ := Option.map_eq_some_iff.mp h
  obtain ⟨head, hhead, ht, -⟩ := exists_isHead_of_matchAt? hm
  rw [headAt?_of_isHead hhead ht] at h
  obtain ⟨rfl, rfl⟩ := Prod.mk.inj (Option.some.inj h)
  exact ⟨head, hhead, ht, rfl, rfl⟩

theorem headAt?_eq_none_iff :
    headAt? name before t = none ↔ ∀ head, head <+: t → ¬IsHead name before head := by
  constructor
  · intro h head ht hhead
    rw [headAt?_of_isHead hhead ht] at h
    exact nomatch h
  · intro h
    cases hat : headAt? name before t with
    | none => rfl
    | some found =>
      obtain ⟨head, hhead, ht, -⟩ := exists_isHead_of_headAt? hat
      exact absurd hhead (h head ht)

end Search

/-! ## Calls -/

/-- The first `n` characters are a call: a head, and on to the parenthesis that closes it. -/
def IsCall (name : Text) (before : Option Char) (t : Text) (n : Nat) : Prop :=
  ∃ head, IsHead name before head ∧ head <+: t ∧ closingParen? t (head.length - 1) = some n

theorem isCall_iff_headAt? {name : Text} {before : Option Char} {t : Text} {n : Nat} :
    IsCall name before t n ↔ ∃ length, headAt? name before t = some (length, some n) := by
  constructor
  · rintro ⟨head, hhead, ht, hclose⟩
    exact ⟨head.length, by rw [headAt?_of_isHead hhead ht, hclose]⟩
  · rintro ⟨length, h⟩
    obtain ⟨head, hhead, ht, -, hclose⟩ := exists_isHead_of_headAt? h
    exact ⟨head, hhead, ht, hclose.symm⟩

namespace IsCall

variable {name : Text} {before : Option Char} {t : Text} {n : Nat}

theorem congr_before (h : IsCall name before t n) {before' : Option Char}
    (hbefore : before'.any isWord = before.any isWord) : IsCall name before' t n := by
  obtain ⟨head, hhead, ht, hclose⟩ := h
  exact ⟨head, hhead.congr_before hbefore, ht, hclose⟩

theorem length_bounds (h : IsCall name before t n) : 0 < n ∧ n ≤ t.length := by
  obtain ⟨head, hhead, -, hclose⟩ := h
  obtain ⟨hlt, hle⟩ := closingParen?_bounds hclose
  exact ⟨Nat.zero_lt_of_lt hlt, hle⟩

theorem unique {n' : Nat} (h : IsCall name before t n) (h' : IsCall name before t n') : n = n' := by
  obtain ⟨head, hhead, ht, hclose⟩ := h
  obtain ⟨head', hhead', ht', hclose'⟩ := h'
  obtain rfl := hhead.unique hhead' ht ht'
  exact Option.some.inj (hclose.symm.trans hclose')

end IsCall

/-! ## One step of the rewriting -/

section Steps

variable {name : Text} {f : Text → Text} {before : Option Char}

theorem mapCallsFrom_skip {u rest : Text}
    (h : ∀ v w, u = v ++ w → w ≠ [] → headAt? name (v.getLast?.or before) (w ++ rest) = none) :
    mapCallsFrom name f before (u ++ rest)
      = u ++ mapCallsFrom name f (u.getLast?.or before) rest := by
  induction u generalizing before with
  | nil => rfl
  | cons c u ih =>
    have hhead : headAt? name before (c :: (u ++ rest)) = none :=
      h [] (c :: u) rfl (List.cons_ne_nil c u)
    rw [List.cons_append, mapCallsFrom, getLast?_cons_or, List.cons_append]
    simp only [hhead]
    rw [ih]
    intro v w hsplit hw
    have hlater := h (c :: v) w (by rw [hsplit, List.cons_append]) hw
    rwa [getLast?_cons_or] at hlater

theorem mapCallsFrom_nil : mapCallsFrom name f before [] = [] := by rw [mapCallsFrom]

/-- A head that is never closed is passed at one go. -/
theorem mapCallsFrom_unclosed {head after : Text}
    (h : headAt? name before (head ++ after) = some (head.length, none)) :
    mapCallsFrom name f before (head ++ after)
      = head ++ mapCallsFrom name f head.getLast? after := by
  obtain ⟨head', hhead, -, hlength, -⟩ := exists_isHead_of_headAt? h
  cases head with
  | nil => exact absurd (List.length_eq_zero_iff.mp hlength.symm) hhead.ne_nil
  | cons c u =>
    rw [List.cons_append] at h ⊢
    rw [mapCallsFrom]
    simp only [h, List.length_cons, Nat.add_sub_cancel, List.take_left, List.drop_left]

/-- Where no call begins, the character stays. No call begins inside a head that is never closed
either, though it is passed at one go. -/
theorem mapCallsFrom_cons (hname : IsName name) {c : Char} {rest : Text}
    (h : ∀ n, ¬IsCall name before (c :: rest) n) :
    mapCallsFrom name f before (c :: rest) = c :: mapCallsFrom name f (some c) rest := by
  cases hat : headAt? name before (c :: rest) with
  | none => rw [mapCallsFrom, hat]
  | some found =>
    obtain ⟨length, stop⟩ := found
    cases stop with
    | some stop => exact absurd (isCall_iff_headAt?.mpr ⟨length, hat⟩) (h stop)
    | none =>
      obtain ⟨head, hhead, ⟨after, hafter⟩, rfl, -⟩ := exists_isHead_of_headAt? hat
      rw [← hafter] at hat ⊢
      rw [mapCallsFrom_unclosed hat]
      cases head with
      | nil => exact absurd rfl hhead.ne_nil
      | cons d u =>
        rw [List.cons_append] at hafter
        obtain ⟨rfl, rfl⟩ := List.cons.inj hafter
        have hlast : (d :: u).getLast? = u.getLast?.or (some d) := by
          rw [← getLast?_cons_or d u none, Option.or_none]
        rw [hlast, List.cons_append, mapCallsFrom_skip]
        intro v w hsplit hw
        refine headAt?_eq_none_iff.mpr fun head' hin h' => ?_
        subst hsplit
        exact hhead.not_inside (u := d :: v) hname (List.cons_ne_nil d v) hw h' hin

/-- Where a call begins, it is put through `f`, and the search goes on after it. -/
theorem mapCallsFrom_call {call rest : Text}
    (h : IsCall name before (call ++ rest) call.length) :
    mapCallsFrom name f before (call ++ rest)
      = f call ++ mapCallsFrom name f ((f call).getLast?.or before) rest := by
  obtain ⟨length, hat⟩ := isCall_iff_headAt?.mp h
  cases call with
  | nil => exact absurd h.length_bounds.1 (Nat.lt_irrefl 0)
  | cons c call =>
    rw [List.cons_append] at hat ⊢
    rw [mapCallsFrom]
    simp only [hat, List.length_cons, Nat.add_sub_cancel, List.take_left, List.drop_left]

theorem IsCall.mapCallsFrom_eq {t : Text} {n : Nat} (h : IsCall name before t n) :
    mapCallsFrom name f before t
      = f (t.take n) ++ mapCallsFrom name f ((f (t.take n)).getLast?.or before) (t.drop n) := by
  have hlength : (t.take n).length = n := List.length_take_of_le h.length_bounds.2
  rw [← List.take_append_drop n t, ← hlength] at h
  rw [← mapCallsFrom_call (by rwa [hlength] at h ⊢), List.take_append_drop]

end Steps

theorem mapCalls_of_not_mem {name t : Text} {f : Text → Text} (h : '(' ∉ t) : mapCalls name f t = t := by
  have hnone : ∀ v w, t = v ++ w → w ≠ [] → headAt? name (v.getLast?.or none) (w ++ []) = none := by
    intro v w hsplit _
    refine headAt?_eq_none_iff.mpr fun head hin hhead => h ?_
    obtain ⟨word, gap, rfl, -⟩ := hhead
    rw [List.append_nil] at hin
    rw [hsplit]
    exact List.mem_append_right v (hin.subset (by simp))
  have hskip := mapCallsFrom_skip (f := f) hnone
  rwa [List.append_nil, mapCallsFrom_nil, List.append_nil] at hskip

theorem replaceCalls_of_not_mem {name replacement t : Text} (h : '(' ∉ t) :
    replaceCalls name replacement t = t := mapCalls_of_not_mem h

theorem maskCalls_of_not_mem {names : List Text} {t : Text} (h : '(' ∉ t) : maskCalls names t = t := by
  induction names with
  | nil => rfl
  | cons name names ih =>
    have hfirst : maskCall name t = t := mapCalls_of_not_mem h
    rw [maskCalls, List.foldl_cons, hfirst]
    exact ih

end QueryLint.Sql
