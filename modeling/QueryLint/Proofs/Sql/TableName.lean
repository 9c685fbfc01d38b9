import QueryLint.Proofs.Sql.Mask
import QueryLint.Proofs.Sql.NameChain

/-! The names of referenced tables against the text they stand for. The name of a table is a chain of
identifiers in the text whose calls are masked, cut at every point. It describes the text itself just
if nothing is masked there and no identifier has a point inside its quotes. Main statement:
`tableRefs_describe_iff`. -/
namespace QueryLint.Sql
set_option autoImplicit false
open Text

/-! ## What masking takes away -/

/-- Wherever a character has changed, a blank stretch stands where there was a parenthesis. -/
def HidesParens (t masked : Text) : Prop :=
  ∀ i : Nat, masked[i]? ≠ t[i]? → ∃ s : Span, s.start ≤ i ∧ i < s.stop ∧ BlankAt masked s ∧
    ∃ j, s.start ≤ j ∧ j < s.stop ∧ t[j]? = some '('

theorem IsCall.mem_open {name : Text} {before : Option Char} {call rest : Text}
    (h : IsCall name before (call ++ rest) call.length) (hname : IsName name) : '(' ∈ call := by
  obtain ⟨head, hhead, ⟨after, hafter⟩, hclose⟩ := h
  obtain ⟨front, rfl, -⟩ := hhead.exists_front hname
  have hlt := (closingParen?_bounds hclose).1
  rw [List.length_append, List.length_singleton, Nat.add_sub_cancel] at hlt
  have hopen : (call ++ rest)[front.length]? = some '(' := by
    rw [← hafter, List.append_assoc, List.getElem?_append_right (Nat.le_refl _), Nat.sub_self]
    rfl
  rw [List.getElem?_append_left hlt] at hopen
  exact List.mem_of_getElem? hopen

namespace HidesParens

variable {t masked : Text}

theorem append {front maskedFront : Text} (hlength : maskedFront.length = front.length)
    (hfront : HidesParens front maskedFront) (h : HidesParens t masked) :
    HidesParens (front ++ t) (maskedFront ++ masked) := by
  intro i hi
  rcases Nat.lt_or_ge i front.length with hlt | hge
  · rw [List.getElem?_append_left (hlength ▸ hlt), List.getElem?_append_left hlt] at hi
    obtain ⟨s, hstart, hstop, hblank, j, hj, hj', hopen⟩ := hfront i hi
    exact ⟨s, hstart, hstop, hblank.append_back masked, j, hj, hj', getElem?_append_of_some hopen⟩
  · rw [List.getElem?_append_right (hlength ▸ hge), List.getElem?_append_right hge, hlength] at hi
    obtain ⟨s, hstart, hstop, hblank, j, hj, hj', hopen⟩ := h _ hi
    refine ⟨⟨front.length + s.start, front.length + s.stop⟩, by simp only; omega, by simp only; omega,
      hlength ▸ hblank.append maskedFront, front.length + j, by simp only; omega,
      by simp only; omega, ?_⟩
    rw [List.getElem?_append_right (Nat.le_add_right _ _), Nat.add_sub_cancel_left, hopen]

theorem refl (t : Text) : HidesParens t t := fun _ hi => absurd rfl hi

theorem all (h : '(' ∈ t) : HidesParens t (blanks t.length) := by
  obtain ⟨j, hj⟩ := List.mem_iff_getElem?.mp h
  have hblank : BlankAt (blanks t.length) ⟨0, t.length⟩ :=
    fun i _ hi => List.getElem?_replicate_of_lt hi
  intro i hi
  have hlt : i < t.length := by
    refine Nat.lt_of_not_le fun hge => hi ?_
    rw [List.getElem?_eq_none_iff.mpr hge, List.getElem?_eq_none_iff.mpr]
    rwa [blanks, List.length_replicate]
  exact ⟨⟨0, t.length⟩, Nat.zero_le i, hlt, hblank, j, Nat.zero_le j,
    (List.getElem?_eq_some_iff.mp hj).1, hj⟩

theorem trans {masked' : Text} (h : HidesParens t masked) (hmasked : BlankedFrom t masked)
    (h' : HidesParens masked masked') (hmasked' : BlankedFrom masked masked') :
    HidesParens t masked' := by
  intro i hi
  by_cases hfirst : masked[i]? = t[i]?
  · obtain ⟨s, hstart, hstop, hblank, j, hj, hj', hopen⟩ := h' i (by rwa [hfirst])
    refine ⟨s, hstart, hstop, hblank, j, hj, hj', ?_⟩
    exact (hmasked.kept j _ hopen).resolve_left (by decide)
  · obtain ⟨s, hstart, hstop, hblank, hparen⟩ := h i hfirst
    exact ⟨s, hstart, hstop, hmasked'.blankAt hblank, hparen⟩

end HidesParens

theorem hidesParens_maskCalls {names : List Text} (hnames : ∀ name ∈ names, IsName name) (t : Text) :
    HidesParens t (maskCalls names t) :=
  maskCalls_induction HidesParens.refl HidesParens.append
    (fun hname hcall => HidesParens.all (hcall.mem_open hname))
    (fun hmasked h hmasked' h' => h.trans hmasked h' hmasked') hnames t

/-! ## Slices -/

theorem BlankedFrom.slice {t masked : Text} (h : BlankedFrom t masked) (s : Span) :
    BlankedFrom (t.slice s) (masked.slice s) := by
  constructor
  · simp only [Text.slice, List.length_drop, List.length_take, h.length_eq]
  · intro i c hc
    rw [getElem?_slice] at hc ⊢
    split at hc
    · rename_i hlt
      rw [if_pos hlt]
      exact h.kept _ c hc
    · exact absurd hc (by simp)

theorem BlankedFrom.of_cons {t masked : Text} {c d : Char} (h : BlankedFrom (c :: t) (d :: masked)) :
    (d = ' ' ∨ d = c) ∧ BlankedFrom t masked := by
  refine ⟨(h.kept 0 d rfl).imp_right fun hc => (Option.some.inj hc).symm, ?_, fun i e he => ?_⟩
  · exact Nat.succ.inj h.length_eq
  · exact h.kept (i + 1) e he

theorem BlankedFrom.count_open_le {t masked : Text} (h : BlankedFrom t masked) :
    masked.count '(' ≤ t.count '(' := by
  induction t generalizing masked with
  | nil =>
    obtain rfl := List.length_eq_zero_iff.mp h.length_eq
    exact Nat.le_refl _
  | cons c t ih =>
    obtain ⟨d, masked, rfl⟩ := List.exists_cons_of_length_eq_add_one h.length_eq
    obtain ⟨hd, hothers⟩ := h.of_cons
    have hle := ih hothers
    rcases hd with rfl | rfl
    · rw [List.count_cons_of_ne (by decide)]
      exact Nat.le_trans hle List.count_le_count_cons
    · rw [List.count_cons, List.count_cons]
      omega

theorem BlankedFrom.count_open_lt {t masked : Text} (h : BlankedFrom t masked) {j : Nat}
    (hopen : t[j]? = some '(') (hblank : masked[j]? = some ' ') :
    masked.count '(' < t.count '(' := by
  induction t generalizing masked j with
  | nil => exact nomatch hopen
  | cons c t ih =>
    obtain ⟨d, masked, rfl⟩ := List.exists_cons_of_length_eq_add_one h.length_eq
    obtain ⟨hd, hothers⟩ := h.of_cons
    cases j with
    | zero =>
      obtain rfl := Option.some.inj hopen
      obtain rfl := Option.some.inj hblank
      rw [List.count_cons_of_ne (by decide), List.count_cons_self]
      exact Nat.lt_succ_of_le hothers.count_open_le
    | succ j =>
      have hlt := ih hothers hopen hblank
      rcases hd with rfl | rfl
      · rw [List.count_cons_of_ne (by decide)]
        exact Nat.lt_of_lt_of_le hlt List.count_le_count_cons
      · rw [List.count_cons, List.count_cons]
        omega

/-- A stretch that begins and ends with what is not blank has changed only if a parenthesis in it was
blanked. -/
theorem HidesParens.count_open_lt {t masked : Text} (h : HidesParens t masked)
    (hmasked : BlankedFrom t masked) {s : Span}
    (hfirst : ∀ c ∈ (masked.slice s).head?, isBlank c = false)
    (hlast : ∀ c ∈ (masked.slice s).getLast?, isBlank c = false)
    (hchanged : masked.slice s ≠ t.slice s) :
    (masked.slice s).count '(' < (t.slice s).count '(' := by
  obtain ⟨i, hi⟩ : ∃ i : Nat, (masked.slice s)[i]? ≠ (t.slice s)[i]? :=
    Classical.not_forall.mp fun hall => hchanged (List.ext_getElem? hall)
  rw [getElem?_slice, getElem?_slice] at hi
  by_cases hin : s.start + i < s.stop
  · rw [if_pos hin, if_pos hin] at hi
    obtain ⟨u, hustart, hustop, hblank, j, hj, hj', hopen⟩ := h _ hi
    have hlength : s.start + i < masked.length := by
      refine Nat.lt_of_not_le fun hge => hi ?_
      rw [List.getElem?_eq_none_iff.mpr hge, List.getElem?_eq_none_iff.mpr (hmasked.length_eq ▸ hge)]
    have hspace : isBlank ' ' = true := by decide
    -- The blank stretch lies inside, since the ends are not blank.
    have hstart : s.start < u.start := by
      refine Nat.lt_of_not_le fun hle => ?_
      have hchar := hblank s.start hle (by omega)
      have hhead : (masked.slice s).head? = some ' ' := by
        rw [List.head?_eq_getElem?, getElem?_slice, if_pos (by omega), Nat.add_zero, hchar]
      exact nomatch hspace.symm.trans (hfirst _ hhead)
    have hstop : u.stop < s.stop := by
      refine Nat.lt_of_not_le fun hle => ?_
      have hsize : (masked.slice s).length = min s.stop masked.length - s.start := by
        simp only [Text.slice, List.length_drop, List.length_take]
      have hchar := hblank (min s.stop masked.length - 1) (by omega) (by omega)
      have htail : (masked.slice s).getLast? = some ' ' := by
        rw [List.getLast?_eq_getElem?, hsize, getElem?_slice, if_pos (by omega), ← hchar]
        congr 1
        omega
      exact nomatch hspace.symm.trans (hlast _ htail)
    have hopen' : (t.slice s)[j - s.start]? = some '(' := by
      rw [getElem?_slice, Nat.add_sub_of_le (by omega), if_pos (by omega), hopen]
    have hblank' : (masked.slice s)[j - s.start]? = some ' ' := by
      rw [getElem?_slice, Nat.add_sub_of_le (by omega), if_pos (by omega), hblank j hj hj']
    exact (hmasked.slice s).count_open_lt hopen' hblank'
  · exact absurd (by rw [if_neg hin, if_neg hin]) hi

/-! ## Counting parentheses of names -/

theorem open_lowerChar (c : Char) : (lowerChar c == '(') = (c == '(') :=
  lowerChar_congr (g := fun c => c == '(') (by decide) (by decide +kernel) c

theorem count_open_lowerFrom (before t : Text) : (lowerFrom before t).count '(' = t.count '(' := by
  induction t generalizing before with
  | nil => rfl
  | cons c t ih =>
    have hwide : ∀ n, 0x80 ≤ n → c.toNat = n → [c].count '(' = 0 := by
      rintro n hn rfl
      refine List.count_eq_zero.mpr fun hmem => ?_
      rw [← List.mem_singleton.mp hmem] at hn
      exact absurd hn (by decide)
    have hchar : [lowerChar c].count '(' = [c].count '(' := by
      rw [List.count_singleton, List.count_singleton, open_lowerChar]
    rw [lowerFrom, List.count_append, ih, ← List.singleton_append (l := t), List.count_append]
    congr 1
    split
    · rename_i hsigma
      rw [hwide _ (by decide) hsigma]
      split <;> decide
    · split
      · rename_i hdotted
        rw [hwide _ (by decide) hdotted]
        decide
      · exact hchar

theorem count_open_lower (t : Text) : (lower t).count '(' = t.count '(' := count_open_lowerFrom [] t

theorem count_dropWhile {drops : Char → Bool} {c : Char} (hc : drops c = false) (t : Text) :
    (t.dropWhile drops).count c = t.count c := by
  have hdropped : (t.takeWhile drops).count c = 0 := by
    refine List.count_eq_zero.mpr fun hmem => ?_
    exact nomatch hc.symm.trans (List.all_eq_true.mp List.all_takeWhile c hmem)
  have hsplit : t.takeWhile drops ++ t.dropWhile drops = t := List.takeWhile_append_dropWhile
  have hcount := congrArg (List.count c) hsplit
  rwa [List.count_append, hdropped, Nat.zero_add] at hcount

theorem count_trimBy {drops : Char → Bool} {c : Char} (hc : drops c = false) (t : Text) :
    (trimBy drops t).count c = t.count c := by
  rw [trimBy, List.count_reverse, count_dropWhile hc, List.count_reverse, count_dropWhile hc]

theorem count_open_plain (piece : Text) :
    (plainIdentifier (trim piece)).count '(' = piece.count '(' := by
  rw [plainIdentifier, count_open_lower, count_trimBy (by decide), trim, count_trimBy (by decide)]

/-! ## References -/

/-- The text at a reference is a chain of one to three identifiers, and the parts of the reference are
what they name, in lower case. -/
def Describes (sql : Text) (r : TableRef) : Prop :=
  ∃ chain : NameChain, chain.others.length ≤ 2 ∧ chain.text = sql.slice r.span ∧
    r.parts = chain.identifiers.map fun i => lower i.named

theorem exists_chain_of_tableRefAt? {t : Text} {m : Match} {r : TableRef}
    (h : tableRefAt? t m = some r) : ∃ chain : NameChain, chain.others.length ≤ 2 ∧
      chain.text = t.slice r.span ∧ r.parts = (nameDot.pieces (t.slice r.span)).map plainIdentifier := by
  unfold tableRefAt? at h
  split at h
  · exact nomatch h
  · split at h
    · exact nomatch h
    · rename_i name hname
      split at h
      · exact nomatch h
      · dsimp only at h
        split at h
        · exact nomatch h
        · obtain rfl := Option.some.inj h
          obtain ⟨chain, hlength, htext⟩ := exists_chain_of_qualifiedName hname
          exact ⟨chain, hlength, htext.symm, rfl⟩

/-- Where the parts of a masked name are what a chain names, nothing of the chain is masked: the parts
would miss a parenthesis. -/
theorem slice_eq_of_parts_eq {t masked : Text} (hhides : HidesParens t masked)
    (hmasked : BlankedFrom t masked) {s : Span}
    (hfirst : ∀ c ∈ (masked.slice s).head?, isBlank c = false)
    (hlast : ∀ c ∈ (masked.slice s).getLast?, isBlank c = false) {chain : NameChain}
    (htext : chain.text = t.slice s)
    (hparts : ((masked.slice s).splitOn '.').map (fun piece => plainIdentifier (trim piece))
      = chain.identifiers.map fun i => lower i.named) : masked.slice s = t.slice s := by
  refine Classical.byContradiction fun hchanged => ?_
  -- The parts keep the parentheses of the masked name, and the chain names those of the text.
  have hlt := hhides.count_open_lt hmasked hfirst hlast hchanged
  have hcount := congrArg (fun parts => (parts.map (List.count '(')).sum) hparts
  simp only [List.map_map, Function.comp_def, count_open_plain, count_open_lower] at hcount
  rw [sum_count_splitOn (by decide)] at hcount
  rw [← htext, chain.count_open, hcount] at hlt
  exact Nat.lt_irrefl _ hlt

/-- Where a chain has as many parts as identifiers, no identifier has a point in it. -/
theorem point_not_mem_of_length_eq {chain : NameChain}
    (h : (chain.text.splitOn '.').length = chain.identifiers.length) :
    ∀ i ∈ chain.identifiers, '.' ∉ i.named := by
  rw [length_splitOn, chain.count_point, chain.length_identifiers] at h
  have hzero : (chain.identifiers.map fun i => i.named.count '.').sum = 0 := by omega
  exact fun i hi => List.count_eq_zero.mp
    (List.sum_eq_zero_iff_forall_eq_nat.mp hzero _ (List.mem_map_of_mem hi))

/-- The name of a table describes the text at its reference just if no call is masked there and no
identifier has a point in it; its parts are always the pieces of the masked text between points. -/
theorem tableRefs_describe_iff {sql : Text} {r : TableRef} (h : r ∈ tableRefs sql) :
    r.name = List.intercalate ['.'] r.parts ∧
    r.parts = (((maskCalls callsWithFrom sql).slice r.span).splitOn '.').map
      (fun piece => plainIdentifier (trim piece)) ∧
    ∃ chain : NameChain, chain.others.length ≤ 2 ∧
      chain.text = (maskCalls callsWithFrom sql).slice r.span ∧
      (Describes sql r ↔ (maskCalls callsWithFrom sql).slice r.span = sql.slice r.span ∧
        ∀ i ∈ chain.identifiers, '.' ∉ i.named) := by
  have hnames : ∀ name ∈ callsWithFrom, IsName name :=
    fun name hname => (callsWithFrom_words name hname).isName
  have hblanked := blankedFrom_maskCalls hnames sql
  have hhides := hidesParens_maskCalls hnames sql
  obtain ⟨m, -, hr⟩ := List.mem_filterMap.mp h
  generalize maskCalls callsWithFrom sql = masked at *
  obtain ⟨chain, hlength, htext, hparts⟩ := exists_chain_of_tableRefAt? hr
  have hfirst : ∀ c ∈ (masked.slice r.span).head?, isBlank c = false := htext ▸ chain.head?_not_blank
  have hlast : ∀ c ∈ (masked.slice r.span).getLast?, isBlank c = false :=
    htext ▸ chain.getLast?_not_blank
  rw [pieces_nameDot hfirst hlast, List.map_map] at hparts
  refine ⟨rfl, hparts, chain, hlength, htext, ?_, ?_⟩
  · rintro ⟨chain', -, htext', hparts'⟩
    have hboth := hparts.symm.trans hparts'
    have hsame := slice_eq_of_parts_eq hhides hblanked hfirst hlast htext' hboth
    have hsize := congrArg List.length hboth
    rw [hsame, ← htext', List.length_map, List.length_map] at hsize
    rw [NameChain.identifiers_unique (htext.trans (hsame.trans htext'.symm))]
    exact ⟨hsame, point_not_mem_of_length_eq hsize⟩
  · rintro ⟨hsame, hpoints⟩
    have hnil : ∀ c ∈ ([] : Text), isBlank c = true := by simp
    have hplain := map_plain_splitOn hnil hpoints
    refine ⟨chain, hlength, htext.trans hsame, ?_⟩
    rw [hparts, ← htext]
    exact hplain

/-! ## Names with white space, and with a point in quotes -/

def spacedName : Text := "SELECT * FROM \"My DB\" . S.t1".toList

def spacedRef : TableRef := ⟨["my db".toList, "s".toList, "t1".toList], none, ⟨14, 28⟩⟩

def spacedChain : NameChain where
  first := .quoted ⟨"My DB".toList, by decide, by decide⟩
  others := [
    ⟨blankGap, blankGap, .bare ⟨'S', [], by decide, no_others⟩⟩,
    ⟨noGap, noGap, .bare ⟨'t', ['1'], nameStart_t, List.all_eq_true.mp (by decide)⟩⟩]

theorem spacedRef_described : spacedRef ∈ tableRefs spacedName ∧ Describes spacedName spacedRef := by
  have hmem : spacedRef ∈ tableRefs spacedName := by decide +kernel
  have hsame : (maskCalls callsWithFrom spacedName).slice spacedRef.span
      = spacedName.slice spacedRef.span := by decide +kernel
  have hchain : spacedChain.text = spacedName.slice spacedRef.span := by decide +kernel
  obtain ⟨-, -, chain, -, htext, hiff⟩ := tableRefs_describe_iff hmem
  have hunique := NameChain.identifiers_unique (htext.trans (hsame.trans hchain.symm))
  refine ⟨hmem, hiff.mpr ⟨hsame, fun i hi => ?_⟩⟩
  rw [hunique] at hi
  have hpoints : ∀ named ∈ spacedChain.identifiers.map Identifier.named, '.' ∉ named := by decide
  exact hpoints _ (List.mem_map_of_mem hi)

def quotedPoint : Text := "SELECT * FROM \"a.b\"".toList

/-- The reference to the table a.b, with two parts. -/
def quotedPointRef : TableRef := ⟨["a".toList, "b".toList], none, ⟨14, 19⟩⟩

def quotedPointChain : NameChain where
  first := .quoted ⟨"a.b".toList, by decide, by decide⟩
  others := []

theorem quotedPoint_not_described :
    tableRefs quotedPoint = [quotedPointRef] ∧ ¬Describes quotedPoint quotedPointRef ∧
      (tableRefs "SELECT * FROM \"trim(x)\"".toList).map TableRef.parts = [["       ".toList]] := by
  refine ⟨by decide +kernel, ?_, by decide +kernel⟩
  rintro ⟨chain, -, htext, hparts⟩
  have hchain : quotedPointChain.text = quotedPoint.slice quotedPointRef.span := by decide
  rw [NameChain.identifiers_unique (htext.trans hchain.symm)] at hparts
  exact absurd (congrArg List.length hparts) (by decide)

end QueryLint.Sql
