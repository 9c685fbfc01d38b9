import Mathlib.Data.List.Forall2
import Mathlib.Data.List.TakeWhile
import QueryLint.Proofs.Pattern.Blankless
import QueryLint.Proofs.Sql.Layout
import QueryLint.Proofs.Sql.TableName

/-! The tables that are named in two texts which differ in the white space at one place. Their names are
the same, but for those in quotes with white space in them. Main statement: `tableRefs_arranged`. -/
namespace QueryLint.Sql
set_option autoImplicit false
open Text Layout

variable {l : Layout} {t t' : Text}

/-! ## Texts that are the same but for white space -/

/-- The same text, or two that have white space in them. -/
def Alike (t t' : Text) : Prop := t = t' ∨ (t.any isBlank = true ∧ t'.any isBlank = true)

theorem Alike.eq_of_solid (h : Alike t t') (ht : ∀ c ∈ t, isBlank c = false) : t = t' := by
  rcases h with rfl | ⟨hblank, -⟩
  · rfl
  · obtain ⟨c, hc, hblank⟩ := List.any_eq_true.mp hblank
    exact Bool.noConfusion ((ht c hc).symm.trans hblank)

theorem Alike.beq_solid (h : Alike t t') {u : Text} (hu : u.any isBlank = false) : (t == u) = (t' == u) := by
  have hne : ∀ {v : Text}, v.any isBlank = true → (v == u) = false := by
    intro v hv
    refine beq_eq_false_iff_ne.mpr fun heq => ?_
    exact Bool.noConfusion (hu.symm.trans (heq ▸ hv))
  rcases h with rfl | ⟨hblank, hblank'⟩
  · rfl
  · rw [hne hblank, hne hblank']

theorem Alike.contains_eq (h : Alike t t') {names : List String}
    (hnames : ∀ name ∈ names, name.toList.any isBlank = false) :
    names.contains (String.ofList t) = names.contains (String.ofList t') := by
  have hnot : ∀ {v : Text}, v.any isBlank = true → names.contains (String.ofList v) = false := by
    intro v hv
    rw [List.contains_eq_mem, decide_eq_false_iff_not]
    intro hmem
    have hsolid := hnames _ hmem
    rw [String.toList_ofList] at hsolid
    exact Bool.noConfusion (hsolid.symm.trans hv)
  rcases h with rfl | ⟨hblank, hblank'⟩
  · rfl
  · rw [hnot hblank, hnot hblank']

/-- A solid text is in both of two lists or in neither. -/
theorem contains_alike {names names' : List Text} (h : List.Forall₂ Alike names names')
    {u : Text} (hu : u.any isBlank = false) : names.contains u = names'.contains u := by
  induction h with
  | nil => rfl
  | cons hname _ ih =>
    rw [List.contains_cons, List.contains_cons, ih, BEq.comm, hname.beq_solid hu, BEq.comm]

theorem Alike.map {f : Text → Text} (hf : ∀ t, (f t).any isBlank = t.any isBlank) (h : Alike t t') :
    Alike (f t) (f t') := h.imp (congrArg f) fun h => ⟨(hf t).trans h.1, (hf t').trans h.2⟩

theorem any_isBlank_lowerFrom (before t : Text) : (lowerFrom before t).any isBlank = t.any isBlank := by
  have hchar : ∀ c, isBlank (lowerChar c) = isBlank c :=
    lowerChar_congr (g := isBlank) (by decide) (by decide +kernel)
  induction t generalizing before with
  | nil => rfl
  | cons c t ih =>
    have hwide : ∀ n, isBlank (Char.ofNat n) = false → c.toNat = n → isBlank c = false := by
      rintro n hn rfl
      rwa [Char.ofNat_toNat] at hn
    rw [lowerFrom, List.any_append, ih, List.any_cons]
    congr 1
    split
    · rename_i hsigma
      rw [hwide _ (by decide) hsigma]
      split <;> decide
    · split
      · rename_i hdotted
        rw [hwide _ (by decide) hdotted]
        decide
      · rw [List.any_cons, List.any_nil, Bool.or_false, hchar]

theorem any_isBlank_lower (t : Text) : (lower t).any isBlank = t.any isBlank := any_isBlank_lowerFrom [] t

theorem any_dropWhile {p drops : Char → Bool} (h : ∀ c, p c = true → drops c = false) (t : Text) :
    (t.dropWhile drops).any p = t.any p := by
  have hdropped : (t.takeWhile drops).any p = false := by
    refine List.any_eq_false.mpr fun c hc hp => ?_
    exact Bool.noConfusion ((h c hp).symm.trans (List.all_eq_true.mp List.all_takeWhile c hc))
  have hsplit : t.takeWhile drops ++ t.dropWhile drops = t := List.takeWhile_append_dropWhile
  have hany := congrArg (fun u : Text => u.any p) hsplit
  simpa only [List.any_append, hdropped, Bool.false_or] using hany

theorem any_isBlank_plainIdentifier (t : Text) : (plainIdentifier t).any isBlank = t.any isBlank := by
  have hquote : ∀ c, isBlank c = true → (c == '"') = false := by
    intro c hc
    refine beq_eq_false_iff_ne.mpr ?_
    rintro rfl
    exact absurd hc (by decide)
  rw [plainIdentifier, any_isBlank_lower, trimBy, List.any_reverse, any_dropWhile hquote, List.any_reverse,
    any_dropWhile hquote]

/-! ## White space in the parts of a name -/

theorem any_isBlank_gap {gap : Text} (hne : gap ≠ []) (hgap : ∀ c ∈ gap, isBlank c = true) :
    gap.any isBlank = true := by
  obtain ⟨c, hc⟩ := List.exists_mem_of_ne_nil gap hne
  exact List.any_eq_true.mpr ⟨c, hc, hgap c hc⟩

theorem Respaced.alike (h : l.Respaced t t') : Alike t t' := by
  cases h with
  | same t => exact .inl rfl
  | across u v =>
    refine .inr ⟨?_, ?_⟩
    · rw [List.any_append, List.any_append, any_isBlank_gap l.ne_nil l.blank, Bool.true_or, Bool.or_true]
    · rw [List.any_append, List.any_append, any_isBlank_gap l.ne_nil' l.blank', Bool.true_or, Bool.or_true]

theorem splitOn_gap {gap : Text} (hgap : ∀ c ∈ gap, isBlank c = true) {v piece : Text} {others : List Text}
    (hv : v.splitOn '.' = piece :: others) : (gap ++ v).splitOn '.' = (gap ++ piece) :: others := by
  induction gap with
  | nil => exact hv
  | cons c gap ih =>
    obtain ⟨hc, hothers⟩ := List.forall_mem_cons.mp hgap
    have hpoint : c ≠ '.' := by
      rintro rfl
      exact absurd hc (by decide)
    obtain ⟨piece', others', hsplit, hcons⟩ := splitOn_cons hpoint (gap ++ v)
    rw [ih hothers] at hsplit
    obtain ⟨rfl, rfl⟩ := List.cons.inj hsplit
    exact hcons

/-- Between the points stand the same pieces, but for one with the white space in it. -/
theorem Respaced.splitOn (h : l.Respaced t t') :
    List.Forall₂ l.Respaced (t.splitOn '.') (t'.splitOn '.') := by
  cases h with
  | same t => exact List.forall₂_same.mpr fun piece _ => .same piece
  | across u v =>
    induction u with
    | nil =>
      obtain ⟨piece, others, hsplit⟩ :=
        List.exists_cons_of_ne_nil (List.splitOnP_ne_nil (fun c => c == '.') v)
      rw [List.nil_append, List.nil_append, splitOn_gap l.blank hsplit, splitOn_gap l.blank' hsplit]
      exact .cons (.across [] piece) (List.forall₂_same.mpr fun piece _ => .same piece)
    | cons c u ih =>
      rw [List.cons_append, List.cons_append]
      by_cases hpoint : c = '.'
      · subst hpoint
        have hcut : ∀ w : Text, ('.' :: w).splitOn '.' = [] :: w.splitOn '.' := splitOn_point List.not_mem_nil
        rw [hcut, hcut]
        exact .cons (.same []) ih
      · obtain ⟨piece, others, hsplit, hcons⟩ := splitOn_cons hpoint (u ++ (l.gap ++ v))
        obtain ⟨piece', others', hsplit', hcons'⟩ := splitOn_cons hpoint (u ++ (l.gap' ++ v))
        rw [hsplit, hsplit'] at ih
        rw [hcons, hcons']
        cases ih with
        | cons hpiece hothers =>
          refine .cons ?_ hothers
          cases hpiece with
          | same => exact .same _
          | across u v => exact .across (c :: u) v

theorem trim_append_left {u : Text} (hu : ∀ c ∈ u, isBlank c = true) (v : Text) : trim (u ++ v) = trim v := by
  rw [trim, trim, trimBy, trimBy, List.dropWhile_append_of_pos hu]

theorem trim_append_right {v : Text} (hv : ∀ c ∈ v, isBlank c = true) (u : Text) : trim (u ++ v) = trim u := by
  have hreverse : ∀ c ∈ v.reverse, isBlank c = true := fun c hc => hv c (List.mem_reverse.mp hc)
  rw [trim, trim, trimBy, trimBy, List.dropWhile_append]
  split
  · rename_i hempty
    rw [List.isEmpty_iff.mp hempty, List.dropWhile_eq_nil_iff.mpr hv]
  · rw [List.reverse_append, List.dropWhile_append_of_pos hreverse]

/-- What stands between solid characters is not trimmed. -/
theorem any_isBlank_trim {u gap v : Text} (hu : ¬∀ c ∈ u, isBlank c = true) (hv : ¬∀ c ∈ v, isBlank c = true)
    (hgap : gap.any isBlank = true) : (trim (u ++ (gap ++ v))).any isBlank = true := by
  have hfront : (u ++ (gap ++ v)).dropWhile isBlank = u.dropWhile isBlank ++ (gap ++ v) := by
    rw [List.dropWhile_append, if_neg]
    rwa [List.isEmpty_iff, List.dropWhile_eq_nil_iff]
  have hback : (v.reverse ++ (gap.reverse ++ (u.dropWhile isBlank).reverse)).dropWhile isBlank
      = v.reverse.dropWhile isBlank ++ (gap.reverse ++ (u.dropWhile isBlank).reverse) := by
    rw [List.dropWhile_append, if_neg]
    rw [List.isEmpty_iff, List.dropWhile_eq_nil_iff]
    exact fun hall => hv fun c hc => hall c (List.mem_reverse.mpr hc)
  rw [trim, trimBy, hfront, List.reverse_append, List.reverse_append, List.append_assoc, hback,
    List.any_reverse, List.any_append, List.any_append, List.any_reverse, hgap, Bool.true_or, Bool.or_true]

theorem Respaced.alike_trim (h : l.Respaced t t') : Alike (trim t) (trim t') := by
  cases h with
  | same t => exact .inl rfl
  | across u v =>
    by_cases hu : ∀ c ∈ u, isBlank c = true
    · refine .inl ?_
      rw [trim_append_left hu, trim_append_left hu, trim_append_left l.blank, trim_append_left l.blank']
    · by_cases hv : ∀ c ∈ v, isBlank c = true
      · refine .inl ?_
        rw [trim_append_right (List.forall_mem_append.mpr ⟨l.blank, hv⟩),
          trim_append_right (List.forall_mem_append.mpr ⟨l.blank', hv⟩)]
      · exact .inr ⟨any_isBlank_trim hu hv (any_isBlank_gap l.ne_nil l.blank),
          any_isBlank_trim hu hv (any_isBlank_gap l.ne_nil' l.blank')⟩

/-! ## References -/

structure AlikeRef (r r' : TableRef) : Prop where
  parts : List.Forall₂ Alike r.parts r'.parts
  givenName : Option.Rel Alike r.givenName r'.givenName

theorem any_notTables {parts parts' : List Text} (h : List.Forall₂ Alike parts parts') :
    (parts.any fun part => notTables.contains (String.ofList part))
      = parts'.any fun part => notTables.contains (String.ofList part) := by
  have hsolid : ∀ name ∈ notTables, name.toList.any isBlank = false := by decide
  induction h with
  | nil => rfl
  | cons hpart _ ih => rw [List.any_cons, List.any_cons, ih, hpart.contains_eq hsolid]

/-- The names of a chain are alike, each but for white space in it. -/
theorem parts_facing {i i' : Nat} {m m' : Match} (hsame : l.SameMatch m m')
    (hm : qualifiedName.matchAt? (Cursor.seek l.text i) = some m)
    (hm' : qualifiedName.matchAt? (Cursor.seek l.text' i') = some m') :
    List.Forall₂ Alike ((nameDot.pieces (m.text l.text)).map plainIdentifier)
      ((nameDot.pieces (m'.text l.text')).map plainIdentifier) := by
  have hof : m.Of qualifiedName l.text := ⟨_, Cursor.seek_inText _ _, hm⟩
  obtain ⟨chain, -, htext⟩ := exists_chain_of_qualifiedName hm
  obtain ⟨chain', -, htext'⟩ := exists_chain_of_qualifiedName hm'
  have hspaced : l.Respaced (m.text l.text) (m'.text l.text') :=
    hsame.span.slice (Nat.le_trans (Nat.le_add_right _ _) hof.add_least_le_stop)
  rw [pieces_nameDot (htext ▸ chain.head?_not_blank) (htext ▸ chain.getLast?_not_blank),
    pieces_nameDot (htext' ▸ chain'.head?_not_blank) (htext' ▸ chain'.getLast?_not_blank)]
  simp only [List.forall₂_map_left_iff, List.forall₂_map_right_iff]
  exact (Respaced.splitOn hspaced).imp fun _ _ hpiece =>
    (Respaced.alike_trim hpiece).map any_isBlank_plainIdentifier

section Read

variable {i i' : Nat} (h : l.Opposite i i') (hi : i ≤ l.text.length)

include h hi

theorem aliasAt?_facing : Option.Rel Alike (aliasAt? l.text i) (aliasAt? l.text' i') := by
  have hsteady : aliasAfter.steady = true := by decide +kernel
  rw [aliasAt?, aliasAt?]
  rcases rel_cases (matchAt?_facing hsteady (facing_seek h hi)) with ⟨hm, hm'⟩ | ⟨m, m', hm, hm', hsame⟩
  · rw [hm, hm']
    exact .none
  · have hname : Alike (plainIdentifier (m.groupText l.text 1)) (plainIdentifier (m'.groupText l.text' 1)) :=
      (Respaced.alike (hsame.groupText ⟨_, Cursor.seek_inText _ _, hm⟩ 1)).map any_isBlank_plainIdentifier
    have hsolid : ∀ name ∈ notAliases, name.toList.any isBlank = false := by decide
    rw [hm, hm']
    simp only [hname.contains_eq hsolid]
    split
    · exact .none
    · exact .some hname

theorem namedAt?_facing : Option.Rel AlikeRef (namedAt? l.text i) (namedAt? l.text' i') := by
  have hsteady : qualifiedName.steady = true := by decide +kernel
  have hparen : openParen.steady = true := by decide +kernel
  rw [namedAt?, namedAt?]
  rcases rel_cases (matchAt?_facing hsteady (facing_seek h hi)) with ⟨hm, hm'⟩ | ⟨m, m', hm, hm', hsame⟩
  · rw [hm, hm']
    exact .none
  · have hof : m.Of qualifiedName l.text := ⟨_, Cursor.seek_inText _ _, hm⟩
    have hparts := parts_facing hsame hm hm'
    rw [hm, hm']
    simp only [isSome_matchAt?_facing hparen (facing_seek hsame.span.stop hof.stop_le_length)]
    generalize (nameDot.pieces (m.text l.text)).map plainIdentifier = parts at hparts ⊢
    generalize (nameDot.pieces (m'.text l.text')).map plainIdentifier = parts' at hparts ⊢
    rw [hparts.length_eq, any_notTables hparts]
    split
    · exact .none
    · split
      · exact .none
      · exact .some ⟨hparts, aliasAt?_facing hsame.span.stop hof.stop_le_length⟩

end Read

/-! ## Words at the end of a text -/

/-- The text ends with a word that stands alone, and white space. -/
structure WordEnding (t front word gap : Text) : Prop where
  text : t = front ++ (word ++ gap)
  ne_nil : word ≠ []
  isWord : ∀ c ∈ word, isWord c = true
  alone : ∀ c ∈ front.getLast?, Text.isWord c = false
  blank : ∀ c ∈ gap, isBlank c = true

namespace WordEnding

variable {u v front word gap : Text}

/-- Where no word goes on from one text to the next and that is not blank, the word stands in the next. -/
theorem of_append (h : WordEnding (u ++ v) front word gap)
    (hedge : (u.getLast?.any Text.isWord && v.head?.any Text.isWord) = false)
    (hv : ¬∀ c ∈ v, isBlank c = true) :
    ∃ front', front = u ++ front' ∧ WordEnding v front' word gap := by
  obtain ⟨heq, hne, hword, halone, hblank⟩ := h
  rcases List.append_eq_append_iff.mp heq with ⟨w, rfl, rfl⟩ | ⟨w, rfl, hw⟩
  · refine ⟨w, rfl, rfl, hne, hword, fun c hc => halone c ?_, hblank⟩
    rw [List.getLast?_append, show w.getLast? = some c from hc]
    rfl
  · rcases List.append_eq_append_iff.mp hw with ⟨x, rfl, rfl⟩ | ⟨x, rfl, hx⟩
    · exact absurd (fun c hc => hblank c (List.mem_append_right x hc)) hv
    · cases hlast : w.getLast? with
      | none =>
        obtain rfl := List.getLast?_eq_none_iff.mp hlast
        refine ⟨[], by simp, hx, hne, hword, fun c hc => absurd hc (by simp), hblank⟩
      | some c =>
        have hc := hword c (List.mem_append_left x (List.mem_of_getLast? hlast))
        rw [List.getLast?_append, hlast, Option.some_or, Option.any_some, hc, Bool.true_and] at hedge
        cases x with
        | nil =>
          obtain rfl : v = gap := hx
          exact absurd hblank hv
        | cons d x =>
          rw [hx, List.cons_append, List.head?_cons, Option.any_some,
            hword d (List.mem_append_right w List.mem_cons_self)] at hedge
          exact Bool.noConfusion hedge

theorem append (h : WordEnding v front word gap)
    (hedge : (u.getLast?.any Text.isWord && v.head?.any Text.isWord) = false) :
    WordEnding (u ++ v) (u ++ front) word gap := by
  obtain ⟨rfl, hne, hword, halone, hblank⟩ := h
  refine ⟨(List.append_assoc ..).symm, hne, hword, ?_, hblank⟩
  cases hfront : front.getLast? with
  | none =>
    obtain rfl := List.getLast?_eq_none_iff.mp hfront
    obtain ⟨c, w, rfl⟩ := List.exists_cons_of_ne_nil hne
    rw [List.nil_append, List.cons_append, List.head?_cons, Option.any_some, hword c List.mem_cons_self,
      Bool.and_true] at hedge
    rw [List.append_nil]
    exact any_isWord_eq_false.mp hedge
  | some d =>
    rw [List.getLast?_append, hfront]
    exact fun c hc => halone c (hfront.trans hc)

/-- The white space that a text ends with is that after the word. -/
theorem split (h : WordEnding (u ++ v) front word gap) (hu : ∀ c ∈ u.getLast?, isBlank c = false)
    (hv : ∀ c ∈ v, isBlank c = true) : u = front ++ word ∧ v = gap := by
  obtain ⟨heq, hne, hword, -, hblank⟩ := h
  rw [← List.append_assoc] at heq
  refine append_inj_of_lastRun hv hblank hu (fun c hc => ?_) heq
  rw [List.getLast?_append_of_ne_nil _ hne] at hc
  exact not_blank_of_isWord (hword c (List.mem_of_getLast? hc))

end WordEnding

/-- Whatever is said of the last word, it is said of the next text. -/
theorem exists_wordEnding_append {u v : Text} {P : Text → Text → Prop}
    (hedge : (u.getLast?.any isWord && v.head?.any isWord) = false) (hv : ¬∀ c ∈ v, isBlank c = true) :
    (∃ front word gap, WordEnding (u ++ v) front word gap ∧ P word gap) ↔
      ∃ front word gap, WordEnding v front word gap ∧ P word gap := by
  constructor
  · rintro ⟨front, word, gap, h, hword⟩
    obtain ⟨front', -, h'⟩ := h.of_append hedge hv
    exact ⟨front', word, gap, h', hword⟩
  · rintro ⟨front, word, gap, h, hword⟩
    exact ⟨u ++ front, word, gap, h.append hedge, hword⟩

theorem endsInDistinct_iff_wordEnding : EndsInDistinct t ↔ ∃ front word gap, WordEnding t front word gap ∧
    sameLetters "distinct".toList word = true ∧ (word ++ gap).length ≤ distinctReach := by
  constructor
  · rintro ⟨front, word, gap, heq, hsame, halone, hblank, hreach⟩
    exact ⟨front, word, gap, ⟨heq, (isWordName "distinct").ne_nil_of_sameLetters hsame,
      (isWordName "distinct").isWord_of_sameLetters hsame, halone, hblank⟩, hsame, hreach⟩
  · rintro ⟨front, word, gap, ⟨heq, -, -, halone, hblank⟩, hsame, hreach⟩
    exact ⟨front, word, gap, heq, hsame, halone, hblank, hreach⟩

/-! ## The word before FROM -/

theorem endsInDistinct_append {u v : Text} (hu : u.getLast?.any isWord = false)
    (hv : ¬∀ c ∈ v, isBlank c = true) : EndsInDistinct (u ++ v) ↔ EndsInDistinct v := by
  rw [endsInDistinct_iff_wordEnding, endsInDistinct_iff_wordEnding]
  exact exists_wordEnding_append (by rw [hu, Bool.false_and]) hv

/-- A text that ends in DISTINCT ends, but for at most twelve blanks, in the last of its letters. -/
theorem EndsInDistinct.split {front gap : Text} (h : EndsInDistinct (front ++ gap))
    (hfront : ∀ c ∈ front.getLast?, isBlank c = false) (hgap : ∀ c ∈ gap, isBlank c = true) :
    gap.length ≤ 12 ∧ ∃ c, front.getLast? = some c ∧ sameLetter 't' c = true := by
  obtain ⟨before, word, gap', hending, hsame, hreach⟩ := endsInDistinct_iff_wordEnding.mp h
  obtain ⟨rfl, rfl⟩ := hending.split hfront hgap
  have hlength : word.length = 8 := (length_eq_of_sameLetters hsame).symm
  rw [List.length_append, hlength] at hreach
  refine ⟨Nat.le_of_add_le_add_left (a := 8) hreach, word.getLast hending.ne_nil, ?_, ?_⟩
  · rw [List.getLast?_append_of_ne_nil _ hending.ne_nil, List.getLast?_eq_some_getLast hending.ne_nil]
  · have hfold := congrArg List.getLast? (sameLetters_iff.mp hsame)
    rw [List.getLast?_map, List.getLast?_map, List.getLast?_eq_some_getLast hending.ne_nil] at hfold
    exact sameLetter_iff.mpr (Option.some.inj hfold)

theorem not_endsInDistinct (hframed : Framed none l) {k : Nat}
    (hblank : ∀ c ∈ l.back.take k, isBlank c = true) :
    ¬EndsInDistinct (l.front ++ (l.gap ++ l.back.take k)) := by
  intro h
  have hgap : ∀ c ∈ l.gap ++ l.back.take k, isBlank c = true := List.forall_mem_append.mpr ⟨l.blank, hblank⟩
  rcases hframed with ⟨hwide, -⟩ | ⟨hlast, -⟩
  · obtain ⟨gap, hfront, hgapFront⟩ := exists_trimEnd_append l.front
    rw [hfront, List.append_assoc] at h
    have hle := (h.split (getLast?_trimEnd _) (List.forall_mem_append.mpr ⟨hgapFront, hgap⟩)).1
    simp only [List.length_append] at hle
    omega
  · rw [Option.or_none] at hlast
    obtain ⟨-, c, hc, hsame⟩ := h.split (forall_getLast? hlast (by decide)) hgap
    obtain rfl := Option.some.inj (hlast.symm.trans hc)
    exact absurd hsame (by decide)

/-- The white space is too wide for the search, or other words stand next to it. -/
theorem endsInDistinct_facing (hframed : Framed none l) {i i' : Nat} (h : l.Opposite i i') :
    EndsInDistinct (l.text.take i) ↔ EndsInDistinct (l.text'.take i') := by
  cases h with
  | left hle =>
    rw [take_left hle, take_left' hle]
  | right k =>
    have htake' : l.text'.take (l.swap.stop + k) = l.front ++ (l.gap' ++ l.back.take k) :=
      take_right (l := l.swap) k
    rw [take_right, htake']
    by_cases hblank : ∀ c ∈ l.back.take k, isBlank c = true
    · exact iff_of_false (not_endsInDistinct hframed hblank)
        (not_endsInDistinct (l := l.swap) hframed.swap hblank)
    · have hspace : ∀ {gap : Text}, gap ≠ [] → (∀ c ∈ gap, isBlank c = true) →
          (l.front ++ gap).getLast?.any isWord = false := by
        intro gap hne hgap
        rw [List.getLast?_append, isWord_after_gap hne hgap]
      rw [← List.append_assoc, ← List.append_assoc, endsInDistinct_append (hspace l.ne_nil l.blank) hblank,
        endsInDistinct_append (hspace l.ne_nil' l.blank') hblank]

/-! ## All references -/

section References

variable (hframed : Framed none l) {m m' : Match} (hsame : l.SameMatch m m') (hof : m.Of fromOrJoin l.text)

include hframed hsame hof

theorem isComparison_facing : isComparison l.text m = isComparison l.text' m' := by
  have hword : Alike (lower (m.groupText l.text 1)) (lower (m'.groupText l.text' 1)) :=
    (Respaced.alike (hsame.groupText hof 1)).map any_isBlank_lower
  have hstart : m.span.start ≤ l.text.length :=
    Nat.le_trans (Nat.le_add_right _ _) (Nat.le_trans hof.add_least_le_stop hof.stop_le_length)
  rw [isComparison, isComparison, hword.beq_solid (by decide)]
  congr 1
  rw [Bool.eq_iff_iff, isSome_distinctBefore hstart, isSome_distinctBefore (hsame.span.start.le_length hstart),
    endsInDistinct_facing hframed hsame.span.start]

theorem tableRefAt?_facing : Option.Rel AlikeRef (tableRefAt? l.text m) (tableRefAt? l.text' m') := by
  rw [tableRefAt?_eq, tableRefAt?_eq, isComparison_facing hframed hsame hof]
  split
  · exact .none
  · exact namedAt?_facing hsame.span.stop hof.stop_le_length

end References

/-- Two texts that differ in the white space after a FROM with a subquery name the same tables. -/
theorem tableRefs_arranged (h : Arranged t t') : List.Forall₂ AlikeRef (tableRefs t) (tableRefs t') := by
  obtain ⟨l, hmasked, hmasked', hframed⟩ := maskCalls_arranged isMasked_callsWithFrom h
  have hsteady : fromOrJoin.steady = true := by decide +kernel
  have hrooted : fromOrJoin.rooted = true := by decide +kernel
  have hall : List.Forall₂ (fun m m' => m.Of fromOrJoin l.text ∧ l.SameMatch m m') (fromOrJoin.all l.text)
      (fromOrJoin.all l.text') := (List.forall₂_and_left _ _).mpr
    ⟨fun m hm => Pattern.of_mem_all hm, all_facing hsteady hrooted⟩
  rw [tableRefs, tableRefs, hmasked, hmasked']
  exact List.rel_filterMap (fun m m' hm => tableRefAt?_facing hframed hm.2 hm.1) hall

end QueryLint.Sql
