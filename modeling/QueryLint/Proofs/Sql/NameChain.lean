import Mathlib.Algebra.GroupWithZero.Nat
import QueryLint.Proofs.Pattern.Scan
import QueryLint.Proofs.Pattern.Preferred
import QueryLint.Proofs.Sql.Identifier

/-! Names of several identifiers with points between them. A text is such a chain in one way only, and
the pattern for a table's name takes chains of at most three. The pieces between points are those of the
text, not those of the chain: a point in quotes separates too. Main statements:
`NameChain.identifiers_unique`, `exists_chain_of_qualifiedName` and `pieces_nameDot`. -/
namespace QueryLint.Sql
set_option autoImplicit false
open Text Shape

/-! ## Chains -/

structure NamePart where
  before : Gap
  after : Gap
  identifier : Identifier

structure NameChain where
  first : Identifier
  others : List NamePart

def NamePart.text (n : NamePart) : Text :=
  n.before.text ++ '.' :: (n.after.text ++ n.identifier.text)

namespace NameChain

def text (n : NameChain) : Text := n.first.text ++ n.others.flatMap NamePart.text

def identifiers (n : NameChain) : List Identifier := n.first :: n.others.map NamePart.identifier

end NameChain

/-! ## One reading of a text -/

/-- Where a run ends is told by what follows it. -/
theorem append_inj_of_run {p : Char → Bool} {s s' u u' : Text} (hs : ∀ c ∈ s, p c = true)
    (hs' : ∀ c ∈ s', p c = true) (hu : ∀ c ∈ u.head?, p c = false) (hu' : ∀ c ∈ u'.head?, p c = false)
    (h : s ++ u = s' ++ u') : s = s' ∧ u = u' := by
  have htake : ∀ {s u : Text}, (∀ c ∈ s, p c = true) → (∀ c ∈ u.head?, p c = false) →
      (s ++ u).takeWhile p = s := by
    intro s u hs hu
    rw [List.takeWhile_append_of_pos hs]
    cases u with
    | nil => simp
    | cons c u => simp [hu c rfl]
  have heq : s = s' := by rw [← htake hs hu, h, htake hs' hu']
  subst heq
  exact ⟨rfl, List.append_cancel_left h⟩

/-- Where a run begins is told by what stands before it. -/
theorem append_inj_of_lastRun {p : Char → Bool} {s s' u u' : Text} (hs : ∀ c ∈ s, p c = true)
    (hs' : ∀ c ∈ s', p c = true) (hu : ∀ c ∈ u.getLast?, p c = false)
    (hu' : ∀ c ∈ u'.getLast?, p c = false) (h : u ++ s = u' ++ s') : u = u' ∧ s = s' := by
  have hback : s.reverse ++ u.reverse = s'.reverse ++ u'.reverse := by
    rw [← List.reverse_append, h, List.reverse_append]
  obtain ⟨hruns, hfronts⟩ := append_inj_of_run (fun c hc => hs c (List.mem_reverse.mp hc))
    (fun c hc => hs' c (List.mem_reverse.mp hc)) (by rwa [List.head?_reverse])
    (by rwa [List.head?_reverse]) hback
  exact ⟨List.reverse_inj.mp hfronts, List.reverse_inj.mp hruns⟩

/-- What no identifier goes on with. -/
def NameEnds (rest : Text) : Prop := ∀ c ∈ rest.head?, columnPart.has false c = false

theorem Name.has_columnPart (name : Name columnPart) :
    ∀ c ∈ name.text, columnPart.has false c = true := by
  intro c hc
  rcases name.word_or_dollar hc with hword | rfl
  · simp [columnPart, CharSet.has, CharKind.has, hword]
  · rfl

theorem nameEnds_parts (parts : List NamePart) : NameEnds (parts.flatMap NamePart.text) := by
  have hblank : ∀ c, isBlank c = true → columnPart.has false c = false := by
    intro c hc
    have hne : c ≠ '$' := by
      rintro rfl
      exact absurd hc (by decide)
    simp [columnPart, CharSet.has, CharKind.has, isWord_of_isBlank hc, hne.symm]
  intro c hc
  cases parts with
  | nil => exact absurd hc (by simp)
  | cons part parts =>
    obtain ⟨⟨gap, hgap⟩, after, identifier⟩ := part
    cases gap with
    | nil =>
      obtain rfl := Option.some.inj hc
      decide
    | cons d gap =>
      obtain rfl := Option.some.inj hc
      exact hblank d (hgap d List.mem_cons_self)

theorem Identifier.append_inj {i j : Identifier} {u v : Text} (hu : NameEnds u) (hv : NameEnds v)
    (h : i.text ++ u = j.text ++ v) : i = j ∧ u = v := by
  cases i with
  | bare name =>
    cases j with
    | bare name' =>
      obtain ⟨htext, hrest⟩ := append_inj_of_run name.has_columnPart name'.has_columnPart hu hv h
      obtain ⟨hfirst, hothers⟩ := List.cons.inj htext
      cases name
      cases name'
      subst hfirst hothers
      exact ⟨rfl, hrest⟩
    | quoted name' =>
      have hfirst : name.first = '"' := (List.cons.inj h).1
      exact absurd name.first_has (by rw [hfirst]; decide)
  | quoted name =>
    cases j with
    | bare name' =>
      have hfirst : '"' = name'.first := (List.cons.inj h).1
      exact absurd name'.first_has (by rw [← hfirst]; decide)
    | quoted name' =>
      simp only [Identifier.text, List.cons_append, List.append_assoc] at h
      have hnot : ∀ {inside : Text}, '"' ∉ inside → ∀ c ∈ inside, (c != '"') = true := by
        intro inside hnot c hc
        simp only [bne_iff_ne]
        rintro rfl
        exact hnot hc
      obtain ⟨htext, hrest⟩ := append_inj_of_run (p := fun c => c != '"') (hnot name.not_mem)
        (hnot name'.not_mem) (forall_head? (by decide)) (forall_head? (by decide)) (List.cons.inj h).2
      cases name
      cases name'
      subst htext
      exact ⟨rfl, (List.cons.inj hrest).2⟩

theorem Identifier.head?_not_blank (i : Identifier) : ∀ c ∈ i.text.head?, isBlank c = false := by
  cases i with
  | bare name =>
    intro c hc
    obtain rfl := Option.some.inj hc
    exact not_blank_of_isWord (isWord_of_nameStart name.first_has)
  | quoted name =>
    intro c hc
    obtain rfl := Option.some.inj hc
    decide

theorem Identifier.getLast?_not_blank (i : Identifier) : ∀ c ∈ i.text.getLast?, isBlank c = false := by
  intro c hc
  cases i with
  | bare name =>
    rcases name.word_or_dollar (List.mem_of_getLast? hc) with hword | rfl
    · exact not_blank_of_isWord hword
    · decide
  | quoted name =>
    have hlast : (quoted name).text.getLast? = some '"' := by simp [text, List.getLast?_cons]
    obtain rfl := Option.some.inj (hlast.symm.trans hc)
    decide

theorem NamePart.append_inj {a b : NamePart} {u v : Text} (hu : NameEnds u) (hv : NameEnds v)
    (h : a.text ++ u = b.text ++ v) : a.identifier = b.identifier ∧ u = v := by
  have hfirst : ∀ (i : Identifier) (u : Text), ∀ c ∈ (i.text ++ u).head?, isBlank c = false := by
    intro i u c hc
    rw [List.head?_append_of_ne_nil _ i.text_ne_nil] at hc
    exact i.head?_not_blank c hc
  simp only [NamePart.text, List.append_assoc, List.cons_append] at h
  obtain ⟨-, hpoint⟩ := append_inj_of_run a.before.blank b.before.blank (forall_head? (by decide))
    (forall_head? (by decide)) h
  obtain ⟨-, hidentifiers⟩ := append_inj_of_run a.after.blank b.after.blank (hfirst _ _) (hfirst _ _)
    (List.cons.inj hpoint).2
  exact Identifier.append_inj hu hv hidentifiers

theorem parts_unique {as bs : List NamePart}
    (h : as.flatMap NamePart.text = bs.flatMap NamePart.text) :
    as.map NamePart.identifier = bs.map NamePart.identifier := by
  have hne : ∀ (a : NamePart) (u : Text), a.text ++ u ≠ [] := by
    intro a u
    simp [NamePart.text]
  induction as generalizing bs with
  | nil =>
    cases bs with
    | nil => rfl
    | cons b bs => exact absurd h.symm (hne b _)
  | cons a as ih =>
    cases bs with
    | nil => exact absurd h (hne a _)
    | cons b bs =>
      obtain ⟨hidentifier, hothers⟩ := NamePart.append_inj (nameEnds_parts as) (nameEnds_parts bs) h
      rw [List.map_cons, List.map_cons, hidentifier, ih hothers]

theorem NameChain.identifiers_unique {m n : NameChain} (h : m.text = n.text) :
    m.identifiers = n.identifiers := by
  obtain ⟨hfirst, hothers⟩ :=
    Identifier.append_inj (nameEnds_parts m.others) (nameEnds_parts n.others) h
  rw [identifiers, identifiers, hfirst, parts_unique hothers]

/-! ## The ends of a chain -/

theorem NameChain.head?_not_blank (n : NameChain) : ∀ c ∈ n.text.head?, isBlank c = false := by
  intro c hc
  rw [text, List.head?_append_of_ne_nil _ n.first.text_ne_nil] at hc
  exact n.first.head?_not_blank c hc

/-- Each part ends where its identifier ends, by induction on the parts. -/
theorem getLast?_parts_not_blank {u : Text} (hu : ∀ c ∈ u.getLast?, isBlank c = false)
    (parts : List NamePart) : ∀ c ∈ (u ++ parts.flatMap NamePart.text).getLast?, isBlank c = false := by
  induction parts generalizing u with
  | nil => rwa [List.flatMap_nil, List.append_nil]
  | cons part parts ih =>
    rw [List.flatMap_cons, ← List.append_assoc]
    refine ih fun c hc => part.identifier.getLast?_not_blank c ?_
    have htext : u ++ part.text
        = (u ++ (part.before.text ++ '.' :: part.after.text)) ++ part.identifier.text := by
      simp [NamePart.text]
    rwa [htext, List.getLast?_append_of_ne_nil _ part.identifier.text_ne_nil] at hc

theorem NameChain.getLast?_not_blank (n : NameChain) : ∀ c ∈ n.text.getLast?, isBlank c = false :=
  getLast?_parts_not_blank n.first.getLast?_not_blank n.others

/-! ## Counting characters of a chain -/

theorem Gap.count_text (gap : Gap) {c : Char} (hc : isBlank c = false) : gap.text.count c = 0 :=
  List.count_eq_zero.mpr fun h => nomatch hc.symm.trans (gap.blank c h)

theorem Identifier.count_text (i : Identifier) {c : Char} (hc : c ≠ '"') :
    i.text.count c = i.named.count c := by
  cases i with
  | bare name => rfl
  | quoted name =>
    have hquote : ['"'].count c = 0 := List.count_eq_zero.mpr (by simpa using hc)
    rw [text, ← List.singleton_append, List.count_append, List.count_append, hquote, named]
    omega

/-- A character that is neither white space nor a quote stands in what the identifiers name, or it is
a point between them. -/
theorem NameChain.count_text (n : NameChain) {c : Char} (hblank : isBlank c = false) (hc : c ≠ '"') :
    n.text.count c
      = n.others.length * ['.'].count c + (n.identifiers.map fun i => i.named.count c).sum := by
  obtain ⟨first, others⟩ := n
  simp only [text, identifiers, List.count_append, first.count_text hc, List.map_cons, List.sum_cons]
  induction others with
  | nil => simp
  | cons part others ih =>
    have hpart : part.text.count c = ['.'].count c + part.identifier.named.count c := by
      rw [NamePart.text, ← List.singleton_append, List.count_append, List.count_append,
        List.count_append, part.before.count_text hblank, part.after.count_text hblank,
        part.identifier.count_text hc]
      omega
    rw [List.flatMap_cons, List.count_append, hpart, List.map_cons, List.map_cons, List.sum_cons,
      List.length_cons, Nat.add_mul, Nat.one_mul]
    omega

theorem NameChain.count_open (n : NameChain) :
    n.text.count '(' = (n.identifiers.map fun i => i.named.count '(').sum := by
  have hnot : ['.'].count '(' = 0 := by decide
  rw [n.count_text (by decide) (by decide), hnot, Nat.mul_zero, Nat.zero_add]

theorem NameChain.count_point (n : NameChain) :
    n.text.count '.' = n.others.length + (n.identifiers.map fun i => i.named.count '.').sum := by
  have hone : ['.'].count '.' = 1 := by decide
  rw [n.count_text (by decide) (by decide), hone, Nat.mul_one]

theorem NameChain.length_identifiers (n : NameChain) :
    n.identifiers.length = n.others.length + 1 := by
  rw [identifiers, List.length_cons, List.length_map]

/-! ## What the patterns take -/

/-- What the pattern takes has a form, in any grammar that writes quoted names and bare ones of the
characters which the pattern admits, with regard to case or without. -/
theorem identifier_takes {blind : Bool} {Form : Type} {text : Form → Text}
    (hquoted : ∀ name : QuotedName, ∃ n, text n = '"' :: (name.inside ++ ['"']))
    (hbare : ∀ first others, nameStart.has blind first = true →
      (∀ c ∈ others, columnPart.has blind c = true) → ∃ n, text n = first :: others)
    {p q : Progress} (h : q ∈ identifier.ends blind p) :
    ∃ n, text n <+: p.cursor.rest ∧ q = p.past (text n) := by
  rcases mem_ends_either.mp h with h | h
  · obtain ⟨r, hr, hclose⟩ := mem_ends_seq.mp h
    obtain ⟨r, hopen, hr⟩ := mem_ends_seq.mp hr
    obtain ⟨c, hc, hquote, rfl⟩ := mem_ends_set.mp hopen
    obtain ⟨r, hfirst, hinside⟩ := mem_ends_seq.mp hr
    obtain ⟨x, hx, hxNot, rfl⟩ := mem_ends_set.mp hfirst
    obtain ⟨inside, hbegins, hinsideNot, rfl⟩ := mem_ends_many.mp hinside
    obtain ⟨d, hd, hquote', rfl⟩ := mem_ends_set.mp hclose
    obtain rfl := CharSet.eq_of_has_single (by decide) (by decide) hquote
    obtain rfl := CharSet.eq_of_has_single (by decide) (by decide) hquote'
    simp only [Progress.past_past, Progress.past_cursor, Cursor.past_rest] at hx hbegins hd ⊢
    have hx := (prefix_drop_iff hc).mp hx
    have hbegins := (prefix_drop_iff hx).mp hbegins
    have hd := (prefix_drop_iff hbegins).mp hd
    have hself : CharSet.has blind ⟨[.char '"'], true⟩ '"' = false := by cases blind <;> decide
    have hnot : '"' ∉ x :: inside := by
      intro hmem
      rcases List.mem_cons.mp hmem with rfl | hmem
      · exact nomatch hself.symm.trans hxNot
      · exact nomatch hself.symm.trans (hinsideNot _ hmem)
    obtain ⟨n, hn⟩ := hquoted ⟨x :: inside, List.cons_ne_nil x inside, hnot⟩
    exact ⟨n, hn ▸ hd, congrArg p.past hn.symm⟩
  · obtain ⟨r, hfirst, hothers⟩ := mem_ends_seq.mp h
    obtain ⟨c, hc, hstart, rfl⟩ := mem_ends_set.mp hfirst
    obtain ⟨others, hbegins, hpart, rfl⟩ := mem_ends_many.mp hothers
    obtain ⟨n, hn⟩ := hbare c others hstart hpart
    exact ⟨n, hn ▸ (prefix_drop_iff hc).mp hbegins,
      (Progress.past_past p [c] others).trans (congrArg p.past hn.symm)⟩

theorem exists_identifier {p q : Progress} (h : q ∈ identifier.ends false p) :
    ∃ i : Identifier, i.text <+: p.cursor.rest ∧ q = p.past i.text :=
  identifier_takes (fun name => ⟨.quoted name, rfl⟩)
    (fun first others hstart hpart => ⟨.bare ⟨first, others, hstart, hpart⟩, rfl⟩) h

theorem exists_gap {blind : Bool} {p q : Progress} (h : q ∈ gap.ends blind p) :
    ∃ g : Gap, g.text <+: p.cursor.rest ∧ q = p.past g.text := by
  obtain ⟨w, hw, hblank, rfl⟩ := mem_ends_gap.mp h
  exact ⟨⟨w, hblank⟩, hw, rfl⟩

theorem exists_part {p q : Progress} (h : q ∈ (gap ++ char '.' ++ gap ++ identifier).ends false p) :
    ∃ part : NamePart, part.text <+: p.cursor.rest ∧ q = p.past part.text := by
  obtain ⟨r, hsign, hidentifier⟩ := mem_ends_seq.mp h
  obtain ⟨r', hsign, hafter⟩ := mem_ends_seq.mp hsign
  obtain ⟨r'', hbefore, hpoint⟩ := mem_ends_seq.mp hsign
  obtain ⟨before, hbefore, hr''⟩ := exists_gap hbefore
  obtain ⟨hpoint, hr'⟩ := sign_taken (by decide) (by decide) hpoint
  obtain ⟨after, hafter, hr⟩ := exists_gap hafter
  obtain ⟨i, hi, hq⟩ := exists_identifier hidentifier
  obtain ⟨hi, hq⟩ := Progress.past_append hafter hr hi hq
  obtain ⟨hi, hq⟩ := Progress.past_append hpoint hr' hi hq
  exact ⟨⟨before, after, i⟩, Progress.past_append hbefore hr'' hi hq⟩

theorem exists_parts {n : Nat} {p q : Progress}
    (h : q ∈ (atMost n (gap ++ char '.' ++ gap ++ identifier)).ends false p) :
    ∃ parts : List NamePart, parts.length ≤ n ∧ parts.flatMap NamePart.text <+: p.cursor.rest ∧
      q = p.past (parts.flatMap NamePart.text) := by
  induction n generalizing p with
  | zero =>
    obtain rfl := List.mem_singleton.mp h
    exact ⟨[], Nat.le_refl 0, List.nil_prefix, rfl⟩
  | succ n ih =>
    rcases mem_ends_either.mp h with h | h
    · obtain ⟨r, hpart, hothers⟩ := mem_ends_seq.mp h
      obtain ⟨part, hbegins, rfl⟩ := exists_part hpart
      obtain ⟨parts, hlength, hparts, rfl⟩ := ih hothers
      exact ⟨part :: parts, Nat.succ_le_succ hlength, (prefix_drop_iff hbegins).mp hparts,
        Progress.past_past p part.text _⟩
    · obtain rfl := List.mem_singleton.mp h
      exact ⟨[], Nat.zero_le _, List.nil_prefix, rfl⟩

theorem exists_chain_of_qualifiedName {t : Text} {position : Nat} {m : Match}
    (h : qualifiedName.matchAt? (Cursor.seek t position) = some m) :
    ∃ chain : NameChain, chain.others.length ≤ 2 ∧ m.text t = chain.text := by
  obtain ⟨q, hq, rfl⟩ := Pattern.exists_end_of_matchAt? h
  obtain ⟨r, hfirst, hothers⟩ := mem_ends_seq.mp hq
  obtain ⟨i, hi, rfl⟩ := exists_identifier hfirst
  obtain ⟨parts, hlength, hparts, rfl⟩ := exists_parts hothers
  have hc := Cursor.seek_inText t position
  generalize Cursor.seek t position = c at *
  have hbegins : NameChain.text ⟨i, parts⟩ <+: t.drop c.position :=
    hc.rest_eq ▸ (prefix_drop_iff hi).mp hparts
  refine ⟨⟨i, parts⟩, hlength, ?_⟩
  rw [Match.text, Progress.past_past]
  exact Text.slice_of_begins hbegins

/-! ## The pieces between points -/

theorem dropWhile_ne_nil {drops : Char → Bool} {t : Text} {c : Char} (hc : c ∈ t)
    (h : drops c = false) : t.dropWhile drops ≠ [] := by
  intro hnil
  have hsplit : t.takeWhile drops ++ t.dropWhile drops = t := List.takeWhile_append_dropWhile
  rw [hnil, List.append_nil] at hsplit
  exact nomatch h.symm.trans (List.all_eq_true.mp List.all_takeWhile c (hsplit.symm ▸ hc))

theorem splitOn_of_not_mem {t : Text} (h : '.' ∉ t) : t.splitOn '.' = [t] := by
  refine List.splitOnP_eq_singleton fun c hc => ?_
  simp only [beq_eq_false_iff_ne]
  rintro rfl
  exact h hc

theorem splitOn_point {a : Text} (h : '.' ∉ a) (w : Text) :
    (a ++ '.' :: w).splitOn '.' = a :: w.splitOn '.' := by
  refine List.splitOnP_append_cons_of_forall_mem (fun c hc => ?_) '.' rfl w
  simp only [beq_eq_false_iff_ne]
  rintro rfl
  exact h hc

def trimEnd (t : Text) : Text := (t.reverse.dropWhile isBlank).reverse

theorem exists_trimEnd_append (t : Text) :
    ∃ gap, t = trimEnd t ++ gap ∧ ∀ c ∈ gap, isBlank c = true := by
  refine ⟨(t.reverse.takeWhile isBlank).reverse, ?_, fun c hc => ?_⟩
  · rw [trimEnd, ← List.reverse_append, List.takeWhile_append_dropWhile, List.reverse_reverse]
  · exact List.all_eq_true.mp List.all_takeWhile c (List.mem_reverse.mp hc)

theorem getLast?_trimEnd (t : Text) : ∀ c ∈ (trimEnd t).getLast?, isBlank c = false := by
  intro c hc
  rw [trimEnd, List.getLast?_reverse] at hc
  have hnot := List.head?_dropWhile_not isBlank t.reverse
  rw [hc] at hnot
  simpa using hnot

theorem trimEnd_eq_self {t : Text} (h : ∀ c ∈ t.getLast?, isBlank c = false) : trimEnd t = t := by
  rw [trimEnd, dropWhile_eq_self, List.reverse_reverse]
  rwa [List.head?_reverse]

/-- Pieces of which the first has nothing to trim at its beginning. -/
def trimmedPieces : List Text → List Text
  | [] => []
  | piece :: others => trimEnd piece :: others.map trim

theorem map_trim_splitOn (t : Text) :
    (t.splitOn '.').map trim = trimmedPieces ((t.dropWhile isBlank).splitOn '.') := by
  by_cases hpoint : '.' ∈ t
  · obtain ⟨a, w, rfl, ha⟩ := List.eq_append_cons_of_mem hpoint
    have hdrop : (a ++ '.' :: w).dropWhile isBlank = a.dropWhile isBlank ++ '.' :: w := by
      rw [List.dropWhile_append]
      cases a.dropWhile isBlank with
      | nil => exact dropWhile_eq_self (forall_head? (by decide))
      | cons c rest => rfl
    have hnot : '.' ∉ a.dropWhile isBlank := fun h => ha ((List.dropWhile_sublist isBlank).subset h)
    rw [hdrop, splitOn_point ha, splitOn_point hnot]
    rfl
  · have hnot : '.' ∉ t.dropWhile isBlank :=
      fun h => hpoint ((List.dropWhile_sublist isBlank).subset h)
    rw [splitOn_of_not_mem hpoint, splitOn_of_not_mem hnot]
    rfl

theorem noMatch_nameDot {before : Option Char} {position : Nat} {t : Text}
    (h : (t.dropWhile isBlank).head? ≠ some '.') : nameDot.matchAt? ⟨before, position, t⟩ = none := by
  have hnone : nameDot.shape.ends nameDot.ignoreCase ⟨⟨before, position, t⟩, []⟩ = [] :=
    ends_seq_eq_nil (ends_gap_char_eq_nil (by decide) h)
  rw [Pattern.matchAt?_eq_head?, hnone]
  rfl

/-- What ends in no white space and has no point belongs to the piece that is read. -/
theorem pieceScan_skip {before : Option Char} {u rest piece : Text} {others : List Text}
    (hlast : ∀ c ∈ u.getLast?, isBlank c = false) (hpoint : '.' ∉ u)
    (h : nameDot.PieceScan (u.getLast?.or before) rest (piece :: others)) :
    nameDot.PieceScan before (u ++ rest) ((u ++ piece) :: others) := by
  induction u generalizing before with
  | nil => exact h
  | cons c u ih =>
    have hnext : ∀ d ∈ u.getLast?, isBlank d = false := by
      intro d hd
      refine hlast d ?_
      rw [List.getLast?_cons, hd]
      rfl
    rw [getLast?_cons_or] at h
    refine .skip (fun position => noMatch_nameDot fun hhead => ?_)
      (ih hnext (fun hmem => hpoint (List.mem_cons_of_mem c hmem)) h)
    -- The next character that is no white space belongs to the stretch.
    have hkept := dropWhile_ne_nil (List.getLast_mem (List.cons_ne_nil c u))
      (hlast _ (List.getLast?_eq_some_getLast _))
    obtain ⟨d, after, hafter⟩ := List.exists_cons_of_ne_nil hkept
    have hd : d ∈ c :: u := (List.dropWhile_sublist isBlank).subset (hafter ▸ List.mem_cons_self)
    have hhead : (((c :: u) ++ rest).dropWhile isBlank).head? = some '.' := hhead
    rw [List.dropWhile_append, hafter] at hhead
    exact hpoint (Option.some.inj hhead ▸ hd)

/-- A point and the white space around it end the piece that is read. -/
theorem pieceScan_hit {before : Option Char} {gap gap' rest : Text} {others : List Text}
    (hgap : ∀ c ∈ gap, isBlank c = true) (hgap' : ∀ c ∈ gap', isBlank c = true)
    (hrest : ∀ c ∈ rest.head?, isBlank c = false)
    (h : nameDot.PieceScan ((gap ++ ['.'] ++ gap').getLast?.or before) rest others) :
    nameDot.PieceScan before (gap ++ ['.'] ++ gap' ++ rest) ([] :: others) := by
  have hblank : ∀ {c : Char}, isBlank c = true → CharSet.has false ⟨[.blank], false⟩ c = true := by
    intro c hc
    simp [CharSet.has, CharKind.has, hc]
  have hnot : ∀ {c : Char}, isBlank c = false → CharSet.has false ⟨[.blank], false⟩ c = false := by
    intro c hc
    simp [CharSet.has, CharKind.has, hc]
  refine .hit (by simp) (fun position => ⟨_, Pattern.matchAt?_of_prefers ?_, rfl⟩) h
  have hfirst : (Progress.mk ⟨before, position, gap ++ ['.'] ++ gap' ++ rest⟩ []).cursor.rest
      = gap ++ ('.' :: (gap' ++ rest)) := by simp
  have hsecond := rest_past hfirst
  have hthird := rest_past (w := ['.']) hsecond
  refine Prefers.seq (Prefers.seq ?_ (prefers_char hsecond)) ?_
  · exact prefers_many hfirst (fun c hc => hblank (hgap c hc)) (forall_head? (by decide))
  · rw [Progress.past_past] at hthird
    exact prefers_many hthird (fun c hc => hblank (hgap' c hc)) fun c hc => hnot (hrest c hc)

/-- The pieces are read from point to point, by induction on the length of the text. -/
theorem pieceScan_nameDot {before : Option Char} {t : Text}
    (hlast : ∀ c ∈ t.getLast?, isBlank c = false) :
    nameDot.PieceScan before t (trimmedPieces (t.splitOn '.')) := by
  by_cases hpoint : '.' ∈ t
  · obtain ⟨a, w, rfl, ha⟩ := List.eq_append_cons_of_mem hpoint
    obtain ⟨gap, ha', hgap⟩ := exists_trimEnd_append a
    have hgap' : ∀ c ∈ w.takeWhile isBlank, isBlank c = true :=
      fun c hc => List.all_eq_true.mp List.all_takeWhile c hc
    have hfirst : ∀ c ∈ (w.dropWhile isBlank).head?, isBlank c = false := by
      intro c hc
      have hnot := List.head?_dropWhile_not isBlank w
      rw [hc] at hnot
      simpa using hnot
    have hlater : ∀ c ∈ (w.dropWhile isBlank).getLast?, isBlank c = false := by
      intro c hc
      refine hlast c ?_
      have hw : w.takeWhile isBlank ++ w.dropWhile isBlank = w := List.takeWhile_append_dropWhile
      rw [← hw, ← List.cons_append, ← List.append_assoc, List.getLast?_append, hc]
      rfl
    have hnot : '.' ∉ trimEnd a := fun h => ha (ha' ▸ List.mem_append_left gap h)
    have htext : a ++ '.' :: w
        = trimEnd a ++ (gap ++ ['.'] ++ w.takeWhile isBlank ++ w.dropWhile isBlank) := by
      calc a ++ '.' :: w = (trimEnd a ++ gap) ++ '.' :: w := by rw [← ha']
        _ = _ := by simp
    have hscan : nameDot.PieceScan before _ ((trimEnd a ++ []) :: _) :=
      pieceScan_skip (getLast?_trimEnd a) hnot
        (pieceScan_hit hgap hgap' hfirst (pieceScan_nameDot hlater))
    rw [List.append_nil, ← htext] at hscan
    rwa [splitOn_point ha, trimmedPieces, map_trim_splitOn]
  · rw [splitOn_of_not_mem hpoint]
    have hend : nameDot.PieceScan (t.getLast?.or before) [] [[]] :=
      .nil fun position => noMatch_nameDot (by simp)
    have hscan := pieceScan_skip hlast hpoint hend
    rw [List.append_nil] at hscan
    rwa [trimmedPieces, trimEnd_eq_self hlast]
termination_by t.length
decreasing_by
  have hle : (w.dropWhile isBlank).length ≤ w.length := (List.dropWhile_sublist isBlank).length_le
  have ht := congrArg List.length ‹t = a ++ '.' :: w›
  rw [List.length_append, List.length_cons] at ht
  omega

/-- The pieces are those between the points of the text, without white space around them. -/
theorem pieces_nameDot {t : Text} (hfirst : ∀ c ∈ t.head?, isBlank c = false)
    (hlast : ∀ c ∈ t.getLast?, isBlank c = false) : nameDot.pieces t = (t.splitOn '.').map trim := by
  rw [map_trim_splitOn, dropWhile_eq_self hfirst]
  exact (pieceScan_nameDot hlast).pieces_eq

theorem splitOn_cons {x : Char} (hx : x ≠ '.') (t : Text) : ∃ piece others,
    t.splitOn '.' = piece :: others ∧ (x :: t).splitOn '.' = (x :: piece) :: others := by
  obtain ⟨piece, others, hsplit⟩ :=
    List.exists_cons_of_ne_nil (List.splitOnP_ne_nil (fun c => c == '.') t)
  refine ⟨piece, others, hsplit, ?_⟩
  rw [List.splitOn, List.splitOnP_cons_eq_if_modifyHead, if_neg (by simpa using hx), hsplit]
  rfl

/-- What holds of a text and its pieces, one character at a time. -/
theorem splitOn_induction {motive : Text → List Text → Prop} (nil : motive [] [[]])
    (point : ∀ t pieces, motive t pieces → motive ('.' :: t) ([] :: pieces))
    (other : ∀ x t piece others, x ≠ '.' → motive t (piece :: others) →
      motive (x :: t) ((x :: piece) :: others)) (t : Text) : motive t (t.splitOn '.') := by
  induction t with
  | nil => exact nil
  | cons x t ih =>
    by_cases hx : x = '.'
    · subst hx
      have hcut : ('.' :: t).splitOn '.' = [] :: t.splitOn '.' := splitOn_point List.not_mem_nil t
      exact hcut ▸ point t _ ih
    · obtain ⟨piece, others, hsplit, hcons⟩ := splitOn_cons hx t
      exact hcons ▸ other x t piece others hx (hsplit ▸ ih)

theorem sum_count_splitOn {c : Char} (hc : c ≠ '.') (t : Text) :
    ((t.splitOn '.').map fun piece => piece.count c).sum = t.count c := by
  refine splitOn_induction (motive := fun t pieces => (pieces.map fun piece => piece.count c).sum = t.count c)
    rfl (fun t pieces ih => ?_) (fun x t piece others _ ih => ?_) t
  · rw [List.map_cons, List.sum_cons, ih, List.count_cons_of_ne hc.symm]
    exact Nat.zero_add _
  · rw [List.map_cons, List.sum_cons] at ih ⊢
    rw [List.count_cons, List.count_cons, ← ih]
    omega

theorem length_splitOn (t : Text) : (t.splitOn '.').length = t.count '.' + 1 := by
  refine splitOn_induction (motive := fun t pieces => pieces.length = t.count '.' + 1)
    rfl (fun t pieces ih => ?_) (fun x t piece others hx ih => ?_) t
  · rw [List.length_cons, ih, List.count_cons_self]
  · rw [List.count_cons_of_ne hx, ← ih, List.length_cons, List.length_cons]

theorem trim_identifier {gap gap' : Text} (hgap : ∀ c ∈ gap, isBlank c = true)
    (hgap' : ∀ c ∈ gap', isBlank c = true) (i : Identifier) :
    plainIdentifier (trim (gap ++ (i.text ++ gap'))) = lower i.named := by
  have htrim : trim (gap ++ (i.text ++ gap')) = i.text :=
    trimBy_eq hgap i.head?_not_blank i.getLast?_not_blank hgap'
  rw [htrim, i.plainIdentifier_text]

theorem Identifier.point_not_mem {i : Identifier} (h : '.' ∉ i.named) {gap gap' : Text}
    (hgap : ∀ c ∈ gap, isBlank c = true) (hgap' : ∀ c ∈ gap', isBlank c = true) :
    '.' ∉ gap ++ (i.text ++ gap') := by
  have hblank : isBlank '.' = false := by decide
  have hi : '.' ∉ i.text := by
    rw [← List.count_eq_zero, i.count_text (by decide), List.count_eq_zero]
    exact h
  intro hmem
  rcases List.mem_append.mp hmem with hmem | hmem
  · exact nomatch hblank.symm.trans (hgap _ hmem)
  · rcases List.mem_append.mp hmem with hmem | hmem
    · exact hi hmem
    · exact nomatch hblank.symm.trans (hgap' _ hmem)

/-- If no identifier has a point in it, the pieces are what the identifiers name. -/
theorem map_plain_splitOn {gap : Text} (hgap : ∀ c ∈ gap, isBlank c = true) {i : Identifier}
    {parts : List NamePart} (h : ∀ j ∈ i :: parts.map NamePart.identifier, '.' ∉ j.named) :
    ((gap ++ (i.text ++ parts.flatMap NamePart.text)).splitOn '.').map (fun p => plainIdentifier (trim p))
      = (i :: parts.map NamePart.identifier).map fun j => lower j.named := by
  induction parts generalizing gap i with
  | nil =>
    have hnil : ∀ c ∈ ([] : Text), isBlank c = true := by simp
    rw [List.flatMap_nil, splitOn_of_not_mem (Identifier.point_not_mem (h i List.mem_cons_self) hgap hnil),
      List.map_singleton, trim_identifier hgap hnil]
    rfl
  | cons part parts ih =>
    have htext : gap ++ (i.text ++ (part :: parts).flatMap NamePart.text)
        = gap ++ (i.text ++ part.before.text) ++ '.' ::
          (part.after.text ++ (part.identifier.text ++ parts.flatMap NamePart.text)) := by
      simp [NamePart.text]
    have hpoint := Identifier.point_not_mem (h i List.mem_cons_self) hgap part.before.blank
    have hothers := ih part.after.blank fun j hj => h j (List.mem_cons_of_mem i hj)
    rw [htext, splitOn_point hpoint, List.map_cons, trim_identifier hgap part.before.blank, hothers]
    rfl

end QueryLint.Sql
