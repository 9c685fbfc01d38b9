import Mathlib.Data.List.Basic
import QueryLint.Checks.Expression
import QueryLint.Proofs.Sql.CaseWord

/-! CASE expressions and their own branches. Each WHEN and each END belongs to the innermost CASE that is
open in front of it. The check keeps the open expressions on a stack with what it has counted so far, and
lists them as they are closed; put in order, they are the CASE words of the text from left to right, each
with its own branches. Main statement: `largeCaseChain_leftmost`. -/
namespace QueryLint.Checks
set_option autoImplicit false
open Text Sql

/-! ## What belongs to a CASE -/

/-- The CASE words that are open after one more word, the innermost first. An END closes the innermost
of them, if any is open. -/
def openAfter (opened : List PlacedWord) (w : PlacedWord) : List PlacedWord :=
  match w.word with
  | .opening => w :: opened
  | .branch => opened
  | .closing => opened.tail

/-- Each word with the innermost CASE that is open in front of it, given those open at first. -/
def owned : List PlacedWord → List PlacedWord → List (Option PlacedWord × PlacedWord)
  | _, [] => []
  | opened, w :: words => (opened.head?, w) :: owned (openAfter opened w) words

/-- The number of WHEN words that belong to a CASE. -/
def branches (opened words : List PlacedWord) (c : PlacedWord) : Nat :=
  (owned opened words).countP fun o => o.1 == some c && o.2.word == .branch

/-- The END word that belongs to a CASE. -/
def matchingEnd? (opened words : List PlacedWord) (c : PlacedWord) : Option PlacedWord :=
  ((owned opened words).find? fun o => o.1 == some c && o.2.word == .closing).map Prod.snd

/-- A CASE from its word to the end of its matching END, or of the word itself if it is never closed, with
its own branches and those counted before. -/
def chainOf (opened words : List PlacedWord) (c : PlacedWord) (counted : Nat) : CaseChain :=
  ⟨⟨c.start, ((matchingEnd? opened words c).getD c).stop⟩, counted + branches opened words c⟩

variable {opened outer words : List PlacedWord} {c w : PlacedWord} {counted : Nat}

theorem mem_of_mem_owned {o : Option PlacedWord × PlacedWord} (h : o ∈ owned opened words)
    (ho : o.1 = some c) : c ∈ opened ∨ c ∈ words := by
  induction words generalizing opened with
  | nil => exact nomatch h
  | cons w words ih =>
    rcases List.mem_cons.mp h with rfl | h
    · exact .inl (List.mem_of_mem_head? ho)
    · rcases ih h with hmem | hmem
      · rw [openAfter] at hmem
        split at hmem
        · rcases List.mem_cons.mp hmem with rfl | hmem
          · exact .inr List.mem_cons_self
          · exact .inl hmem
        · exact .inl hmem
        · exact .inl (List.mem_of_mem_tail hmem)
      · exact .inr (List.mem_cons_of_mem w hmem)

/-- A word that does not belong to a CASE leaves it as it is, and so does another CASE word. -/
theorem chainOf_cons (h : opened.head? = some c → w.word = .opening) :
    chainOf opened (w :: words) c counted = chainOf (openAfter opened w) words c counted := by
  have hnot : ∀ word : CaseWord, word ≠ .opening → (opened.head? == some c && w.word == word) = false := by
    intro word hword
    refine Bool.eq_false_iff.mpr fun hboth => hword ?_
    rw [Bool.and_eq_true, beq_iff_eq, beq_iff_eq] at hboth
    rw [← hboth.2, h hboth.1]
  rw [chainOf, chainOf, branches, branches, matchingEnd?, matchingEnd?, owned, List.countP_cons,
    List.find?_cons, hnot .branch (by decide), hnot .closing (by decide)]
  rfl

theorem chainOf_branch (hw : w.word = .branch) :
    chainOf (c :: outer) (w :: words) c counted = chainOf (c :: outer) words c (counted + 1) := by
  have hafter : openAfter (c :: outer) w = c :: outer := by rw [openAfter, hw]
  rw [chainOf, chainOf, branches, branches, matchingEnd?, matchingEnd?, owned, List.countP_cons,
    List.find?_cons, hafter, hw]
  have hother : (CaseWord.branch == CaseWord.closing) = false := rfl
  simp [hother, Nat.add_assoc, Nat.add_comm 1]

/-- Its own END closes it: nothing after that belongs to it. -/
theorem chainOf_closing (hw : w.word = .closing) (houter : c ∉ outer) (hwords : c ∉ words) :
    chainOf (c :: outer) (w :: words) c counted = ⟨⟨c.start, w.stop⟩, counted⟩ := by
  have hafter : openAfter (c :: outer) w = outer := by rw [openAfter, hw, List.tail_cons]
  have hnone : branches outer words c = 0 := by
    refine List.countP_eq_zero.mpr fun o ho hboth => ?_
    rw [Bool.and_eq_true, beq_iff_eq] at hboth
    exact (mem_of_mem_owned ho hboth.1).elim houter hwords
  rw [branches] at hnone
  rw [chainOf, branches, matchingEnd?, owned, List.countP_cons, List.find?_cons, hafter, hw, hnone]
  simp

/-! ## What the check lists -/

/-- All CASE expressions: those that are open, with what has been counted of them, and those to come. -/
def allCases (stack : List (PlacedWord × Nat)) (words : List PlacedWord) : List CaseChain :=
  stack.map (fun c => chainOf (stack.map Prod.fst) words c.1 c.2) ++
    (words.filter (·.word == .opening)).map fun c => chainOf (stack.map Prod.fst) words c 0

section AllCases

variable {stack rest : List (PlacedWord × Nat)} {inner : PlacedWord}

theorem allCases_opening (hw : w.word = .opening) :
    (allCases ((w, 0) :: stack) words).Perm (allCases stack (w :: words)) := by
  have hafter : openAfter (stack.map Prod.fst) w = ((w, 0) :: stack).map Prod.fst := by
    rw [openAfter, hw, List.map_cons]
  have hsame : ∀ c counted, chainOf (stack.map Prod.fst) (w :: words) c counted
      = chainOf (((w, 0) :: stack).map Prod.fst) words c counted := by
    intro c counted
    rw [chainOf_cons fun _ => hw, hafter]
  rw [allCases, allCases, List.filter_cons_of_pos (by rw [hw]; rfl)]
  simp only [hsame, List.map_cons, List.cons_append]
  exact List.perm_middle.symm

/-- A word to which no open CASE answers. -/
theorem allCases_ignored (hw : w.word ≠ .opening) : allCases [] (w :: words) = allCases [] words := by
  have hafter : openAfter [] w = [] := by
    rw [openAfter]
    cases hword : w.word with
    | opening => exact absurd hword hw
    | branch | closing => rfl
  have hsame : ∀ c counted, chainOf [] (w :: words) c counted = chainOf [] words c counted := by
    intro c counted
    have hnone : ([] : List PlacedWord).head? = some c → w.word = .opening := nofun
    rw [chainOf_cons hnone, hafter]
  rw [allCases, allCases, List.filter_cons_of_neg (by simpa using hw)]
  simp only [List.map_nil, hsame]

/-- What is not the innermost CASE keeps what belongs to it. -/
theorem allCases_rest (hinner : inner ∉ rest.map Prod.fst ++ words) (hw : w.word ≠ .opening) :
    allCases ((inner, counted) :: rest) (w :: words)
      = chainOf (inner :: rest.map Prod.fst) (w :: words) inner counted ::
        (rest.map (fun c => chainOf (openAfter (inner :: rest.map Prod.fst) w) words c.1 c.2) ++
          (words.filter (·.word == .opening)).map fun c =>
            chainOf (openAfter (inner :: rest.map Prod.fst) w) words c 0) := by
  have hother : ∀ c counted, c ∈ rest.map Prod.fst ++ words →
      chainOf (inner :: rest.map Prod.fst) (w :: words) c counted
        = chainOf (openAfter (inner :: rest.map Prod.fst) w) words c counted := by
    intro c counted hc
    refine chainOf_cons fun hhead => absurd hc ?_
    obtain rfl := Option.some.inj hhead
    exact hinner
  rw [allCases, List.filter_cons_of_neg (by simpa using hw), List.map_cons, List.map_cons, List.cons_append]
  refine congrArg (_ :: ·) (congrArg₂ (· ++ ·) (List.map_congr_left fun c hc => ?_)
    (List.map_congr_left fun c hc => ?_))
  · exact hother _ _ (List.mem_append_left _ (List.mem_map_of_mem hc))
  · exact hother _ _ (List.mem_append_right _ (List.mem_of_mem_filter hc))

theorem allCases_branch (hinner : inner ∉ rest.map Prod.fst ++ words) (hw : w.word = .branch) :
    allCases ((inner, counted) :: rest) (w :: words) = allCases ((inner, counted + 1) :: rest) words := by
  have hafter : openAfter (inner :: rest.map Prod.fst) w = inner :: rest.map Prod.fst := by rw [openAfter, hw]
  rw [allCases_rest hinner (by rw [hw]; decide), hafter, chainOf_branch hw, allCases, List.map_cons, List.map_cons,
    List.cons_append]

theorem allCases_closing (hinner : inner ∉ rest.map Prod.fst ++ words) (hw : w.word = .closing) :
    allCases ((inner, counted) :: rest) (w :: words)
      = ⟨⟨inner.start, w.stop⟩, counted⟩ :: allCases rest words := by
  have hafter : openAfter (inner :: rest.map Prod.fst) w = rest.map Prod.fst := by
    rw [openAfter, hw, List.tail_cons]
  rw [allCases_rest hinner (by rw [hw]; decide), hafter, allCases, chainOf_closing hw
    (fun h => hinner (List.mem_append_left _ h)) fun h => hinner (List.mem_append_right _ h)]

end AllCases

/-- The words of the rest of a text with the CASE words that are open: they are all different, and each is
read off the text as the check reads it. -/
structure CaseRest (sql : Text) (opened words : List PlacedWord) : Prop where
  opening : ∀ c ∈ opened, c.word = .opening
  nodup : (opened ++ words).Nodup
  read : ∀ w ∈ words, lower (w.found.groupText sql 1) = w.word.letters

namespace CaseRest

variable {sql : Text}

theorem opens (h : CaseRest sql opened (w :: words)) (hw : w.word = .opening) :
    CaseRest sql (w :: opened) words where
  opening := List.forall_mem_cons.mpr ⟨hw, h.opening⟩
  nodup := List.perm_middle.nodup_iff.mp h.nodup
  read := fun w' hw' => h.read w' (List.mem_cons_of_mem w hw')

theorem passed (h : CaseRest sql opened (w :: words)) : CaseRest sql opened words where
  opening := h.opening
  nodup := h.nodup.sublist (List.Sublist.append_left (List.sublist_cons_self w words) _)
  read := fun w' hw' => h.read w' (List.mem_cons_of_mem w hw')

theorem closed (h : CaseRest sql (c :: outer) words) : CaseRest sql outer words where
  opening := (List.forall_mem_cons.mp h.opening).2
  nodup := (List.nodup_cons.mp h.nodup).2
  read := h.read

theorem not_mem (h : CaseRest sql (c :: outer) words) : c ∉ outer ++ words := (List.nodup_cons.mp h.nodup).1

end CaseRest

def counting (stack : List (PlacedWord × Nat)) : List OpenCase := stack.map fun c => ⟨c.1.start, c.2⟩

theorem caseChainsFrom_perm {sql : Text} {stack : List (PlacedWord × Nat)}
    (h : CaseRest sql (stack.map Prod.fst) words) :
    (caseChainsFrom sql (counting stack) (words.map PlacedWord.found)).Perm (allCases stack words) := by
  induction words generalizing stack with
  | nil =>
    have hunended : ∀ c ∈ stack, OpenCase.unended ⟨c.1.start, c.2⟩ = chainOf (stack.map Prod.fst) [] c.1 c.2 := by
      intro c hc
      have hstop : c.1.stop = c.1.start + 4 := by
        rw [PlacedWord.stop, h.opening c.1 (List.mem_map_of_mem hc)]
        rfl
      rw [OpenCase.unended, ← hstop]
      rfl
    rw [List.map_nil, caseChainsFrom, allCases, counting, List.map_reverse, List.map_map, List.filter_nil,
      List.map_nil, List.append_nil]
    exact (List.reverse_perm _).trans (List.Perm.of_eq (List.map_congr_left hunended))
  | cons w words ih =>
    have hread := h.read w List.mem_cons_self
    rw [List.map_cons, caseChainsFrom.eq_def]
    simp only [hread]
    cases hw : w.word with
    | opening =>
      rw [if_pos (by decide)]
      exact (@ih ((w, 0) :: stack) (h.opens hw)).trans (allCases_opening hw)
    | branch =>
      rw [if_neg (by decide), if_pos (by decide)]
      cases stack with
      | nil =>
        rw [allCases_ignored (by rw [hw]; decide)]
        exact ih h.passed
      | cons inner rest =>
        rw [allCases_branch h.passed.not_mem hw]
        exact @ih ((inner.1, inner.2 + 1) :: rest) h.passed
    | closing =>
      rw [if_neg (by decide), if_neg (by decide)]
      cases stack with
      | nil =>
        rw [allCases_ignored (by rw [hw]; decide)]
        exact ih h.passed
      | cons inner rest =>
        rw [allCases_closing h.passed.not_mem hw]
        exact (ih h.passed.closed).cons _

/-! ## The leftmost large CASE -/

theorem caseChains_perm {sql : Text} (h : Char.ofNat 0x17F ∉ sql) : (caseChains sql).Perm
    (((caseWords sql).filter (·.word == .opening)).map fun c => chainOf [] (caseWords sql) c 0) := by
  have hstart : CaseRest sql [] (caseWords sql) := by
    refine ⟨fun c hc => absurd hc List.not_mem_nil, ?_, fun w hw => ?_⟩
    · exact (caseWords_increasing sql).imp fun hlt heq => Nat.ne_of_lt hlt (congrArg PlacedWord.start heq)
    · exact lower_found hw
  rw [caseChains, all_caseToken h]
  exact @caseChainsFrom_perm _ sql [] hstart

/-- In order, the CASE expressions are the CASE words of the text. -/
theorem sorted_caseChains {sql : Text} (h : Char.ofNat 0x17F ∉ sql) :
    ((caseChains sql).mergeSort fun a b => a.span.start ≤ b.span.start)
      = ((caseWords sql).filter (·.word == .opening)).map fun c => chainOf [] (caseWords sql) c 0 := by
  have hperm := (List.mergeSort_perm (caseChains sql) fun a b => a.span.start ≤ b.span.start).trans
    (caseChains_perm h)
  have hsorted := @List.pairwise_mergeSort CaseChain (fun a b => a.span.start ≤ b.span.start)
    (fun a b c hab hbc => decide_eq_true (Nat.le_trans (of_decide_eq_true hab) (of_decide_eq_true hbc)))
    (fun a b => by simpa using Nat.le_total a.span.start b.span.start) (caseChains sql)
  refine List.Perm.eq_of_pairwise (fun a b ha hb hab hba => ?_) hsorted ?_ hperm
  · -- no two CASE words begin at one place
    obtain ⟨c, hc, rfl⟩ := List.mem_map.mp (hperm.mem_iff.mp ha)
    obtain ⟨c', hc', rfl⟩ := List.mem_map.mp hb
    have hstart : c.start = c'.start := Nat.le_antisymm (of_decide_eq_true hab) (of_decide_eq_true hba)
    have hplace := mem_caseWords.mp (List.mem_of_mem_filter hc)
    rw [hstart, mem_caseWords.mp (List.mem_of_mem_filter hc')] at hplace
    rw [Option.some.inj hplace]
  · refine List.pairwise_map.mpr (((caseWords_increasing sql).sublist List.filter_sublist).imp fun hlt => ?_)
    exact decide_eq_true (Nat.le_of_lt hlt)

structure IsLarge (sql : Text) (c : PlacedWord) : Prop where
  inText : c ∈ caseWords sql
  opening : c.word = .opening
  many : 10 ≤ branches [] (caseWords sql) c

/-- The finding about a CASE, up to the end of its matching END, or of its word if it is never closed. -/
def caseFinding (sql : Text) (c : PlacedWord) : Finding :=
  (caseChainAdvice (branches [] (caseWords sql) c)).located
    ⟨c.start, ((matchingEnd? [] (caseWords sql) c).getD c).stop⟩

theorem largeCaseChain_eq {sql : Text} (h : Char.ofNat 0x17F ∉ sql) : largeCaseChain sql
    = ((((caseWords sql).filter (·.word == .opening)).find? fun c =>
        decide (10 ≤ branches [] (caseWords sql) c)).map (caseFinding sql)).toList := by
  rw [largeCaseChain, sorted_caseChains h, List.find?_map, Option.map_map]
  simp only [Function.comp_def, chainOf, Nat.zero_add]
  rfl

/-- The check reports just if a CASE has ten branches of its own or more, and then the leftmost such CASE
with their exact number. -/
theorem largeCaseChain_leftmost {sql : Text} (h : Char.ofNat 0x17F ∉ sql) :
    (largeCaseChain sql ≠ [] ↔ ∃ c, IsLarge sql c) ∧
    ∀ c, IsLarge sql c → (∀ c', IsLarge sql c' → c.start ≤ c'.start) →
      largeCaseChain sql = [caseFinding sql c] ∧
      (caseFinding sql c).title = s!"CASE expression with {branches [] (caseWords sql) c} branches" ∧
      (caseFinding sql c).offset
        = some (Span.toRange ⟨c.start, ((matchingEnd? [] (caseWords sql) c).getD c).stop⟩) := by
  have hcases : ∀ c, IsLarge sql c ↔ c ∈ (caseWords sql).filter (·.word == .opening) ∧
      decide (10 ≤ branches [] (caseWords sql) c) = true := by
    intro c
    rw [List.mem_filter, beq_iff_eq, decide_eq_true_iff]
    exact ⟨fun h => ⟨⟨h.inText, h.opening⟩, h.many⟩, fun h => ⟨h.1.1, h.1.2, h.2⟩⟩
  have hincreasing := (caseWords_increasing sql).sublist (List.filter_sublist (p := (·.word == .opening)))
  rw [largeCaseChain_eq h]
  generalize (caseWords sql).filter (·.word == .opening) = cases at hcases hincreasing
  cases hfind : cases.find? fun c => decide (10 ≤ branches [] (caseWords sql) c) with
  | none =>
    have hnone : ∀ c, ¬IsLarge sql c :=
      fun c hc => List.find?_eq_none.mp hfind c ((hcases c).mp hc).1 ((hcases c).mp hc).2
    exact ⟨⟨fun hne => absurd rfl hne, fun ⟨c, hc⟩ => absurd hc (hnone c)⟩, fun c hc => absurd hc (hnone c)⟩
  | some c =>
    obtain ⟨hmany, before, after, rfl, hbefore⟩ := List.find?_eq_some_iff_append.mp hfind
    have hc : IsLarge sql c := (hcases c).mpr ⟨by simp, hmany⟩
    refine ⟨⟨fun _ => ⟨c, hc⟩, fun _ => List.cons_ne_nil _ _⟩, fun c' hc' hleast => ?_⟩
    have heq : c' = c := by
      obtain ⟨hmem, hmany'⟩ := (hcases c').mp hc'
      rcases List.mem_append.mp hmem with hmem | hmem
      · have hfew := hbefore c' hmem
        rw [hmany'] at hfew
        exact nomatch hfew
      · rcases List.mem_cons.mp hmem with rfl | hmem
        · rfl
        · have hlt := (List.pairwise_cons.mp (List.pairwise_append.mp hincreasing).2.1).1 c' hmem
          exact absurd (hleast c hc) (Nat.not_le_of_lt hlt)
    subst heq
    exact ⟨rfl, rfl, rfl⟩

/-- Ten branches, and a CASE with a branch of its own in the last of them. -/
def nestedCases : Text :=
  "case when 1 when 2 when 3 when 4 when 5 when 6 when 7 when 8 when 9 when case when 0 end end".toList

theorem largeCaseChain_nestedCases : Char.ofNat 0x17F ∉ nestedCases ∧
    ∃ f, largeCaseChain nestedCases = [f] ∧ f.title = "CASE expression with 10 branches" ∧
      f.offset = some ⟨0, nestedCases.length⟩ := by
  have hplain : Char.ofNat 0x17F ∉ nestedCases := by decide +kernel
  have hwords : branches [] (caseWords nestedCases) ⟨.opening, 0⟩ = 10 ∧
      matchingEnd? [] (caseWords nestedCases) ⟨.opening, 0⟩ = some ⟨.closing, nestedCases.length - 3⟩ := by
    decide +kernel
  have hlarge : IsLarge nestedCases ⟨.opening, 0⟩ := ⟨by decide +kernel, rfl, Nat.le_of_eq hwords.1.symm⟩
  obtain ⟨hlist, htitle, hoffset⟩ :=
    (largeCaseChain_leftmost hplain).2 _ hlarge fun c' _ => Nat.zero_le c'.start
  refine ⟨hplain, _, hlist, ?_, ?_⟩
  · rw [htitle, hwords.1]
    rfl
  · rw [hoffset, hwords.2]
    rfl

end QueryLint.Checks
