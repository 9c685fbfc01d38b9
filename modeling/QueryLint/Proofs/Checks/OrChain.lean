import Mathlib.Data.List.Chain
import QueryLint.Checks.Filter
import QueryLint.Proofs.Pattern.Taken

/-! Chains of OR. The check counts in one pass how many tests in a row belong together and reports as
soon as there are four of them; that is the same as to look at every window of four tests for one whose
tests are joined. Main statement: `orChain_earliest`. -/
namespace QueryLint.Checks
set_option autoImplicit false
open Text Shape Sql

/-! ## Windows of a list -/

section Windows

variable {α : Type} (R : α → α → Prop) [DecidableRel R] (n : Nat)

/-- The first stretch of `n` elements each of which is related to the next one. -/
def window? : List α → Option (List α)
  | [] => none
  | a :: l =>
    if n ≤ (a :: l).length ∧ ((a :: l).take n).IsChain R then some ((a :: l).take n) else window? l

variable {R n}

theorem exists_of_window?_some {l w : List α} (h : window? R n l = some w) :
    ∃ before, before ++ w <+: l ∧ w.length = n ∧ w.IsChain R ∧
      ∀ before' w', before' ++ w' <+: l → w'.length = n → w' ≠ [] → w'.IsChain R →
        before.length ≤ before'.length := by
  induction l with
  | nil => exact nomatch h
  | cons a l ih =>
    rw [window?] at h
    split at h
    · rename_i hfirst
      obtain rfl := Option.some.inj h
      exact ⟨[], List.take_prefix n _, List.length_take_of_le hfirst.1, hfirst.2,
        fun _ _ _ _ _ _ => Nat.zero_le _⟩
    · rename_i hfirst
      obtain ⟨before, hin, hlength, hchain, hleast⟩ := ih h
      refine ⟨a :: before, List.cons_prefix_cons.mpr ⟨rfl, hin⟩, hlength, hchain,
        fun before' w' hin' hlength' hne' hchain' => ?_⟩
      cases before' with
      | nil =>
        have htake : w' = (a :: l).take n := hlength' ▸ List.prefix_iff_eq_take.mp hin'
        exact absurd ⟨hlength' ▸ hin'.length_le, htake ▸ hchain'⟩ hfirst
      | cons b before' =>
        obtain ⟨-, hin'⟩ := List.cons_prefix_cons.mp hin'
        exact Nat.succ_le_succ (hleast before' w' hin' hlength' hne' hchain')

theorem not_window_of_window?_none {l : List α} (h : window? R n l = none) {before w : List α}
    (hin : before ++ w <+: l) (hlength : w.length = n) (hne : w ≠ []) : ¬w.IsChain R := by
  induction l generalizing before with
  | nil => exact absurd (List.append_eq_nil_iff.mp (List.prefix_nil.mp hin)).2 hne
  | cons a l ih =>
    rw [window?] at h
    split at h
    · exact nomatch h
    · rename_i hfirst
      cases before with
      | nil =>
        intro hchain
        have htake : w = (a :: l).take n := hlength ▸ List.prefix_iff_eq_take.mp hin
        exact hfirst ⟨hlength ▸ hin.length_le, htake ▸ hchain⟩
      | cons b before => exact ih h (List.cons_prefix_cons.mp hin).2

/-- No window begins in a short run that the next element does not continue. -/
theorem window?_of_broken {run rest : List α} {last m : α} (hlast : last ∈ run.getLast?)
    (hshort : run.length < n) (hbreak : ¬R last m) :
    window? R n (run ++ m :: rest) = window? R n (m :: rest) := by
  induction run with
  | nil => exact nomatch hlast
  | cons a run ih =>
    have hnot : ¬((a :: run ++ m :: rest).take n).IsChain R := by
      intro hchain
      have htake : (a :: run) ++ [m] <+: (a :: run ++ m :: rest).take n := by
        refine List.prefix_take_iff.mpr ⟨⟨rest, by simp⟩, ?_⟩
        rw [List.length_append]
        exact hshort
      have hends := List.IsChain.prefix hchain htake
      exact hbreak ((List.isChain_append.mp hends).2.2 last hlast m rfl)
    rw [List.cons_append, window?, if_neg fun h => hnot h.2]
    cases run with
    | nil => rfl
    | cons b run =>
      exact ih (by rwa [List.getLast?_cons_cons] at hlast) (Nat.lt_of_succ_lt hshort)

theorem window?_of_full {run rest : List α} (hne : run ≠ []) (hlength : run.length = n)
    (hchain : run.IsChain R) : window? R n (run ++ rest) = some run := by
  have htake : (run ++ rest).take n = run := by rw [← hlength, List.take_left]
  have hle : n ≤ (run ++ rest).length := by
    rw [← hlength, List.length_append]
    exact Nat.le_add_right _ _
  obtain ⟨a, run, rfl⟩ := List.exists_cons_of_ne_nil hne
  rw [List.cons_append] at htake hle ⊢
  rw [window?, htake, if_pos ⟨hle, hchain⟩]

end Windows

/-! ## Tests that are joined -/

def IsOr (t : Text) : Prop :=
  ∃ gap word gap', t = gap ++ word ++ gap' ∧ sameLetters "or".toList word = true ∧
    (gap ≠ [] ∧ ∀ c ∈ gap, isBlank c = true) ∧ (gap' ≠ [] ∧ ∀ c ∈ gap', isBlank c = true)

theorem orSeparator_fits {t : Text} : orSeparator.fits t = true ↔ IsOr t := by
  have htakes := (takes_space.seq (takes_chars "or".toList)).seq takes_space
  refine (Pattern.fits_iff_of_takes htakes).trans ⟨?_, ?_⟩
  · rintro ⟨_, gap', rfl, ⟨gap, word, rfl, hgap, hword⟩, hgap'⟩
    exact ⟨gap, word, gap', rfl, hword, hgap, hgap'⟩
  · rintro ⟨gap, word, gap', rfl, hword, hgap, hgap'⟩
    exact ⟨_, gap', rfl, ⟨gap, word, rfl, hgap, hword⟩, hgap'⟩

/-- Two tests of one column, letter case aside, with nothing between them but OR. -/
structure OrJoined (sql : Text) (m m' : Match) : Prop where
  column : lower (m.groupText sql 1) = lower (m'.groupText sql 1)
  between : IsOr (sql.slice ⟨m.span.stop, m'.span.start⟩)

instance (sql : Text) : DecidableRel (OrJoined sql) := fun m m' =>
  decidable_of_iff (lower (m.groupText sql 1) = lower (m'.groupText sql 1) ∧
      orSeparator.fits (sql.slice ⟨m.span.stop, m'.span.start⟩) = true)
    ⟨fun h => ⟨h.1, orSeparator_fits.mp h.2⟩, fun h => ⟨h.column, orSeparator_fits.mpr h.between⟩⟩

/-! ## The run that is counted -/

/-- What is kept of a run of tests: its last column, its length, and where it begins and ends. -/
structure IsRun (sql : Text) (run : List Match) (first last : Match) (c : OrChain) : Prop where
  chain : run.IsChain (OrJoined sql)
  head : run.head? = some first
  getLast : run.getLast? = some last
  kept : c = ⟨lower (last.groupText sql 1), run.length, ⟨first.span.start, last.span.stop⟩⟩

namespace IsRun

variable {sql : Text} {run : List Match} {first last m : Match} {c : OrChain}

theorem single (sql : Text) (m : Match) : IsRun sql [m] m m ⟨lower (m.groupText sql 1), 1, m.span⟩ :=
  ⟨.singleton m, rfl, rfl, rfl⟩

theorem ne_nil (h : IsRun sql run first last c) : run ≠ [] := by
  rintro rfl
  exact nomatch h.head

theorem extend (h : IsRun sql run first last c) (hjoined : OrJoined sql last m) :
    IsRun sql (run ++ [m]) first m (OrChain.extend sql (some c) m) := by
  obtain ⟨hchain, hhead, hlast, rfl⟩ := h
  refine ⟨List.isChain_append.mpr ⟨hchain, .singleton m, ?_⟩, ?_, ?_, ?_⟩
  · intro x hx y hy
    obtain rfl := Option.some.inj (hlast.symm.trans hx)
    obtain rfl := Option.some.inj hy
    exact hjoined
  · rw [List.head?_append, hhead, Option.some_or]
  · exact List.getLast?_concat
  · have hfits := orSeparator_fits.mpr hjoined.between
    simp [OrChain.extend, hjoined.column, hfits]

theorem restart (h : IsRun sql run first last c) (hbreak : ¬OrJoined sql last m) :
    OrChain.extend sql (some c) m = ⟨lower (m.groupText sql 1), 1, m.span⟩ := by
  obtain ⟨-, -, -, rfl⟩ := h
  refine if_neg fun hboth => hbreak ?_
  rw [Bool.and_eq_true, beq_iff_eq] at hboth
  exact ⟨hboth.1, orSeparator_fits.mp hboth.2⟩

end IsRun

theorem one_lt_orChainThreshold : 1 < orChainThreshold := by decide

/-- What is reported of a window: its last column, its length, and the stretch from its first test to its
last. -/
def Reports (sql : Text) (w : List Match) (f : Finding) : Prop :=
  ∃ first last c, IsRun sql w first last c ∧
    f = (orChainAdvice (last.groupText sql 1).shown w.length).located ⟨first.span.start, last.span.stop⟩

/-- The count finds the first window, by induction on the tests to come; the run that is counted is part
of what is searched. -/
theorem orChainFrom_reports {sql : Text} {run rest : List Match} {first last : Match} {c : OrChain}
    (h : IsRun sql run first last c) (hshort : run.length < orChainThreshold) :
    Option.Rel (Reports sql) (window? (OrJoined sql) orChainThreshold (run ++ rest))
      (orChainFrom sql (some c) rest) := by
  induction rest generalizing run first last c with
  | nil =>
    have hnone : window? (OrJoined sql) orChainThreshold (run ++ []) = none := by
      cases hw : window? (OrJoined sql) orChainThreshold (run ++ []) with
      | none => rfl
      | some w =>
        obtain ⟨before, hin, hlength, -⟩ := exists_of_window?_some hw
        have hle := hin.length_le
        rw [List.append_nil, List.length_append] at hle
        omega
    rw [hnone]
    exact .none
  | cons m rest ih =>
    rw [orChainFrom]
    by_cases hjoined : OrJoined sql last m
    · have hlonger := h.extend hjoined
      have hsplit : run ++ m :: rest = (run ++ [m]) ++ rest := by simp
      have hlength : (OrChain.extend sql (some c) m).length = (run ++ [m]).length := by rw [hlonger.kept]
      rw [hsplit]
      simp only [hlength]
      split
      · rename_i hfull
        have hthreshold : (run ++ [m]).length = orChainThreshold := by
          rw [List.length_append, List.length_singleton] at hfull ⊢
          omega
        rw [window?_of_full hlonger.ne_nil hthreshold hlonger.chain]
        exact .some ⟨first, m, _, hlonger, by rw [hlonger.kept]⟩
      · rename_i hfew
        exact ih hlonger (Nat.lt_of_not_le hfew)
    · rw [window?_of_broken h.getLast hshort hjoined, h.restart hjoined,
        if_neg (Nat.not_le.mpr one_lt_orChainThreshold)]
      exact ih (IsRun.single sql m) one_lt_orChainThreshold

theorem orChain_reports (sql : Text) : Option.Rel (Reports sql)
    (window? (OrJoined sql) orChainThreshold (equalityTerm.all sql))
    (orChainFrom sql none (equalityTerm.all sql)) := by
  cases equalityTerm.all sql with
  | nil => exact .none
  | cons m rest =>
    rw [orChainFrom]
    exact orChainFrom_reports (IsRun.single sql m) one_lt_orChainThreshold

/-- Four tests in a row, each joined to the next, with some tests in front of them. -/
structure Window (sql : Text) (before : List Match) (a b c d : Match) : Prop where
  inARow : before ++ [a, b, c, d] <+: equalityTerm.all sql
  joined : [a, b, c, d].IsChain (OrJoined sql)

/-- The check reports just if four tests in a row are joined, and then the earliest such four, from the
start of the first to the end of the fourth. -/
theorem orChain_earliest (sql : Text) :
    (orChain sql ≠ [] ↔ ∃ before a b c d, Window sql before a b c d) ∧
    ∀ f ∈ orChain sql, orChain sql = [f] ∧ ∃ before a b c d, Window sql before a b c d ∧
      (∀ before' a' b' c' d', Window sql before' a' b' c' d' → before.length ≤ before'.length) ∧
      f = (orChainAdvice (d.groupText sql 1).shown 4).located ⟨a.span.start, d.span.stop⟩ ∧
      f.offset = some ⟨a.span.start, d.span.stop⟩ := by
  have hrel := orChain_reports sql
  unfold orChain
  cases hw : window? (OrJoined sql) orChainThreshold (equalityTerm.all sql) with
  | none =>
    rw [hw] at hrel
    cases hf : orChainFrom sql none (equalityTerm.all sql) with
    | some f => exact nomatch hf ▸ hrel
    | none =>
      refine ⟨⟨fun h => absurd rfl h, ?_⟩, fun f hmem => absurd hmem List.not_mem_nil⟩
      rintro ⟨before, a, b, c, d, hin, hchain⟩
      exact absurd hchain (not_window_of_window?_none hw hin rfl (List.cons_ne_nil _ _))
  | some w =>
    rw [hw] at hrel
    cases hf : orChainFrom sql none (equalityTerm.all sql) with
    | none => exact nomatch hf ▸ hrel
    | some f =>
      rw [hf] at hrel
      obtain ⟨first, last, chain, hrun, rfl⟩ : Reports sql w f := by cases hrel with | some h => exact h
      obtain ⟨before, hin, hlength, hchain, hleast⟩ := exists_of_window?_some hw
      obtain ⟨a, b, c, d, rfl⟩ : ∃ a b c d, w = [a, b, c, d] := List.length_eq_four.mp hlength
      obtain rfl : a = first := Option.some.inj hrun.head
      obtain rfl : d = last := Option.some.inj hrun.getLast
      refine ⟨⟨fun _ => ⟨before, a, b, c, d, hin, hchain⟩, fun _ => List.cons_ne_nil _ _⟩, fun f hmem => ?_⟩
      obtain rfl := List.mem_singleton.mp hmem
      refine ⟨rfl, before, a, b, c, d, ⟨hin, hchain⟩, ?_, rfl, rfl⟩
      rintro before' a' b' c' d' ⟨hin', hchain'⟩
      exact hleast before' _ hin' rfl (List.cons_ne_nil _ _) hchain'

end QueryLint.Checks
