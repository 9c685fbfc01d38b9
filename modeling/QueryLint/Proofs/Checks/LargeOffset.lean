import QueryLint.Proofs.Sql.Offset

/-! The check for a large OFFSET. It reads the numbers one after the other, up to the first that is large, and
it fails at the first that has too many digits to be read. Main statement: `largeOffsets_findSome_iff`, it
reports just if there is a large OFFSET and all numbers up to the first one are read. -/
namespace QueryLint.Checks
set_option autoImplicit false
open Sql

/-! ## Large numbers, and numbers that are read -/

/-- An OFFSET with a number of at least ten thousand begins at the place. -/
def LargeAt (t : Text) (start : Nat) : Prop := ∃ digits, OffsetAt t start digits ∧ 10000 ≤ Text.decimalValue digits

def FirstLargeAt (t : Text) (start : Nat) : Prop := LargeAt t start ∧ ∀ start', LargeAt t start' → start ≤ start'

/-- No number up to the place has more than 4300 digits. -/
def ReadTo (t : Text) (start : Nat) : Prop :=
  ∀ start' ≤ start, ∀ digits, OffsetAt t start' digits → digits.length ≤ 4300

theorem FirstLargeAt.unique {t : Text} {start start' : Nat} (h : FirstLargeAt t start)
    (h' : FirstLargeAt t start') : start = start' := Nat.le_antisymm (h.2 start' h'.1) (h'.2 start h.1)

theorem LargeAt.exists_first {t : Text} {start : Nat} (h : LargeAt t start) : ∃ first, FirstLargeAt t first := by
  induction start using Nat.strongRecOn with
  | ind start ih =>
    by_cases hearlier : ∃ start' < start, LargeAt t start'
    · obtain ⟨start', hlt, hlarge⟩ := hearlier
      exact ih start' hlt hlarge
    · exact ⟨start, h, fun start' hlarge => Nat.le_of_not_lt fun hlt => hearlier ⟨start', hlt, hlarge⟩⟩

/-! ## The loop -/

/-- The check has not failed, and it has found something. -/
def FindsSome (outcome : Except Fault (List Finding)) : Prop := ∃ findings, outcome = .ok findings ∧ findings ≠ []

section Loop

variable {t : Text} {m : Match} {rest : List Match}

/-- One round: the number has to be read, and it is large or the loop goes on. -/
theorem largeOffsetAmong_cons : FindsSome (largeOffsetAmong t (m :: rest)) ↔
    (m.groupText t 1).length ≤ 4300 ∧ (10000 ≤ Text.decimalValue (m.groupText t 1) ∨
      Text.decimalValue (m.groupText t 1) < 10000 ∧ FindsSome (largeOffsetAmong t rest)) := by
  rw [largeOffsetAmong, readNumber]
  by_cases hlong : (m.groupText t 1).length > maxNumberDigits
  · have hnot : ¬(m.groupText t 1).length ≤ 4300 := Nat.not_le_of_lt hlong
    simp [FindsSome, hlong, hnot]
  · have hread : (m.groupText t 1).length ≤ 4300 := Nat.le_of_not_lt hlong
    rw [if_neg hlong, and_iff_right hread]
    by_cases hlarge : Text.decimalValue (m.groupText t 1) ≥ largeOffsetThreshold
    · have hlarge' : 10000 ≤ Text.decimalValue (m.groupText t 1) := hlarge
      simp [FindsSome, hlarge, hlarge']
    · have hsmall : Text.decimalValue (m.groupText t 1) < 10000 := Nat.lt_of_not_le hlarge
      simp [FindsSome, hlarge, hsmall]

/-- The whole loop, by induction on the matches. -/
theorem largeOffsetAmong_findSome_iff {found : List Match} : FindsSome (largeOffsetAmong t found) ↔
    ∃ before m after, found = before ++ m :: after ∧ 10000 ≤ Text.decimalValue (m.groupText t 1) ∧
      (∀ m' ∈ before, Text.decimalValue (m'.groupText t 1) < 10000) ∧
      ∀ m' ∈ before ++ [m], (m'.groupText t 1).length ≤ 4300 := by
  induction found with
  | nil => simp [FindsSome, largeOffsetAmong]
  | cons m rest ih =>
    rw [largeOffsetAmong_cons, ih]
    constructor
    · rintro ⟨hread, hlarge | ⟨hsmall, before, n, after, rfl, hlarge, hbefore, hreadAll⟩⟩
      · exact ⟨[], m, rest, rfl, hlarge, by simp, by simpa using hread⟩
      · exact ⟨m :: before, n, after, rfl, hlarge, List.forall_mem_cons.mpr ⟨hsmall, hbefore⟩,
          List.forall_mem_cons.mpr ⟨hread, hreadAll⟩⟩
    · rintro ⟨before, n, after, hsplit, hlarge, hbefore, hreadAll⟩
      cases before with
      | nil =>
        obtain ⟨rfl, rfl⟩ := List.cons.inj hsplit
        exact ⟨by simpa using hreadAll, .inl hlarge⟩
      | cons m' before =>
        obtain ⟨rfl, rfl⟩ := List.cons.inj hsplit
        obtain ⟨hsmall, hbefore⟩ := List.forall_mem_cons.mp hbefore
        obtain ⟨hread, hreadAll⟩ := List.forall_mem_cons.mp hreadAll
        exact ⟨hread, .inr ⟨hsmall, before, n, after, rfl, hlarge, hbefore, hreadAll⟩⟩

end Loop

/-! ## The check -/

/-- Of all matches those in front of one begin before it, and the others after it. -/
theorem start_lt_of_split {p : Pattern} (hp : 0 < p.shape.least) {t : Text} {before after : List Match}
    {m : Match} (h : p.all t = before ++ m :: after) :
    (∀ m' ∈ before, m'.span.start < m.span.start) ∧ ∀ m' ∈ after, m.span.start < m'.span.start := by
  have hsorted := p.all_pairwise t
  have hlt : ∀ m' ∈ p.all t, m'.span.start < m'.span.stop := fun m' hm' =>
    ((Pattern.of_mem_all hm').standsIn hp).1
  rw [h] at hsorted hlt
  obtain ⟨-, hright, hcross⟩ := List.pairwise_append.mp hsorted
  refine ⟨fun m' hm' => ?_, fun m' hm' => ?_⟩
  · have hfirst := hlt m' (List.mem_append_left _ hm')
    have hle := hcross m' hm' m List.mem_cons_self
    omega
  · have hfirst := hlt m (List.mem_append_right _ List.mem_cons_self)
    have hle := (List.pairwise_cons.mp hright).1 m' hm'
    omega

theorem offsetAt_of_mem {t : Text} {m : Match} (hm : m ∈ largeOffset.all t) :
    OffsetAt t m.span.start (m.groupText t 1) := exists_mem_all_iff.mp ⟨m, hm, rfl, rfl⟩

/-- The check reports just if there is a large OFFSET and all numbers up to the first one are read. -/
theorem largeOffsets_findSome_iff {t : Text} : FindsSome (largeOffsets t) ↔
    ∃ start, FirstLargeAt t start ∧ ReadTo t start := by
  rw [largeOffsets, largeOffsetAmong_findSome_iff]
  constructor
  · rintro ⟨before, m, after, hall, hlarge, hbefore, hread⟩
    obtain ⟨-, hback⟩ := start_lt_of_split (by decide) hall
    have hsplit : ∀ {start digits}, OffsetAt t start digits → ∃ m' ∈ before ++ m :: after,
        m'.span.start = start ∧ m'.groupText t 1 = digits := fun hat => hall ▸ exists_mem_all_iff.mpr hat
    refine ⟨m.span.start, ⟨⟨_, offsetAt_of_mem (by simp [hall]), hlarge⟩, ?_⟩, ?_⟩
    · rintro start ⟨digits, hat, hvalue⟩
      obtain ⟨m', hm', rfl, rfl⟩ := hsplit hat
      rcases List.mem_append.mp hm' with hm' | hm'
      · exact absurd hvalue (Nat.not_le_of_lt (hbefore m' hm'))
      · rcases List.mem_cons.mp hm' with rfl | hm'
        · exact Nat.le_refl _
        · exact Nat.le_of_lt (hback m' hm')
    · intro start hle digits hat
      obtain ⟨m', hm', rfl, rfl⟩ := hsplit hat
      refine hread m' ?_
      rcases List.mem_append.mp hm' with hm' | hm'
      · exact List.mem_append_left _ hm'
      · rcases List.mem_cons.mp hm' with rfl | hm'
        · simp
        · exact absurd (hback m' hm') (Nat.not_lt_of_le hle)
  · rintro ⟨start, ⟨⟨digits, hat, hlarge⟩, hfirst⟩, hread⟩
    obtain ⟨m, hm, rfl, rfl⟩ := exists_mem_all_iff.mpr hat
    obtain ⟨before, after, hall⟩ := List.append_of_mem hm
    obtain ⟨hfront, -⟩ := start_lt_of_split (by decide) hall
    refine ⟨before, m, after, hall, hlarge, fun m' hm' => ?_, fun m' hm' => ?_⟩
    · refine Nat.lt_of_not_le fun hvalue => ?_
      have hle := hfirst _ ⟨_, offsetAt_of_mem (by simp [hall, hm']), hvalue⟩
      exact absurd (hfront m' hm') (Nat.not_lt_of_le hle)
    · rcases List.mem_append.mp hm' with hm' | hm'
      · exact hread _ (Nat.le_of_lt (hfront m' hm')) _ (offsetAt_of_mem (by simp [hall, hm']))
      · obtain rfl := List.mem_singleton.mp hm'
        exact hread _ (Nat.le_refl _) _ (offsetAt_of_mem hm)

end QueryLint.Checks
