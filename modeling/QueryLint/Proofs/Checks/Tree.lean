import QueryLint.Checks.Registry
import QueryLint.Proofs.Finding.Placement

/-! Checks of the parsed query: whatever tree they are given, each finding is of the check's rule,
and the place they look up in the text for a part of the tree is one where the text has it. -/
namespace QueryLint.Checks
set_option autoImplicit false

variable {q : Query} {sql : Text} {f : Finding}

/-! ## Words that are looked up in the text -/

theorem starsOf_sound {s : Select} (h : f ∈ starsOf sql s) : f.Sound ["select-star"] sql := by
  rw [starsOf] at h
  split at h
  · obtain rfl := List.mem_singleton.mp h
    exact Advice.occurrence_sound (a := selectStarAdvice) List.mem_cons_self (by decide)
  · obtain ⟨_, -, rfl⟩ := List.mem_map.mp h
    exact Advice.unplaced_sound (a := starColumnAdvice) List.mem_cons_self _

theorem selectStars_sound (h : f ∈ selectStars q sql) : f.Sound ["select-star"] sql := by
  obtain ⟨_, -, hf⟩ := List.mem_flatMap.mp h
  exact starsOf_sound hf

theorem ordersWithoutLimit_sound (h : f ∈ ordersWithoutLimit q sql) :
    f.Sound ["order-without-limit"] sql := by
  obtain ⟨_, -, rfl⟩ := List.mem_map.mp h
  exact Advice.occurrence_sound (a := orderWithoutLimitAdvice) List.mem_cons_self (by decide)

theorem crossJoins_sound (h : f ∈ crossJoins q sql) : f.Sound ["cross-join"] sql := by
  obtain ⟨_, -, hf⟩ := List.mem_flatMap.mp h
  obtain ⟨_, -, rfl⟩ := List.mem_map.mp hf
  exact Advice.occurrence_sound (a := crossJoinAdvice) List.mem_cons_self (by decide)

theorem nestedSubqueries_sound (h : f ∈ nestedSubqueries q sql) :
    f.Sound ["deeply-nested-subquery"] sql := by
  rw [nestedSubqueries, Option.mem_toList] at h
  obtain ⟨_, -, rfl⟩ := Option.map_eq_some_iff.mp h
  exact Advice.overall_sound (a := nestedSubqueryAdvice _) List.mem_cons_self

/-! ## Joins without a condition -/

theorem commaJoin_sound {s : Select} {joined : List Joined} (h : f ∈ commaJoin s joined) :
    f.Sound ["implicit-cross-join", "join-without-on"] sql := by
  obtain rfl := eq_of_mem_when h
  exact Advice.unplaced_sound (a := implicitCrossJoinAdvice) List.mem_cons_self _

/-- A bare JOIN is found where the text has the word. -/
theorem bareJoin?_same {source : Source} {s : Span} (h : bareJoin? sql source = some s) :
    Span.StandsIn sql ⟨s.start, s.start + 4⟩ ∧
      Text.sameLetters (sql.slice ⟨s.start, s.start + 4⟩) "JOIN".toList = true := by
  rw [bareJoin?] at h
  split at h
  · obtain ⟨table, -, hfirst⟩ := Option.bind_eq_some_iff.mp h
    obtain ⟨m, hm, rfl⟩ := Option.map_eq_some_iff.mp hfirst
    have hof : m.Of (.anyCase (joinOf table.toList).shape) sql := Pattern.of_first? hm
    have hopen : (joinOf table.toList).shape.opening.1 = "join".toList := rfl
    have hsame := hof.opening_same
    have hle := hof.opening_le
    rw [hopen] at hsame hle
    refine ⟨⟨by simp only; omega, hle⟩, ?_⟩
    rw [Text.slice_eq_take_drop, Nat.add_sub_cancel_left]
    exact Text.sameLetters_trans (Text.sameLetters_symm hsame) (by decide)
  · exact absurd h (by simp)

/-- A source comes with a place only if it is labelled with the word that stands there. -/
def Joined.Placed (sql : Text) (j : Joined) : Prop :=
  ∀ s, j.bare = some s → j.label = some "JOIN" ∧ Span.StandsIn sql ⟨s.start, s.start + 4⟩ ∧
    Text.sameLetters (sql.slice ⟨s.start, s.start + 4⟩) "JOIN".toList = true

theorem placed_ofSource (source : Source) : (Joined.ofSource sql source).Placed sql := by
  intro s hs
  rw [Joined.ofSource] at hs ⊢
  split at hs
  · rename_i s' hbare
    obtain rfl : s' = s := Option.some.inj hs
    exact ⟨rfl, bareJoin?_same hbare⟩
  · exact absurd hs (by simp)

theorem placed_of_mem_joinedSources {sources : List Source} {j : Joined}
    (h : j ∈ joinedSources sql sources) : j.Placed sql := by
  cases sources with
  | nil => exact absurd h List.not_mem_nil
  | cons first rest =>
    rcases List.mem_cons.mp h with rfl | h
    · exact fun _ hs => absurd hs (by simp)
    · obtain ⟨source, -, rfl⟩ := List.mem_map.mp h
      exact placed_ofSource source

theorem joinWithoutOn_sound {j : Joined} (hj : j.Placed sql) (h : joinWithoutOn sql j = some f) :
    f.Sound ["implicit-cross-join", "join-without-on"] sql := by
  have hrule : ∀ label, (joinWithoutOnAdvice label).rule ∈ ["implicit-cross-join",
      "join-without-on"] := fun _ => List.mem_cons_of_mem _ List.mem_cons_self
  rw [joinWithoutOn] at h
  split at h
  · exact absurd h (by simp)
  · rename_i label hlabel
    split at h
    · exact absurd h (by simp)
    · obtain rfl := Option.some.inj h
      have hname : j.label = some label := (Option.filter_eq_some_iff.mp hlabel).1
      split
      · rename_i s hs
        obtain ⟨hjoin, hstands, hsame⟩ := hj s hs
        obtain rfl := Option.some.inj (hname.symm.trans hjoin)
        exact Advice.fragment_sound (hrule _) hstands hsame
      · exact Advice.occurrence_sound (hrule label) (Text.sameLetters_refl _)

theorem joinsWithoutCondition_sound (h : f ∈ joinsWithoutCondition q sql) :
    f.Sound ["implicit-cross-join", "join-without-on"] sql := by
  obtain ⟨⟨s, _⟩, -, hf⟩ := List.mem_flatMap.mp h
  rcases List.mem_append.mp hf with hf | hf
  · exact commaJoin_sound hf
  · obtain ⟨j, hj, hfound⟩ := List.mem_filterMap.mp hf
    exact joinWithoutOn_sound (placed_of_mem_joinedSources hj) hfound

end QueryLint.Checks
