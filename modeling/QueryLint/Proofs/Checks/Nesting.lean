import QueryLint.Checks.Tree
import QueryLint.Proofs.Query.Selects

/-! Deep nesting. The check reports the first deep select that the walk comes by, and says of it how
deep it is. The walk goes down one level at a time, so that select is seldom the deepest one. Main
statements: `depth_of_find?_walk`, the first query at some depth or below is at that depth;
`nestedSubqueries_levels`, when the check reports, and which number it states. -/
namespace QueryLint
set_option autoImplicit false

/-! ## The first deep query -/

namespace Query

theorem depth_of_mem_children {q : Query} {depth : Nat} {child : Query × Nat}
    (h : child ∈ q.children depth) : child.2 ≤ depth + 1 := by
  cases q with
  | select s =>
    simp only [children, List.mem_append, List.mem_map] at h
    rcases h with (⟨_, -, rfl⟩ | ⟨_, -, rfl⟩) | ⟨_, -, rfl⟩
    · exact Nat.le_succ depth
    · exact Nat.le_refl _
    · exact Nat.le_refl _
  | combination c =>
    simp only [children, List.mem_append, List.mem_map] at h
    rcases h with (⟨_, -, rfl⟩ | ⟨_, -, rfl⟩) | ⟨_, -, rfl⟩
    · exact Nat.le_succ depth
    · exact Nat.le_succ depth
    · exact Nat.le_refl _
  | other kind queries =>
    obtain ⟨_, -, rfl⟩ := List.mem_map.mp h
    exact Nat.le_succ depth
  | unknown => exact absurd h List.not_mem_nil

/-- By induction on the query: no child is more than one level deeper, so none is beyond a level that
the query itself is still above. -/
theorem depth_of_find?_preorder {q : Query} {depth level : Nat} (hdepth : depth ≤ level)
    {item : Query × Nat} (h : (q.preorder depth).find? (fun item => level ≤ item.2) = some item) :
    item.2 = level := by
  induction hsize : sizeOf q using Nat.strongRecOn generalizing q depth with
  | ind size ih =>
    rw [preorder_eq, List.find?_cons] at h
    by_cases hhere : level ≤ depth
    · simp only [hhere, decide_true] at h
      obtain rfl := Option.some.inj h
      exact Nat.le_antisymm hdepth hhere
    · simp only [hhere, decide_false] at h
      by_cases hlimit : depth < maxWalkDepth
      · rw [if_pos hlimit, List.find?_flatMap] at h
        obtain ⟨child, hchild, hfound⟩ := List.exists_of_findSome?_eq_some h
        have hle := depth_of_mem_children hchild
        exact ih (sizeOf child.1) (hsize ▸ sizeOf_child_lt hchild) (by omega) hfound rfl
      · rw [if_neg hlimit] at h
        exact nomatch h

theorem depth_of_find?_walk {q : Query} {level : Nat} {item : Query × Nat}
    (h : q.walk.find? (fun item => level ≤ item.2) = some item) : item.2 = level := by
  rw [walk, walkFrom_eq_preorder] at h
  exact depth_of_find?_preorder (Nat.zero_le level) h

/-- Where all queries at some depth are selects, the first select at that depth or below is at that
depth. -/
theorem depth_of_find?_selects {q : Query} {level : Nat}
    (hselects : ∀ item ∈ q.walk, item.2 = level → item.1.select?.isSome = true) {item : Select × Nat}
    (h : q.selects.find? (fun item => level ≤ item.2) = some item) : item.2 = level := by
  have hdeep : (Query.select item.1, item.2) ∈ q.walk :=
    mem_selects.mp (List.mem_of_find?_eq_some h)
  obtain ⟨⟨inner, depth⟩, hfirst⟩ :
      ∃ first, q.walk.find? (fun item => level ≤ item.2) = some first := by
    rw [← Option.isSome_iff_exists, List.find?_isSome]
    exact ⟨_, hdeep, by simpa using List.find?_some h⟩
  obtain rfl : depth = level := depth_of_find?_walk hfirst
  obtain ⟨s, hs⟩ := Option.isSome_iff_exists.mp
    (hselects _ (List.mem_of_find?_eq_some hfirst) rfl)
  -- The first query of them all is a select, so it is the first select too.
  obtain ⟨-, before, after, hsplit, hbefore⟩ := List.find?_eq_some_iff_append.mp hfirst
  have hfound : q.selects.find? (fun item => depth ≤ item.2) = some (s, depth) := by
    rw [selects, hsplit, List.filterMap_append, List.find?_append, List.find?_eq_none.mpr]
    · simp [hs]
    · intro shallow hmem
      obtain ⟨b, hb, heq⟩ := List.mem_filterMap.mp hmem
      obtain ⟨_, -, rfl⟩ := Option.map_eq_some_iff.mp heq
      simpa using hbefore b hb
  obtain rfl := Option.some.inj (hfound.symm.trans h)
  rfl

end Query

/-! ## The number of levels -/

/-- The message says how many levels deep the subqueries are nested. -/
def Finding.StatesLevels (f : Finding) (n : Nat) : Prop :=
  ∃ rest, f.message.toList
    = "Subqueries are nested ".toList ++ (Nat.toDigits 10 n ++ (" levels deep".toList ++ rest))

/-- The message says how deep the deepest select of the query is. -/
def Finding.StatesDeepest (q : Query) (f : Finding) : Prop :=
  ∃ n, f.StatesLevels n ∧ (q.selects.map Prod.snd).max? = some n

/-- Digits up to a character that is none can be read back. -/
theorem eq_of_toDigits_append {m n : Nat} {s t : Text} (hs : s.head?.any Char.isDigit = false)
    (ht : t.head?.any Char.isDigit = false) (h : Nat.toDigits 10 m ++ s = Nat.toDigits 10 n ++ t) :
    m = n := by
  have hread : ∀ {k : Nat} {u : Text}, u.head?.any Char.isDigit = false →
      (Nat.toDigits 10 k ++ u).takeWhile Char.isDigit = Nat.toDigits 10 k := by
    intro k u hu
    rw [List.takeWhile_append_of_pos fun c hc =>
      Nat.isDigit_of_mem_toDigits (by decide) (by decide) hc]
    cases u with
    | nil => simp
    | cons c u => simp_all
  have hdigits : Nat.toDigits 10 m = Nat.toDigits 10 n := by rw [← hread hs, h, hread ht]
  have hvalue := congrArg (fun digits => Nat.ofDigitChars 10 digits 0) hdigits
  simpa only [Nat.ofDigitChars_toDigits (b := 10) (by decide) (by decide)] using hvalue

namespace Checks

theorem statesLevels_iff {depth n : Nat} :
    (nestedSubqueryAdvice depth).overall.StatesLevels n ↔ n = depth := by
  have hstates : (nestedSubqueryAdvice depth).overall.StatesLevels depth := by
    refine ⟨". Deep nesting is hard to read and the ".toList
      ++ "planner may not be able to flatten it, leading to repeated scans.".toList, ?_⟩
    have hlevels : " levels deep. Deep nesting is hard to read and the ".toList
        = " levels deep".toList ++ ". Deep nesting is hard to read and the ".toList := by decide
    show (("Subqueries are nested " ++ toString depth
      ++ " levels deep. Deep nesting is hard to read and the ")
      ++ "planner may not be able to flatten it, leading to repeated scans.").toList = _
    rw [String.toList_append, String.toList_append, String.toList_append, hlevels,
      Nat.toString_eq_repr, Nat.toList_repr]
    simp only [List.append_assoc]
  constructor
  · rintro ⟨rest, hrest⟩
    obtain ⟨rest', hrest'⟩ := hstates
    rw [hrest', List.append_cancel_left_eq] at hrest
    exact (eq_of_toDigits_append rfl rfl hrest).symm
  · rintro rfl
    exact hstates

/-- Either no select is three levels deep, or the check reports the first one that is. -/
theorem nestedSubqueries_cases (q : Query) (sql : Text) :
    (nestedSubqueries q sql = [] ∧ ∀ item ∈ q.selects, item.2 < 3) ∨
      ∃ before first after, q.selects = before ++ first :: after ∧ (∀ item ∈ before, item.2 < 3) ∧
        3 ≤ first.2 ∧ nestedSubqueries q sql = [(nestedSubqueryAdvice first.2).overall] := by
  have hcheck : nestedSubqueries q sql = ((q.selects.find? fun item => decide (3 ≤ item.2)).map
      fun item => (nestedSubqueryAdvice item.2).overall).toList := rfl
  cases hfind : q.selects.find? fun item => decide (3 ≤ item.2) with
  | none =>
    refine .inl ⟨by rw [hcheck, hfind]; rfl, fun item hitem => ?_⟩
    simpa using List.find?_eq_none.mp hfind item hitem
  | some first =>
    obtain ⟨hfirst, before, after, hsplit, hbefore⟩ := List.find?_eq_some_iff_append.mp hfind
    refine .inr ⟨before, first, after, hsplit, fun item hitem => ?_, by simpa using hfirst, ?_⟩
    · simpa using hbefore item hitem
    · rw [hcheck, hfind]
      rfl

section FirstDeep

variable {q : Query} {before after : List (Select × Nat)} {first : Select × Nat}

/-- The depth of the first deep select is the largest just if none after it is deeper. -/
theorem statesDeepest_iff (hsplit : q.selects = before ++ first :: after)
    (hbefore : ∀ item ∈ before, item.2 < 3) (hfirst : 3 ≤ first.2) :
    (nestedSubqueryAdvice first.2).overall.StatesDeepest q ↔ ∀ item ∈ after, item.2 ≤ first.2 := by
  have hstates : (nestedSubqueryAdvice first.2).overall.StatesDeepest q ↔
      (q.selects.map Prod.snd).max? = some first.2 := by
    simp only [Finding.StatesDeepest, statesLevels_iff, exists_eq_left]
  rw [hstates, List.max?_eq_some_iff, List.forall_mem_map, hsplit]
  constructor
  · rintro ⟨-, hmax⟩ item hitem
    exact hmax item (by simp [hitem])
  · intro hafter
    refine ⟨List.mem_map_of_mem (by simp), fun item hitem => ?_⟩
    rcases List.mem_append.mp hitem with hitem | hitem
    · have hshallow := hbefore item hitem
      omega
    · rcases List.mem_cons.mp hitem with rfl | hitem
      · exact Nat.le_refl _
      · exact hafter item hitem

theorem depth_of_first_select (hsplit : q.selects = before ++ first :: after)
    (hbefore : ∀ item ∈ before, item.2 < 3) (hfirst : 3 ≤ first.2)
    (hselects : ∀ item ∈ q.walk, item.2 = 3 → item.1.select?.isSome = true) : first.2 = 3 := by
  apply Query.depth_of_find?_selects hselects
  rw [List.find?_eq_some_iff_append]
  refine ⟨by simpa using hfirst, before, after, hsplit, fun item hitem => ?_⟩
  simpa using hbefore item hitem

end FirstDeep

/-- The check reports one finding just if some select is three or more levels deep, and never more than
one. The number of levels that it states is the depth of the first deep select, so it is that of the
deepest one just if none after the first is deeper; and where all queries at depth three are selects it
is always three. -/
theorem nestedSubqueries_levels (q : Query) (sql : Text) :
    ((∃ f, nestedSubqueries q sql = [f]) ↔ ∃ item ∈ q.selects, 3 ≤ item.2) ∧
      (nestedSubqueries q sql).length ≤ 1 ∧
      ∀ f ∈ nestedSubqueries q sql, ∃ before first after,
        q.selects = before ++ first :: after ∧ (∀ item ∈ before, item.2 < 3) ∧ 3 ≤ first.2 ∧
          (∀ n, f.StatesLevels n ↔ n = first.2) ∧
          (f.StatesDeepest q ↔ ∀ item ∈ after, item.2 ≤ first.2) ∧
          ((∀ item ∈ q.walk, item.2 = 3 → item.1.select?.isSome = true) → first.2 = 3) := by
  rcases nestedSubqueries_cases q sql with
    ⟨hnil, hshallow⟩ | ⟨before, first, after, hsplit, hbefore, hfirst, hone⟩
  · rw [hnil]
    refine ⟨⟨?_, ?_⟩, Nat.zero_le 1, fun f hf => nomatch hf⟩
    · rintro ⟨f, hf⟩
      exact nomatch hf
    · rintro ⟨item, hitem, hdeep⟩
      exact absurd hdeep (Nat.not_le_of_lt (hshallow item hitem))
  · rw [hone]
    have hmem : first ∈ q.selects := by simp [hsplit]
    refine ⟨⟨fun _ => ⟨first, hmem, hfirst⟩, fun _ => ⟨_, rfl⟩⟩, Nat.le_refl 1, fun f hf => ?_⟩
    obtain rfl := List.mem_singleton.mp hf
    exact ⟨before, first, after, hsplit, hbefore, hfirst, fun n => statesLevels_iff,
      statesDeepest_iff hsplit hbefore hfirst, depth_of_first_select hsplit hbefore hfirst⟩

/-- A select inside as many others, each in the FROM clause of the next. -/
def derivedTables : Nat → Query
  | 0 => .select ⟨some [.column (some "x") none false], [], none, none, none, [], [], none, [], false⟩
  | n + 1 => .select ⟨some [.column (some "x") none false],
      [⟨none, none, none, none, [], some (derivedTables n), none, false⟩],
      none, none, none, [], [], none, [], false⟩

def derivedTablesText : Nat → Text
  | 0 => "SELECT x".toList
  | n + 1 => "SELECT x FROM (".toList ++ derivedTablesText n ++ [')']

/-- Of a select that is nested four levels deep it is stated that it is three levels deep. -/
theorem fourLevels_not_statesDeepest :
    ∃ f, nestedSubqueries (derivedTables 4) (derivedTablesText 4) = [f] ∧ f.StatesLevels 3 ∧
      ((derivedTables 4).selects.map Prod.snd).max? = some 4 ∧ ¬f.StatesDeepest (derivedTables 4) := by
  have hcheck : nestedSubqueries (derivedTables 4) (derivedTablesText 4)
      = [(nestedSubqueryAdvice 3).overall] := by
    decide +kernel
  have hdeepest : ((derivedTables 4).selects.map Prod.snd).max? = some 4 := by decide +kernel
  refine ⟨_, hcheck, statesLevels_iff.mpr rfl, hdeepest, ?_⟩
  rintro ⟨n, hstates, hmax⟩
  obtain rfl := statesLevels_iff.mp hstates
  rw [hdeepest] at hmax
  exact absurd hmax (by decide)

end Checks
end QueryLint
