import QueryLint.Proofs.Checks.BareJoin
import QueryLint.Proofs.Query.Selects

/-! Joins without a condition. A source without a label is looked up in the text, and one for which a
JOIN is written anywhere in it counts as joined. So a JOIN is credited to every source of its table, in
whatever query of the statement, and one label is enough for a whole FROM clause to count as no list of
tables. Main statements: `implicitCrossJoins_of_commaListed` and `unlabelled_not_reported_iff`. -/
namespace QueryLint
set_option autoImplicit false
open Checks Text

/-! ## How a source is listed -/

namespace Source

/-- The grammar says how the source is joined. -/
def Labelled (f : Source) : Prop := nonempty f.join ≠ none

instance (f : Source) : Decidable f.Labelled := inferInstanceAs (Decidable (_ ≠ none))

/-- The source has no label and no condition, and nowhere in the text JOIN is written before its
table. -/
def CommaListed (sql : Text) (f : Source) : Prop :=
  f.join = none ∧ f.hasCondition = false ∧ ¬f.FollowsJoin sql

instance (sql : Text) (f : Source) : Decidable (f.CommaListed sql) :=
  inferInstanceAs (Decidable (_ ∧ _ ∧ _))

/-- The source has no label and no condition, but somewhere in the text JOIN is written before its
table. -/
def TakenForJoined (sql : Text) (f : Source) : Prop :=
  f.join = none ∧ f.hasCondition = false ∧ f.FollowsJoin sql

instance (sql : Text) (f : Source) : Decidable (f.TakenForJoined sql) :=
  inferInstanceAs (Decidable (_ ∧ _ ∧ _))

end Source

/-- A select without filter lists several sources, none of which has a label, and no later one is taken
for one that is joined. -/
def Select.Crosses (sql : Text) (s : Select) : Prop :=
  s.filter = none ∧ 2 ≤ s.sources.length ∧ (∀ f ∈ s.sources, ¬f.Labelled) ∧
    ∀ f ∈ s.sources.tail, ¬f.TakenForJoined sql

instance (sql : Text) (s : Select) : Decidable (s.Crosses sql) :=
  inferInstanceAs (Decidable (_ ∧ _ ∧ _ ∧ _))

namespace Checks

/-! ## Labels from the text -/

theorem ofSource_of_taken {sql : Text} {f : Source} (h : f.TakenForJoined sql) :
    ∃ s, Joined.ofSource sql f = ⟨f, some "JOIN", some s⟩ := by
  obtain ⟨s, hs⟩ := Option.isSome_iff_exists.mp (isSome_bareJoin?.mpr h)
  exact ⟨s, by rw [Joined.ofSource, hs]⟩

theorem ofSource_of_not_taken {sql : Text} {f : Source} (h : ¬f.TakenForJoined sql) :
    Joined.ofSource sql f = ⟨f, f.join, none⟩ := by
  have hnone : bareJoin? sql f = none := by
    rw [← Option.not_isSome_iff_eq_none, isSome_bareJoin?]
    exact h
  rw [Joined.ofSource, hnone]

theorem source_ofSource (sql : Text) (f : Source) : (Joined.ofSource sql f).source = f := by
  by_cases h : f.TakenForJoined sql
  · obtain ⟨s, hs⟩ := ofSource_of_taken h
    rw [hs]
  · rw [ofSource_of_not_taken h]

theorem map_source_joinedSources (sql : Text) (sources : List Source) :
    (joinedSources sql sources).map Joined.source = sources := by
  cases sources with
  | nil => rfl
  | cons first rest =>
    have hsource : Joined.source ∘ Joined.ofSource sql = id := funext (source_ofSource sql)
    rw [joinedSources, List.map_cons, List.map_map, hsource, List.map_id]

theorem nonempty_label_ofSource {sql : Text} {f : Source} :
    nonempty (Joined.ofSource sql f).label = none ↔ ¬f.Labelled ∧ ¬f.TakenForJoined sql := by
  by_cases h : f.TakenForJoined sql
  · obtain ⟨s, hs⟩ := ofSource_of_taken h
    have hlabel : nonempty (some "JOIN") ≠ none := by decide
    rw [hs]
    exact ⟨fun hnone => absurd hnone hlabel, fun hboth => absurd h hboth.2⟩
  · rw [ofSource_of_not_taken h, Source.Labelled, not_not, and_iff_left h]

theorem unlabelled_joinedSources {sql : Text} {sources : List Source} :
    (∀ j ∈ joinedSources sql sources, nonempty j.label = none) ↔
      (∀ f ∈ sources, ¬f.Labelled) ∧ ∀ f ∈ sources.tail, ¬f.TakenForJoined sql := by
  cases sources with
  | nil => simp [joinedSources]
  | cons first rest =>
    rw [joinedSources, List.forall_mem_cons, List.forall_mem_map, List.forall_mem_cons, List.tail_cons,
      and_assoc, ← forall₂_and]
    refine and_congr not_not.symm (forall₂_congr fun f _ => ?_)
    exact nonempty_label_ofSource

/-! ## Lists of tables -/

def crossing (s : Select) : Finding :=
  implicitCrossJoinAdvice.finding
    ((nonempty (some (joinStrings ", " (s.sources.filterMap shownName)))).map String.toList) none

theorem commaJoin_eq (sql : Text) (s : Select) : commaJoin s (joinedSources sql s.sources)
    = if s.Crosses sql then [crossing s] else [] := by
  have hlength : (joinedSources sql s.sources).length = s.sources.length := by
    rw [← List.length_map Joined.source, map_source_joinedSources]
  have hcondition : ((joinedSources sql s.sources).length > 1
      && (joinedSources sql s.sources).all (fun j => (nonempty j.label).isNone) && s.filter.isNone) = true
      ↔ s.Crosses sql := by
    rw [Select.Crosses, ← unlabelled_joinedSources, hlength]
    simp only [Bool.and_eq_true, decide_eq_true_iff, List.all_eq_true, Option.isNone_iff_eq_none]
    constructor
    · rintro ⟨⟨htwo, hlabels⟩, hfilter⟩
      exact ⟨hfilter, htwo, hlabels⟩
    · rintro ⟨hfilter, htwo, hlabels⟩
      exact ⟨⟨htwo, hlabels⟩, hfilter⟩
  unfold commaJoin
  by_cases h : s.Crosses sql
  · rw [if_pos h, if_pos (hcondition.mpr h)]
    rfl
  · rw [if_neg h, if_neg (mt hcondition.mp h)]

theorem rule_of_joinWithoutOn {sql : Text} {j : Joined} {f : Finding} (h : joinWithoutOn sql j = some f) :
    f.rule = "join-without-on" := by
  rw [joinWithoutOn] at h
  split at h
  · exact nomatch h
  · split at h
    · exact nomatch h
    · obtain rfl := Option.some.inj h
      rfl

theorem filter_implicitCrossJoin (sql : Text) (s : Select) :
    (conditionsOf sql s).filter (·.rule = implicitCrossJoinAdvice.rule)
      = if s.Crosses sql then [crossing s] else [] := by
  have hother : ((joinedSources sql s.sources).filterMap (joinWithoutOn sql)).filter
      (·.rule = implicitCrossJoinAdvice.rule) = [] := by
    rw [List.filter_eq_nil_iff]
    intro f hf
    obtain ⟨j, -, hj⟩ := List.mem_filterMap.mp hf
    rw [rule_of_joinWithoutOn hj]
    decide
  unfold conditionsOf
  rw [List.filter_append, commaJoin_eq, hother, List.append_nil]
  split
  · rfl
  · rfl

theorem filter_joinWithoutOn (sql : Text) (s : Select) :
    (conditionsOf sql s).filter (·.rule = "join-without-on")
      = (joinedSources sql s.sources).filterMap (joinWithoutOn sql) := by
  have hother : (commaJoin s (joinedSources sql s.sources)).filter (·.rule = "join-without-on") = [] := by
    rw [commaJoin_eq]
    split
    · rfl
    · rfl
  unfold conditionsOf
  rw [List.filter_append, hother, List.nil_append, List.filter_eq_self]
  intro f hf
  obtain ⟨j, -, hj⟩ := List.mem_filterMap.mp hf
  simp [rule_of_joinWithoutOn hj]

theorem flatMap_ite_singleton {α β : Type} (P : α → Prop) [DecidablePred P] (f : α → β) (l : List α) :
    (l.flatMap fun a => if P a then [f a] else []) = (l.filter fun a => P a).map f := by
  induction l with
  | nil => rfl
  | cons a l ih => by_cases h : P a <;> simp [h, ih]

/-- The findings of implicit cross joins are, in the order of the walk, one for each select that lists
several sources without a filter, if none has a label and no later one is taken for joined. So of two
sources that are listed with commas nothing is reported as soon as any other source in their FROM clause
is joined. -/
theorem implicitCrossJoins_of_commaListed (q : Query) (sql : Text) :
    (joinsWithoutCondition q sql).filter (·.rule = implicitCrossJoinAdvice.rule)
        = (q.selects.filter fun item => item.1.Crosses sql).map (fun item => crossing item.1) ∧
      ∀ item ∈ q.selects, item.1.filter = none →
        2 ≤ (item.1.sources.filter (·.CommaListed sql)).length →
        ((∃ f ∈ conditionsOf sql item.1, f.rule = implicitCrossJoinAdvice.rule) ↔
          (∀ f ∈ item.1.sources, ¬f.Labelled) ∧ ∀ f ∈ item.1.sources.tail, ¬f.TakenForJoined sql) := by
  constructor
  · rw [joinsWithoutCondition, List.filter_flatMap, ← flatMap_ite_singleton]
    exact List.flatMap_congr fun item _ => filter_implicitCrossJoin sql item.1
  · intro item _ hfilter hlisted
    have htwo : 2 ≤ item.1.sources.length := Nat.le_trans hlisted (List.length_filter_le _ _)
    have hreported : (∃ f ∈ conditionsOf sql item.1, f.rule = implicitCrossJoinAdvice.rule) ↔
        (conditionsOf sql item.1).filter (·.rule = implicitCrossJoinAdvice.rule) ≠ [] := by
      simp [List.filter_eq_nil_iff]
    rw [hreported, filter_implicitCrossJoin]
    have hcrosses : item.1.Crosses sql ↔
        (∀ f ∈ item.1.sources, ¬f.Labelled) ∧ ∀ f ∈ item.1.sources.tail, ¬f.TakenForJoined sql := by
      rw [Select.Crosses, and_iff_right hfilter, and_iff_right htwo]
    rw [← hcrosses]
    split
    · rename_i h
      simp [h]
    · rename_i h
      simp [h]

def sameId (left right : String) : Expr :=
  .binary "=" (some (.column (some "id") (some left) false))
    (some (.column (some "id") (some right) false))

def listed (table : String) : Source := ⟨some table, none, none, none, [], none, none, false⟩

def joinedOn (table : String) (condition : Expr) : Source :=
  ⟨some table, none, some "JOIN", some condition, [], none, none, false⟩

def selectX (sources : List Source) (filter : Option Expr) : Select :=
  ⟨some [.column (some "x") none false], sources, filter, none, none, [], [], none, [], false⟩

def plainList : Select := selectX [listed "a", listed "b"] none

theorem plainList_reported :
    plainList.filter = none ∧ ∃ f ∈ conditionsOf "SELECT x FROM a, b".toList plainList,
      f.rule = implicitCrossJoinAdvice.rule := by
  refine ⟨rfl, ((implicitCrossJoins_of_commaListed (.select plainList)
    "SELECT x FROM a, b".toList).2 (plainList, 0) ?_ rfl ?_).mpr ?_⟩
  · exact Query.mem_selects.mpr (Query.self_mem_walk _)
  · decide +kernel
  · decide +kernel

def mixedList : Select := selectX [listed "a", listed "b", joinedOn "c" (sameId "b" "c")] none

def mixedListText : Text := "SELECT x FROM a, b JOIN c ON b.id = c.id".toList

/-- Nothing is reported of a product of two tables when a third one is joined to one of them. -/
theorem mixedList_not_reported :
    mixedList.filter = none ∧ (mixedList.sources.filter (·.CommaListed mixedListText)).length = 2 ∧
      joinsWithoutCondition (.select mixedList) mixedListText = [] := by
  decide +kernel

/-! ## Reports of sources without a label -/

end Checks

/-- Both sources name the same table, letter case aside. -/
def Source.SameTable (f g : Source) : Prop :=
  ∃ table ∈ nonempty f.table, ∃ other ∈ g.table, sameLetters table.toList other.toList = true

instance (f g : Source) : Decidable (f.SameTable g) :=
  decidable_of_iff ((nonempty f.table).any fun table =>
    g.table.any fun other => sameLetters table.toList other.toList)
    (by simp [Source.SameTable, Option.any_eq_true])

namespace Query

def sources (q : Query) : List Source := q.blocks.flatMap Select.sources

/-- Of each table JOIN is written in the text no more often than the query has labelled sources. -/
def Accounted (sql : Text) (q : Query) : Prop :=
  ∀ f ∈ q.sources, ∀ table ∈ nonempty f.table,
    (joinPlaces table.toList sql).length ≤ (q.sources.filter fun g => g.Labelled ∧ f.SameTable g).length

instance (sql : Text) (q : Query) : Decidable (q.Accounted sql) :=
  inferInstanceAs (Decidable (∀ f ∈ q.sources, ∀ table ∈ nonempty f.table, _))

variable {q : Query} {sql : Text}

theorem Accounted.exists_labelled (h : q.Accounted sql) {f : Source} (hf : f ∈ q.sources)
    (hjoin : f.FollowsJoin sql) : ∃ g ∈ q.sources, g.Labelled ∧ f.SameTable g := by
  obtain ⟨table, htable, hne, i, hi⟩ := hjoin
  have hmem : table ∈ nonempty f.table := by
    rw [nonempty, htable]
    simp [hne]
  have hwritten : 0 < (joinPlaces table.toList sql).length :=
    List.length_pos_of_mem (mem_joinPlaces.mpr hi)
  obtain ⟨g, hg⟩ := List.exists_mem_of_length_pos (Nat.lt_of_lt_of_le hwritten (h f hf table hmem))
  obtain ⟨hsource, hlabelled⟩ := List.mem_filter.mp hg
  exact ⟨g, hsource, of_decide_eq_true hlabelled⟩

theorem mem_sources_of_mem_tail {item : Select × Nat} (hitem : item ∈ q.selects) {f : Source}
    (hf : f ∈ item.1.sources.tail) : f ∈ q.sources :=
  List.mem_flatMap.mpr ⟨item.1, mem_blocks_of_mem_selects hitem, List.mem_of_mem_tail hf⟩

end Query

namespace Checks

theorem joinWithoutOn_ofSource {sql : Text} {f : Source} (hjoin : f.join = none) :
    joinWithoutOn sql (Joined.ofSource sql f) = none ↔ ¬f.TakenForJoined sql := by
  by_cases h : f.TakenForJoined sql
  · obtain ⟨s, hs⟩ := ofSource_of_taken h
    have hlabel : nonempty (some "JOIN") = some "JOIN" := by decide
    have hcross : ("JOIN" == crossJoinLabel) = false := by decide
    simp [joinWithoutOn, hs, hlabel, hcross, h, h.2.1]
  · rw [ofSource_of_not_taken h, joinWithoutOn, hjoin]
    exact iff_of_true rfl h

/-- Of the sources of a select that have no label none is reported just if no later one is taken for
one that is joined. -/
theorem unlabelled_joinWithoutOn {sql : Text} {sources : List Source} :
    (∀ j ∈ joinedSources sql sources, j.source.join = none → joinWithoutOn sql j = none) ↔
      ∀ f ∈ sources.tail, ¬f.TakenForJoined sql := by
  cases sources with
  | nil => simp [joinedSources]
  | cons first rest =>
    have hfirst : first.join = none → joinWithoutOn sql ⟨first, first.join, none⟩ = none := by
      intro hjoin
      rw [joinWithoutOn, hjoin]
      rfl
    rw [joinedSources, List.forall_mem_cons, List.forall_mem_map, and_iff_right hfirst, List.tail_cons]
    refine forall₂_congr fun f _ => ?_
    rw [source_ofSource]
    constructor
    · intro h htaken
      exact (joinWithoutOn_ofSource htaken.1).mp (h htaken.1) htaken
    · intro h hjoin
      exact (joinWithoutOn_ofSource hjoin).mpr h

/-- Each finding of a join without a condition is reported for one source of a select. Where every JOIN
that is written before a table of the query has its labelled source, those without a label are spared
just if none that is taken for joined names the table of a labelled source, wherever the latter is. -/
theorem unlabelled_not_reported_iff (q : Query) (sql : Text) (h : q.Accounted sql) :
    (joinsWithoutCondition q sql).filter (·.rule = "join-without-on")
        = (q.selects.flatMap fun item =>
            (joinedSources sql item.1.sources).filterMap (joinWithoutOn sql)) ∧
      (∀ item ∈ q.selects, (joinedSources sql item.1.sources).map Joined.source = item.1.sources) ∧
      ((∀ item ∈ q.selects, ∀ j ∈ joinedSources sql item.1.sources, j.source.join = none →
          joinWithoutOn sql j = none) ↔
        ∀ item ∈ q.selects, ∀ f ∈ item.1.sources.tail, f.TakenForJoined sql →
          ∀ g ∈ q.sources, g.Labelled → ¬f.SameTable g) := by
  refine ⟨?_, fun item _ => map_source_joinedSources sql item.1.sources, ?_⟩
  · rw [joinsWithoutCondition, List.filter_flatMap]
    exact List.flatMap_congr fun item _ => filter_joinWithoutOn sql item.1
  · refine forall₂_congr fun item hitem => unlabelled_joinWithoutOn.trans ?_
    refine forall₂_congr fun f hf => ?_
    constructor
    · intro hnot htaken
      exact absurd htaken hnot
    · intro hnot htaken
      -- Its table is written after JOIN, so it is a table of which the query has a labelled source.
      obtain ⟨g, hg, hlabelled, hsame⟩ :=
        h.exists_labelled (Query.mem_sources_of_mem_tail hitem hf) htaken.2.2
      exact hnot htaken g hg hlabelled hsame

/-- A union: one select joins a table, the other one lists a table beside `b`. -/
def joinAndList (table : String) : Query :=
  .combination ⟨"UNION", some (.select (selectX [listed "a", joinedOn "t" (sameId "a" "t")] none)),
    some (.select (selectX [listed "b", listed table] (some (sameId "b" table)))), [], none, []⟩

def joinAndListText (table : Text) : Text :=
  "SELECT x FROM a JOIN t ON a.id = t.id UNION SELECT x FROM b, ".toList ++ table
    ++ " WHERE b.id = ".toList ++ table ++ ".id".toList

theorem joinAndList_otherTable_unreported :
    (joinAndList "c").Accounted (joinAndListText ['c']) ∧
      ∀ item ∈ (joinAndList "c").selects, ∀ j ∈ joinedSources (joinAndListText ['c']) item.1.sources,
        j.source.join = none → joinWithoutOn (joinAndListText ['c']) j = none := by
  have haccounted : (joinAndList "c").Accounted (joinAndListText ['c']) := by decide +kernel
  refine ⟨haccounted, (unlabelled_not_reported_iff _ _ haccounted).2.2.mpr ?_⟩
  decide +kernel

/-- The text has one JOIN, and the source that it joins has a label; but a source of the same table in
the other select is reported for it. -/
theorem joinAndList_sameTable_reported :
    (joinAndList "t").Accounted (joinAndListText ['t']) ∧
      Sql.wordPlaces "join".toList (joinAndListText ['t']) = [16] ∧
      ∃ item ∈ (joinAndList "t").selects, ∃ j ∈ joinedSources (joinAndListText ['t']) item.1.sources,
        j.source.join = none ∧ (joinWithoutOn (joinAndListText ['t']) j).isSome = true := by
  decide +kernel

end Checks
end QueryLint
