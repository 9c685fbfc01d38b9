import Mathlib.Data.List.Basic
import QueryLint.Checks.Registry
import QueryLint.Proofs.Sql.Spelling

/-! What a check finds does not depend on the spelling of a query. Main statements:
`textChecks_caseBlind`, every check of the text finds as much, of the same rules and severities, in the
same places, and only quoted text and names in messages are spelled as the query is; and
`treeChecks_small`, the checks of parsed statements find just the same. -/
namespace QueryLint
set_option autoImplicit false

/-- What a finding says apart from its texts. -/
structure Finding.Gist where
  rule : String
  severity : Severity
  category : String
  offset : Option TextRange
deriving DecidableEq, Repr

def Finding.gist (f : Finding) : Finding.Gist := ⟨f.rule, f.severity, f.category, f.offset⟩

/-- A check answers alike in both spellings: it fails alike, or its findings agree one by one. -/
def TextCheck.CaseBlind (c : TextCheck) : Prop :=
  ∀ sql, (c.run (Text.small sql)).map (List.map Finding.gist)
    = (c.run sql).map (List.map Finding.gist)

namespace Checks
open Sql Text Pattern

/-- The findings of both spellings agree one by one. -/
def CaseBlind (run : Text → List Finding) : Prop :=
  ∀ sql, (run (small sql)).map Finding.gist = (run sql).map Finding.gist

variable (sql : Text)

theorem caseBlind_of_eq {run : Text → List Finding} (h : ∀ sql, run (small sql) = run sql) :
    CaseBlind run := fun sql => congrArg (List.map Finding.gist) (h sql)

/-! ## The first match -/

theorem adviseFirst_small {p : Pattern} (hp : p.caseless = true) (a : Advice) :
    adviseFirst p a (small sql) = adviseFirst p a sql := by
  rw [adviseFirst, first?_small hp, adviseFirst]

theorem quoteFirst_caseBlind {p : Pattern} (hp : p.caseless = true) (a : Advice) :
    CaseBlind (quoteFirst p a) := by
  intro sql
  rw [quoteFirst, first?_small hp, quoteFirst]
  cases p.first? sql <;> rfl

/-! ## Numbers -/

theorem blockingOperators_small : blockingOperators (small sql) = blockingOperators sql := by
  have hcounts : blockingCounts (small sql) = blockingCounts sql := by
    simp (disch := decide) only [blockingCounts, count_small]
  rw [blockingOperators, hcounts, blockingOperators]

theorem namedQueryCount_small : namedQueryCount (small sql) = namedQueryCount sql := by
  rw [namedQueryCount, count_small rfl, namedQueryCount]

theorem joinsOnTrue_small : joinsOnTrue (small sql) = joinsOnTrue sql := by
  rw [joinsOnTrue, count_small rfl, joinsOnTrue]

theorem manyCasts_small : manyCasts (small sql) = manyCasts sql := by
  rw [manyCasts, count_small rfl, count_small rfl, manyCasts]

/-! ## All matches -/

theorem quoteCounted_caseBlind {p : Pattern} (hp : p.caseless = true) {a : Nat → Advice} :
    CaseBlind (quoteCounted p a) := by
  intro sql
  rw [quoteCounted, all_small hp, quoteCounted]
  cases p.all sql <;> rfl

theorem adviseRepeated_small {p : Pattern} (hp : p.caseless = true) (a : Nat → Advice)
    (chosen : Match → Match → Match) : adviseRepeated p a chosen (small sql) = adviseRepeated p a chosen sql := by
  rw [adviseRepeated, all_small hp, adviseRepeated]

theorem advisePassing_small {p : Pattern} (hp : p.caseless = true) (passes : Match → Bool) (a : Advice) :
    advisePassing p passes a (small sql) = advisePassing p passes a sql := by
  rw [advisePassing, all_small hp, advisePassing]

theorem listAggregate_caseBlind : CaseBlind listAggregate := quoteCounted_caseBlind rfl

theorem distinctCount_caseBlind : CaseBlind distinctCount := quoteCounted_caseBlind rfl

theorem repeatedOrderLimitOne_small : repeatedOrderLimitOne (small sql) = repeatedOrderLimitOne sql :=
  adviseRepeated_small sql rfl _ _

theorem multipleRemoteScans_small : multipleRemoteScans (small sql) = multipleRemoteScans sql :=
  adviseRepeated_small sql rfl _ _

theorem arrowOf_small (extraction : Text) : arrowOf (small extraction) = arrowOf extraction := by
  rw [arrowOf, isPrefixOf_small extraction (by decide), arrowOf]

theorem jsonExtraction_small : jsonExtraction (small sql) = jsonExtraction sql := by
  simp (disch := decide) only [jsonExtraction, all_small, Match.text_small, arrowOf_small]

theorem unnestedColumn_caseBlind : CaseBlind unnestedColumn := by
  intro sql
  rw [unnestedColumn, first?_small rfl, unnestedColumn]
  cases unnestColumn.first? sql <;> rfl

/-! ## Matches under a condition -/

theorem pivot_small : pivot (small sql) = pivot sql := by
  simp (disch := decide) only [pivot, first?_small, occursIn_small, firstFrom?_small]

theorem insertSelectStar_small : insertSelectStar (small sql) = insertSelectStar sql := by
  simp (disch := decide) only [insertSelectStar, first?_small, firstFrom?_small]

theorem recursiveQuery_small : recursiveQuery (small sql) = recursiveQuery sql := by
  simp (disch := decide) only [recursiveQuery, occursIn_small, adviseFirst_small]

theorem rowNumberFilter_small : rowNumberFilter (small sql) = rowNumberFilter sql := by
  simp (disch := decide) only [rowNumberFilter, first?_small, occursIn_small]

theorem remoteSelectStar_small : remoteSelectStar (small sql) = remoteSelectStar sql := by
  simp (disch := decide) only [remoteSelectStar, occursIn_small, adviseFirst_small]

theorem remoteWithoutFilter_small : remoteWithoutFilter (small sql) = remoteWithoutFilter sql := by
  simp (disch := decide) only [remoteWithoutFilter, occursIn_small, adviseFirst_small]

theorem partitionedPath_small : partitionedPath (small sql) = partitionedPath sql := by
  simp (disch := decide) only [partitionedPath, occursIn_small, adviseFirst_small]

theorem localTransfer_small : localTransfer (small sql) = localTransfer sql := by
  simp (disch := decide) only [localTransfer, occursIn_small, adviseFirst_small]

theorem mixedTimestamps_small : mixedTimestamps (small sql) = mixedTimestamps sql := by
  simp (disch := decide) only [mixedTimestamps, occursIn_small, adviseFirst_small]

/-! ## Stretches of the text -/

theorem statementFrom_small (start stop : Nat) :
    statementFrom (small sql) start stop = small (statementFrom sql start stop) := by
  rw [statementFrom, drop_small, takeWhile_small _ (toLower_ne (by decide)), length_small, slice_small,
    statementFrom]

theorem isParquetExport_small (statement : Text) :
    isParquetExport (small statement) = isParquetExport statement := by
  simp (disch := decide) only [isParquetExport, first?_small, Match.groupText_small, lower_small,
    occursIn_small]

theorem copyCompression_small : copyCompression (small sql) = copyCompression sql := by
  simp (disch := decide) only [copyCompression, advisePassing_small, statementFrom_small,
    isParquetExport_small, occursIn_small]

theorem windowPartition_small : windowPartition (small sql) = windowPartition sql := by
  have hwindow : unpartitioned? (small sql) = unpartitioned? sql := by
    funext head
    simp (disch := decide) only [unpartitioned?, closingParen?_small, firstWithin?_small]
  rw [windowPartition, all_small rfl, hwindow, windowPartition]

theorem literalCount_small (items : Text) : literalCount (small items) = literalCount items := by
  have hfits : literalItem.fits ∘ small = literalItem.fits :=
    funext fun item => fits_small rfl item
  rw [literalCount, splitTopLevel_small (fun c => toLower_beq (by decide) c), List.filter_map,
    List.length_map, hfits, literalCount]

theorem largeInList_small : largeInList (small sql) = largeInList sql := by
  have hlist : largeList? (small sql) = largeList? sql := by
    funext head
    simp only [largeList?, closingParen?_small, slice_small, literalCount_small]
  rw [largeInList, all_small rfl, hlist, largeInList]

theorem extend_small (chain : Option OrChain) (m : Match) :
    OrChain.extend (small sql) chain m = OrChain.extend sql chain m := by
  simp (disch := decide) only [OrChain.extend, Match.groupText_small, lower_small, slice_small, fits_small]

theorem orChain_caseBlind : CaseBlind orChain := by
  intro sql
  have hchain : ∀ (found : List Match) (chain : Option OrChain),
      ((orChainFrom (small sql) chain found).map Finding.gist)
        = (orChainFrom sql chain found).map Finding.gist := by
    intro found
    induction found with
    | nil => exact fun _ => rfl
    | cons m rest ih =>
      intro chain
      simp only [orChainFrom, extend_small]
      split
      · rfl
      · exact ih _
  rw [orChain, all_small rfl, ← Option.toList_map, hchain, Option.toList_map, orChain]

theorem lastPart_small (name : Text) : lastPart (small name) = small (lastPart name) := by
  rw [lastPart, reverse_small, takeWhile_small _ (toLower_ne (by decide)), reverse_small, lastPart]

theorem hasTemporalOperand_small (start : Nat) :
    hasTemporalOperand (small sql) start = hasTemporalOperand sql start := by
  have hoperand := firstWithin?_small (p := precedingOperand) rfl sql ⟨start - operandReach, start⟩
  unfold hasTemporalOperand
  rw [hoperand]
  cases precedingOperand.firstWithin? sql ⟨start - operandReach, start⟩ with
  | none => rfl
  | some m =>
    dsimp only
    rw [Match.groupText_small, lastPart_small, occursIn_small rfl]

theorem betweenTimestamp_small : betweenTimestamp (small sql) = betweenTimestamp sql := by
  have hrange : isTemporalRange (small sql) = isTemporalRange sql := by
    funext m
    rw [isTemporalRange, hasTemporalOperand_small, firstWithin?_small rfl, isTemporalRange]
  rw [betweenTimestamp, advisePassing_small sql rfl, hrange, betweenTimestamp]

theorem caseChains_small : caseChains (small sql) = caseChains sql := by
  have hchains : ∀ (found : List Match) (stack : List OpenCase),
      caseChainsFrom (small sql) stack found = caseChainsFrom sql stack found := by
    intro found
    induction found with
    | nil => exact fun _ => rfl
    | cons m rest ih =>
      intro stack
      cases stack <;> simp only [caseChainsFrom, Match.groupText_small, lower_small, ih]
  rw [caseChains, all_small rfl, hchains, caseChains]

theorem largeCaseChain_small : largeCaseChain (small sql) = largeCaseChain sql := by
  rw [largeCaseChain, caseChains_small, largeCaseChain]

theorem largeOffsets_small : largeOffsets (small sql) = largeOffsets sql := by
  have hread : ∀ digits : Text, readNumber (small digits) = readNumber digits := by
    intro digits
    simp only [readNumber, length_small, decimalValue_small]
  have hamong : ∀ found : List Match,
      largeOffsetAmong (small sql) found = largeOffsetAmong sql found := by
    intro found
    induction found with
    | nil => rfl
    | cons m rest ih => simp only [largeOffsetAmong, Match.groupText_small, hread, ih]
  rw [largeOffsets, all_small rfl, hamong, largeOffsets]

/-! ## Clauses -/

/-- The first thing that is found in the clauses of a query, where respelled bodies give the same. -/
theorem findSome?_clauses {β : Type} {found : Clause → Option β}
    (h : ∀ c : Clause, found c.small = found c) (l : List Clause) :
    (l.map Clause.small).findSome? found = l.findSome? found := by
  rw [List.findSome?_map]
  congr 1
  funext c
  exact h c

theorem functionOnFilterColumn_small :
    functionOnFilterColumn (small sql) = functionOnFilterColumn sql := by
  rw [functionOnFilterColumn, whereClauses_small, findSome?_clauses fun c => ?_,
    functionOnFilterColumn]
  simp (disch := decide) only [Clause.small, first?_small]

theorem castInJoinKey_small : castInJoinKey (small sql) = castInJoinKey sql := by
  rw [castInJoinKey, joinConditions_small, findSome?_clauses fun c => ?_, castInJoinKey]
  simp (disch := decide) only [Clause.small, first?_small]

theorem inequality_caseless : inequality.caseless = true := by decide

theorem temporalWindowJoin_small : temporalWindowJoin (small sql) = temporalWindowJoin sql := by
  rw [temporalWindowJoin, occursIn_small rfl, occursIn_small rfl, joinConditions_small,
    findSome?_clauses fun c => ?_, temporalWindowJoin]
  rw [Clause.small, first?_small inequality_caseless]

theorem rankingIn?_small (aliases : List Text) (body : Text) :
    rankingIn? aliases (small body) = rankingIn? aliases body := by
  simp (disch := decide) only [rankingIn?, first?_small, all_small, Match.groupText_small, lower_small]

theorem windowFilteredInWhere_small :
    windowFilteredInWhere (small sql) = windowFilteredInWhere sql := by
  have haliases : rankingAliases (small sql) = rankingAliases sql := by
    simp (disch := decide) only [rankingAliases, all_small, Match.groupText_small, lower_small]
  rw [windowFilteredInWhere, occursIn_small rfl, occursIn_small rfl, haliases, whereClauses_small]
  dsimp only
  rw [findSome?_clauses fun c => ?_, windowFilteredInWhere]
  rw [Clause.small, rankingIn?_small]

/-! ## Tables and named queries -/

theorem selfJoinNeighbor_small : selfJoinNeighbor (small sql) = selfJoinNeighbor sql := by
  have hoffset : (fun c : Clause => neighborOffset.occursIn c.body) ∘ Clause.small
      = fun c => neighborOffset.occursIn c.body :=
    funext fun c => occursIn_small rfl c.body
  rw [selfJoinNeighbor, tableRefs_small, joinConditions_small, List.any_map, hoffset,
    selfJoinNeighbor]

theorem repeatedTableScan_small : repeatedTableScan (small sql) = repeatedTableScan sql := by
  have hstored : storedTables (small sql) = storedTables sql := by
    rw [storedTables, queryNames_small, tableRefs_small, storedTables]
  rw [repeatedTableScan, hstored, repeatedTableScan]

theorem crossDatabaseJoin_small : crossDatabaseJoin (small sql) = crossDatabaseJoin sql := by
  rw [crossDatabaseJoin, tableRefs_small, crossDatabaseJoin]

theorem intermediateOrderBy_small : intermediateOrderBy (small sql) = intermediateOrderBy sql := by
  have hblock : orderInBlock? ∘ NamedQuery.small = orderInBlock? := by
    funext block
    simp (disch := decide) only [Function.comp_apply, orderInBlock?, NamedQuery.small, topLevel_small,
      first?_small]
  rw [intermediateOrderBy, namedQueries_small, List.findSome?_map, hblock, intermediateOrderBy]

theorem chainedSelectStar_small : chainedSelectStar (small sql) = chainedSelectStar sql := by
  have hstarred : isStarred ∘ NamedQuery.small = isStarred :=
    funext fun block => occursIn_small rfl block.body
  have hspans : ∀ blocks : List NamedQuery,
      (blocks.map NamedQuery.small).map (fun block => block.span.stop)
        = blocks.map fun block => block.span.stop := by
    intro blocks
    rw [List.map_map]
    rfl
  rw [chainedSelectStar, namedQueries_small]
  dsimp only
  rw [List.filter_map, List.length_map, hstarred, hspans, firstFrom?_small rfl, chainedSelectStar]

theorem isCorrelated_small (body : Text) : isCorrelated (small body) = isCorrelated body := by
  have hnames : definedNames (small body) = definedNames body := by
    rw [definedNames, tableRefs_small, definedNames]
  have houter : ∀ names, isOuterEquation (small body) names = isOuterEquation body names := by
    intro names
    funext m
    simp only [isOuterEquation, Match.groupText_small, lower_small]
  simp (disch := decide) only [isCorrelated, first?_small, allFrom_small, hnames, houter]

theorem correlatedSubquery_small : correlatedSubquery (small sql) = correlatedSubquery sql := by
  have hderived : ∀ start, opensDerivedTable (small sql) start = opensDerivedTable sql start := by
    intro start
    rw [opensDerivedTable, slice_small, occursIn_small rfl, opensDerivedTable]
  have hquery : correlated? (small sql) = correlated? sql := by
    funext head
    simp only [correlated?, hderived, closingParen?_small, slice_small, isCorrelated_small]
  rw [correlatedSubquery, all_small rfl, hquery, correlatedSubquery]

/-! ## Parsed statements -/

theorem occurrence?_small (literal : Text) :
    occurrence? (small sql) literal = occurrence? sql literal := by
  rw [occurrence?, first?_small rfl, occurrence?]

theorem bareJoin?_small (f : Source) : bareJoin? (small sql) f = bareJoin? sql f := by
  have hjoin : ∀ table, (joinOf table).first? (small sql) = (joinOf table).first? sql :=
    fun _ => first?_small rfl sql
  simp only [bareJoin?, hjoin]

theorem conditionsOf_small (s : Select) : conditionsOf (small sql) s = conditionsOf sql s := by
  have hsource : Joined.ofSource (small sql) = Joined.ofSource sql := by
    funext f
    simp only [Joined.ofSource, bareJoin?_small]
  have hsources : ∀ sources, joinedSources (small sql) sources = joinedSources sql sources := by
    intro sources
    cases sources with
    | nil => rfl
    | cons first rest => rw [joinedSources, hsource, joinedSources]
  have hwithout : joinWithoutOn (small sql) = joinWithoutOn sql := by
    funext j
    simp only [joinWithoutOn, occurrence?_small]
  rw [conditionsOf, hsources, hwithout, conditionsOf]

/-- A check of a parsed statement finds the same in every spelling of the text. -/
theorem treeChecks_small : ∀ c ∈ treeChecks, ∀ q sql, c.run q (small sql) = c.run q sql := by
  have hall : treeChecks.Forall fun c => ∀ q sql, c.run q (small sql) = c.run q sql := by
    refine ⟨fun q sql => ?_, fun q sql => ?_, fun q sql => ?_, fun _ _ => rfl, fun q sql => ?_⟩
    · simp only [selectStars, starsOf, occurrence?_small]
    · simp only [ordersWithoutLimit, occurrence?_small]
    · simp only [crossJoins, occurrence?_small]
    · simp only [joinsWithoutCondition, conditionsOf_small]
  exact List.forall_iff_forall_mem.mp hall

/-! ## All checks of the text -/

section Answering

variable {name summary : String} {rules : List String}

theorem answering_caseBlind {run : Text → List Finding} (h : CaseBlind run) :
    (answering name rules summary run).CaseBlind := fun sql => congrArg Except.ok (h sql)

theorem answering_caseBlind_of_eq {run : Text → List Finding}
    (h : ∀ sql, run (small sql) = run sql) : (answering name rules summary run).CaseBlind :=
  answering_caseBlind (caseBlind_of_eq h)

theorem answering_adviseFirst_caseBlind {p : Pattern} {a : Advice} (hp : p.caseless = true) :
    (answering name rules summary (adviseFirst p a)).CaseBlind :=
  answering_caseBlind_of_eq fun sql => adviseFirst_small sql hp a

theorem answering_quoteFirst_caseBlind {p : Pattern} {a : Advice} (hp : p.caseless = true) :
    (answering name rules summary (quoteFirst p a)).CaseBlind :=
  answering_caseBlind (quoteFirst_caseBlind hp a)

end Answering

theorem textChecks_caseBlind : ∀ c ∈ textChecks, c.CaseBlind := by
  have hall : textChecks.Forall TextCheck.CaseBlind := by
    refine ⟨
      answering_caseBlind listAggregate_caseBlind,
      answering_quoteFirst_caseBlind rfl,
      answering_quoteFirst_caseBlind rfl,
      answering_adviseFirst_caseBlind rfl,
      answering_quoteFirst_caseBlind rfl,
      answering_caseBlind_of_eq pivot_small,
      answering_caseBlind_of_eq blockingOperators_small,
      answering_caseBlind_of_eq windowPartition_small,
      answering_caseBlind unnestedColumn_caseBlind,
      answering_caseBlind_of_eq recursiveQuery_small,
      answering_adviseFirst_caseBlind rfl,
      answering_quoteFirst_caseBlind rfl,
      answering_caseBlind distinctCount_caseBlind,
      answering_caseBlind_of_eq insertSelectStar_small,
      answering_caseBlind_of_eq namedQueryCount_small,
      answering_quoteFirst_caseBlind rfl,
      answering_adviseFirst_caseBlind rfl,
      answering_quoteFirst_caseBlind rfl,
      answering_caseBlind_of_eq functionOnFilterColumn_small,
      answering_caseBlind_of_eq repeatedOrderLimitOne_small,
      answering_caseBlind_of_eq rowNumberFilter_small,
      answering_adviseFirst_caseBlind rfl,
      answering_caseBlind_of_eq correlatedSubquery_small,
      answering_caseBlind_of_eq largeInList_small,
      answering_caseBlind_of_eq castInJoinKey_small,
      answering_adviseFirst_caseBlind rfl,
      answering_caseBlind_of_eq temporalWindowJoin_small,
      answering_caseBlind_of_eq chainedSelectStar_small,
      answering_caseBlind_of_eq intermediateOrderBy_small,
      answering_caseBlind_of_eq selfJoinNeighbor_small,
      answering_caseBlind_of_eq repeatedTableScan_small,
      fun sql => congrArg (Except.map (List.map Finding.gist)) (largeOffsets_small sql),
      answering_adviseFirst_caseBlind rfl,
      answering_caseBlind_of_eq copyCompression_small,
      answering_caseBlind_of_eq remoteSelectStar_small,
      answering_caseBlind_of_eq localTransfer_small,
      answering_caseBlind_of_eq remoteWithoutFilter_small,
      answering_caseBlind_of_eq multipleRemoteScans_small,
      answering_caseBlind_of_eq partitionedPath_small,
      answering_caseBlind_of_eq crossDatabaseJoin_small,
      answering_adviseFirst_caseBlind rfl,
      answering_caseBlind_of_eq windowFilteredInWhere_small,
      answering_adviseFirst_caseBlind rfl,
      answering_caseBlind_of_eq joinsOnTrue_small,
      answering_caseBlind orChain_caseBlind,
      answering_caseBlind_of_eq betweenTimestamp_small,
      answering_adviseFirst_caseBlind rfl,
      answering_quoteFirst_caseBlind rfl,
      answering_caseBlind_of_eq largeCaseChain_small,
      answering_adviseFirst_caseBlind rfl,
      answering_quoteFirst_caseBlind rfl,
      answering_adviseFirst_caseBlind rfl,
      answering_caseBlind_of_eq manyCasts_small,
      answering_caseBlind_of_eq jsonExtraction_small,
      answering_quoteFirst_caseBlind rfl,
      answering_adviseFirst_caseBlind rfl,
      answering_caseBlind_of_eq mixedTimestamps_small⟩
  exact List.forall_iff_forall_mem.mp hall

end Checks
end QueryLint
