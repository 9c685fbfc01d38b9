import QueryLint.Checks.Basic
import QueryLint.Sql.Vocabulary.Call

/-! Checks of lists and JSON documents: expansion into rows, processing in memory, and extraction.
-/
namespace QueryLint.Checks
set_option autoImplicit false
open Sql

/-! ## Lists -/

def unnestColumnAdvice (column : String) : Advice where
  rule := "unnest-large-expansion"
  severity := .warning
  title := "UNNEST over a list column"
  message := s!"unnest({column}) produces one row per list element for every input row. Long lists "
    ++ "multiply the row count and everything downstream of it, including joins, sorts and "
    ++ "aggregates."
  suggestion := "Filter rows before unnesting, or use list functions such as list_filter() and "
    ++ "list_aggregate() to work on the list without expanding it."
  category := "memory"

/-- The first list column that is made rows. -/
def unnestedColumn (sql : Text) : List Finding :=
  ((unnestColumn.first? sql).map fun m =>
    (unnestColumnAdvice (m.groupText sql 1).shown).located m.span).toList

def listTransformAdvice : Advice where
  rule := "list-transform"
  severity := .info
  title := "list_transform() in-memory list processing"
  message := "list_transform() applies a lambda to every element of a list in memory. Chained with "
    ++ "other list operations (list_concat, flatten, array_to_string), the whole chain is "
    ++ "non-spillable."
  suggestion := "Do the transformation at ingest time if possible. For string building, a CTE with "
    ++ "UNNEST + string_agg gives the optimizer more room."
  category := "memory"

def listTransform (sql : Text) : List Finding := quoteFirst listLambdaCall listTransformAdvice sql

/-! ## Documents -/

def jsonEachAdvice : Advice where
  rule := "json-each-expansion"
  severity := .warning
  title := "json_each() row expansion"
  message := "json_each() explodes a JSON array or object into rows. With many elements this "
    ++ "multiplies the row count and memory usage, especially when followed by aggregation or "
    ++ "sorting."
  suggestion := "Filter the JSON before expanding it, or apply WHERE/LIMIT right after the "
    ++ "expansion to keep the result small."
  category := "memory"

def jsonEach (sql : Text) : List Finding := quoteFirst jsonEachCall jsonEachAdvice sql

def jsonArrayWildcardAdvice : Advice where
  rule := "json-array-extract"
  severity := .info
  title := "JSON array wildcard extraction"
  message := "A JSON path with a [*] wildcard extracts every array element into a list in memory. "
    ++ "Combined with list_transform() this adds further memory pressure."
  suggestion := "Filter before extraction if only some elements are needed, or flatten JSON arrays "
    ++ "into rows at ingest time."
  category := "memory"

def jsonWildcard (sql : Text) : List Finding :=
  adviseFirst jsonArrayWildcard jsonArrayWildcardAdvice sql

/-- The numbers of extractions that are many and that are moderately many. -/
def heavyExtraction : Nat := 20

def moderateExtraction : Nat := 8

def heavyExtractionAdvice (count : Nat) : Advice where
  rule := "heavy-json-extraction"
  severity := .warning
  title := s!"Heavy JSON extraction ({count} operations)"
  message := s!"This query performs {count} JSON extraction operations (-> and ->>). Each one "
    ++ "parses the JSON value again, and JSON is stored as text, so none of it benefits from "
    ++ "columnar storage."
  suggestion := "Extract the fields into typed columns at ingest time (CREATE TABLE ... AS SELECT "
    ++ "payload->>'field' AS field ...), or pull the fields out once in a dedicated CTE and "
    ++ "reference them downstream."
  category := "performance"

def moderateExtractionAdvice (count : Nat) : Advice where
  rule := "moderate-json-extraction"
  severity := .info
  title := s!"Moderate JSON extraction ({count} operations)"
  message := s!"This query performs {count} JSON extraction operations. Each parses the JSON value "
    ++ "independently, which adds CPU overhead on wide payloads."
  suggestion := "Extract commonly used JSON fields into typed columns at ingest time."
  category := "performance"

def arrowOf (extraction : Text) : Text :=
  if "->>".toList.isPrefixOf extraction then "->>".toList else "->".toList

/-- Many extractions, reported at the first arrow. -/
def jsonExtraction (sql : Text) : List Finding :=
  match jsonArrow.all sql with
  | [] => []
  | first :: rest =>
    let count := rest.length + 1
    let arrow := arrowOf (first.text sql)
    let place : Span := ⟨first.span.start, first.span.start + arrow.length⟩
    if count < moderateExtraction then []
    else if count ≥ heavyExtraction then
      [(heavyExtractionAdvice count).finding (some arrow) (some place)]
    else [(moderateExtractionAdvice count).finding (some arrow) (some place)]

end QueryLint.Checks
