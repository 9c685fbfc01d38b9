import QueryLint.Analysis.Analyzer
import QueryLint.Finding.Place
import QueryLint.Report.Json

/-! The report of an analysis as a JSON document. -/
namespace QueryLint
set_option autoImplicit false

namespace Report

def toolName : String := "duckcheck"

def toolVersion : String := "1.0.0"

/-- A report has the result, the text that was analyzed and where it came from. -/
structure Subject where
  result : AnalysisResult
  sql : Text
  source : String

def jsonText (s : Option String) : JsonValue :=
  match s with
  | none => .null
  | some s => .text s

def jsonRange (r : TextRange) : JsonValue :=
  .object [⟨"start", .number r.start⟩, ⟨"end", .number r.stop⟩]

def jsonFinding (sql : Text) (f : Finding) : JsonValue :=
  .object [⟨"rule_id", .text f.rule⟩, ⟨"severity", .text f.severity.name⟩, ⟨"title", .text f.title⟩,
    ⟨"message", .text f.message⟩, ⟨"suggestion", .text f.suggestion⟩,
    ⟨"category", .text f.category⟩, ⟨"fragment", jsonText (f.fragment.map String.ofList)⟩,
    ⟨"offset", (f.offset.map jsonRange).getD .null⟩,
    ⟨"highlights", .array ((f.highlights sql).map jsonRange)⟩]

/-- The entries with one more number; an entry of the same key keeps its place and gets the
number. -/
def setCount (entries : List (String × Nat)) (key : String) (count : Nat) : List (String × Nat) :=
  if entries.any fun e => e.1 == key then
    entries.map fun e => if e.1 == key then (key, count) else e
  else entries ++ [(key, count)]

def summary (findings : List Finding) : List (String × Nat) :=
  (Finding.counts findings).foldl (fun entries (s, count) => setCount entries s.name count)
    [("total", findings.length)]

def document (time : String) (s : Subject) : JsonValue :=
  .object
    [⟨"metadata", .object [⟨"tool", .text toolName⟩, ⟨"version", .text toolVersion⟩,
      ⟨"generated_at", .text time⟩, ⟨"source", .text s.source⟩,
      ⟨"query_length", .number s.sql.length⟩]⟩,
    ⟨"parse_error", jsonText s.result.parseError⟩,
    ⟨"summary", .object ((summary s.result.findings).map fun (key, count) => ⟨key, .number count⟩)⟩,
    ⟨"findings", .array (s.result.findings.map (jsonFinding s.sql))⟩]

def json (time : String) (s : Subject) : String := (document time s).toText

end Report
end QueryLint
