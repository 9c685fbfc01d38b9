import QueryLint.Report.Document
import QueryLint.Report.Markup
import QueryLint.Text.Shorten

/-! The report of an analysis on the console, as the items that are printed one after the other. How
an item is laid out is left to the console. -/
namespace QueryLint
set_option autoImplicit false

structure Column where
  header : String
  style : String
  justify : String
deriving DecidableEq, Repr

inductive ConsoleItem where
  | panel (text style : String)
  | line (markup : String)
  | table (title : String) (columns : List Column) (rows : List (List String))
deriving Repr

namespace Report

def plainColumn (header : String) : Column := ⟨header, "", "left"⟩

def boldColumn (header : String) : Column := ⟨header, "bold", "left"⟩

/-- The number of characters of a query that the header shows. -/
def shownLength : Int := 70

def shownQuery (sql : Text) : Text := Markup.escape (Text.shorten (Text.oneLine sql) shownLength)

def header (time : String) (s : Subject) : ConsoleItem :=
  .panel
    ("[bold white]duckcheck Report[/]\nSource: "
      ++ Markup.escapeString (if s.source = "" then "<inline>" else s.source)
      ++ "\nQuery: " ++ String.ofList (shownQuery s.sql) ++ "\nScanned: " ++ time)
    "bold blue"

def parseWarning (s : Subject) : List ConsoleItem :=
  match s.result.parseError with
  | none => []
  | some message =>
    if message = "" then []
    else [.line ("[yellow]Could not parse query, structural checks skipped:[/] "
      ++ Markup.escapeString message)]

/-- The number of findings of a level in its color. -/
def levelCount (findings : List Finding) (level : Severity) : String :=
  "[" ++ Severity.color level.name ++ "]" ++ toString (Finding.countOf level findings) ++ " "
    ++ level.name ++ "[/]"

def summaryLine (findings : List Finding) : ConsoleItem :=
  .line ("Findings: " ++ toString findings.length ++ " ("
    ++ Text.joinStrings ", " (Severity.levels.map (levelCount findings)) ++ ")")

/-! ## The table of findings -/

/-- The findings with their ranks, or the first severity that has none. -/
def ranked : List Finding → Except Finding.UnknownSeverity (List (Nat × Finding))
  | [] => .ok []
  | f :: rest =>
    match f.severity.rank? with
    | none => .error ⟨f.severity.name⟩
    | some rank => (fun others => (rank, f) :: others) <$> ranked rest

/-- The most severe findings first, those of one severity in the order given. -/
def bySeverity (findings : List Finding) : Except Finding.UnknownSeverity (List Finding) :=
  (fun l => (l.mergeSort fun a b => b.1 ≤ a.1).map Prod.snd) <$> ranked findings

/-- What is wrong and how to mend it, with the explanation if it is asked for. -/
def detail (verbose : Bool) (f : Finding) : String :=
  Markup.escapeString f.title
    ++ (if verbose then "\n[dim]" ++ Markup.escapeString f.message ++ "[/]" else "")
    ++ "\n[green]Fix:[/] " ++ Markup.escapeString f.suggestion

def row (sql : Text) (verbose : Bool) (f : Finding) : List String :=
  ["[" ++ Severity.color f.severity.name ++ "]" ++ Severity.icon f.severity.name ++ " "
      ++ f.severity.title ++ "[/]",
    f.rule, f.category, f.place sql, detail verbose f]

def findingColumns : List Column :=
  [plainColumn "Severity", boldColumn "Rule", plainColumn "Category", ⟨"Location", "", "right"⟩,
    plainColumn "Issue"]

/-- All findings in a table, or that there is none. -/
def findingsItem (s : Subject) (verbose : Bool) : Except Finding.UnknownSeverity ConsoleItem :=
  if s.result.findings.isEmpty then .ok (.line "[green]No issues found.[/green]")
  else (fun sorted => .table "Findings" findingColumns (sorted.map (row s.sql verbose))) <$>
    bySeverity s.result.findings

def console (time : String) (s : Subject) (verbose : Bool) :
    Except Finding.UnknownSeverity (List ConsoleItem) :=
  (fun item => header time s :: parseWarning s ++ [summaryLine s.result.findings, item]) <$>
    findingsItem s verbose

/-! ## The table of checks -/

def ruleColumns : List Column := [plainColumn "Kind", boldColumn "Rule ID", plainColumn "Detects"]

def checkRow (kind : String) (rules : List String) (summary : String) : List String :=
  [kind, Text.joinStrings ", " rules, summary]

def checksTable : ConsoleItem :=
  .table "Rules" ruleColumns
    (Checks.treeChecks.map (fun c => checkRow "structural" c.rules c.summary)
      ++ Checks.textChecks.map (fun c => checkRow "pattern" c.rules c.summary))

end Report
end QueryLint
