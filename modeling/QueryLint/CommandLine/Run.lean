import QueryLint.Analysis.Analyzer
import QueryLint.CommandLine.Command
import QueryLint.CommandLine.FileTree
import QueryLint.Report.Console

/-! A run of the program: from its arguments, the files around it and what stands on its input, to
what it prints, the files it writes and its exit status. -/
namespace QueryLint.CommandLine
set_option autoImplicit false

structure Moment where
  date : String
  time : String
deriving DecidableEq, Repr

namespace Moment

def stamp (m : Moment) : String := m.date ++ "T" ++ m.time

def shown (m : Moment) : String := m.date ++ " " ++ m.time

end Moment

/-- What a run finds: the files it can read by their paths, what keeps it from writing one, the
standard input, the time and the grammar. -/
structure Surroundings where
  read : String → Except FileProblem Text
  obstacle? : String → Option FileProblem
  input : Text
  now : Moment
  grammar : Option Grammar

inductive RunError where
  | usage (e : UsageError)
  | file (problem : FileProblem)
deriving DecidableEq, Repr

def RunError.exit : RunError → Nat
  | .usage _ => 2
  | .file _ => 1

structure Outcome where
  exit : Nat
  stdout : String
  console : List ConsoleItem
  written : List (String × String)
  requests : List Request
  events : List Event
  /-- Whether the events of the analysis are reported down to the smallest. -/
  verbose : Bool
  error : Option RunError

namespace Outcome

def quiet : Outcome := ⟨0, "", [], [], [], [], false, none⟩

/-- A run that ended before anything was done. -/
def stopped (e : RunError) (verbose : Bool) : Outcome :=
  { quiet with exit := e.exit, error := some e, verbose := verbose }

def misuse (e : UsageError) (verbose : Bool) : Outcome := stopped (.usage e) verbose

end Outcome

/-! ## The query -/

structure Input where
  sql : Text
  source : String

/-- The text of a file or of the standard input, with lines that end as they do here. -/
def opened (w : Surroundings) (name : String) : Except FileProblem Input :=
  if name = "-" then .ok ⟨Text.unixLines w.input, "<stdin>"⟩
  else (fun text => ⟨Text.unixLines text, name⟩) <$> w.read name

/-- What a file that cannot be opened means: a wrong argument, unless no file can have that path. -/
def openingError : FileProblem → RunError
  | .badPath => .file .badPath
  | _ => .usage (.badValue "FILE")

def openedFile (w : Surroundings) (o : AnalyzeOptions) : Except RunError (Option Input) :=
  match o.file with
  | none => .ok none
  | some name =>
    match opened w name with
    | .ok input => .ok (some input)
    | .error problem => .error (openingError problem)

/-- The query comes from one place: the file or the option. -/
def inputOf (file : Option Input) (sql : Option String) : Except UsageError Input :=
  match file, sql with
  | some _, some _ => .error (.misuse "Pass either FILE or --sql, not both.")
  | none, none => .error (.misuse "No query given. Pass FILE, --sql, or '-' to read stdin.")
  | some input, none => .ok input
  | none, some sql => .ok ⟨sql.toList, ""⟩

/-! ## The report -/

/-- The exit status: a finding from the given level on makes it 1. -/
def exitStatus (failOn : Option Severity) (findings : List Finding) : Nat :=
  match failOn with
  | none => 0
  | some level =>
    match Finding.anyAtLeast level findings with
    | .ok true => 1
    | _ => 0

def savedLine (start path : String) : ConsoleItem :=
  .line (start ++ "[green]Report saved to:[/green] " ++ path)

/-- Items that are printed and a document that is then saved, if nothing keeps it from being
written. -/
def saved (w : Surroundings) (items : List ConsoleItem) (start path document : String) : Outcome :=
  match w.obstacle? path with
  | some problem => { Outcome.stopped (.file problem) false with console := items }
  | none =>
    { Outcome.quiet with
      console := items ++ [savedLine start path], written := [(path, document)] }

def reported (w : Surroundings) (o : AnalyzeOptions) (s : Report.Subject) : Outcome :=
  let document := Report.json w.now.stamp s
  match o.format, o.output with
  | .json, none => { Outcome.quiet with stdout := document ++ "\n" }
  | .json, some path => saved w [] "" path document
  | .console, output =>
    let items := match Report.console w.now.shown s o.verbose with
      | .ok items => items
      | .error _ => []
    match output with
    | none => { Outcome.quiet with console := items }
    | some path => saved w items "\n" path document

/-! ## The run -/

def configOf (o : AnalyzeOptions) : Config :=
  { Config.standard with dialect := o.dialect, disabledRules := o.disabled }

/-- The analysis of a query and its report. The findings decide on the exit status only when the
report could be saved. -/
def analyzed (w : Surroundings) (o : AnalyzeOptions) (input : Input) : Outcome :=
  let a := Analysis.run (configOf o) w.grammar 0 input.sql
  let report := reported w o ⟨a.result, Text.trim input.sql, input.source⟩
  { report with
    exit := if report.error.isNone then exitStatus o.failOn a.result.findings else report.exit
    requests := a.requests
    events := a.events
    verbose := o.verbose }

/-- A file is opened before arguments are found to be too many, and only then the choice between
file and option is looked at. -/
def analyze (w : Surroundings) (o : AnalyzeOptions) : Outcome :=
  match openedFile w o with
  | .error e => .stopped e false
  | .ok file =>
    if o.extra.isEmpty then
      match inputOf file o.sql with
      | .error e => .misuse e o.verbose
      | .ok input => analyzed w o input
    else .misuse (unexpected o.extra) false

def run (w : Surroundings) (args : List String) : Outcome :=
  match command args with
  | .error e => .misuse e false
  | .ok .version =>
    { Outcome.quiet with stdout := Report.toolName ++ ", version " ++ Report.toolVersion ++ "\n" }
  | .ok (.rules extra) =>
    if extra.isEmpty then { Outcome.quiet with console := [Report.checksTable] }
    else .misuse (unexpected extra) false
  | .ok (.analyze o) => analyze w o

end QueryLint.CommandLine
