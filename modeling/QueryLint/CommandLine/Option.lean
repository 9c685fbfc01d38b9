import QueryLint.Text.Basic

/-! Options on a command line: long ones with two hyphens, short ones of one letter that can stand
together behind one hyphen, and values that follow or are attached. -/
namespace QueryLint.CommandLine
set_option autoImplicit false

inductive UsageError where
  | noSuchCommand (name : String)
  | noSuchOption (name : String)
  /-- An option without its value, or a value for an option that has none. -/
  | badOptionUse (name : String)
  /-- A value that is not among the choices, or a file that cannot be opened. -/
  | badValue (parameter : String)
  | misuse (message : String)
deriving DecidableEq, Repr

/-- An option by its long name, and its letter if it has one. -/
structure OptionSpec where
  long : String
  letter : Option Char
  takesValue : Bool
deriving DecidableEq, Repr

structure Given where
  long : String
  value : String
deriving DecidableEq, Repr

/-- The options of a command line in the order given, and the other arguments. -/
structure Scanned where
  options : List Given
  arguments : List String
deriving DecidableEq, Repr

namespace Scanned

def add (s : Scanned) (given : List Given) : Scanned := { s with options := given ++ s.options }

def last? (s : Scanned) (long : String) : Option String :=
  ((s.options.filter fun g => g.long == long).map Given.value).getLast?

def allOf (s : Scanned) (long : String) : List String :=
  (s.options.filter fun g => g.long == long).map Given.value

def has (s : Scanned) (long : String) : Bool := s.options.any fun g => g.long == long

end Scanned

/-! ## One argument -/

inductive ArgumentKind where
  /-- The end of the options. -/
  | stop
  | long (name : Text) (value : Option Text)
  | letters (letters : Text)
  | plain
deriving DecidableEq, Repr

def kindOf : Text → ArgumentKind
  | ['-', '-'] => .stop
  | '-' :: '-' :: rest =>
    let name := rest.takeWhile (· ≠ '=')
    .long name (if name.length < rest.length then some (rest.drop (name.length + 1)) else none)
  | '-' :: c :: rest => .letters (c :: rest)
  | _ => .plain

/-- The options that letters behind one hyphen stand for: flags, and at the end perhaps an option
whose value is what is left, or else the next argument. The flag says whether that was taken. -/
def ofLetters (specs : List OptionSpec) (next : Option String) :
    Text → Except UsageError (List Given × Bool)
  | [] => .ok ([], false)
  | c :: rest =>
    match specs.find? fun s => s.letter == some c with
    | none => .error (.noSuchOption (String.ofList ['-', c]))
    | some spec =>
      if spec.takesValue then
        if rest.isEmpty then
          match next with
          | some value => .ok ([⟨spec.long, value⟩], true)
          | none => .error (.badOptionUse spec.long)
        else .ok ([⟨spec.long, String.ofList rest⟩], false)
      else (fun (given, taken) => (⟨spec.long, ""⟩ :: given, taken)) <$> ofLetters specs next rest

/-- The option that a long name stands for, and whether its value was the next argument. -/
def ofLong (specs : List OptionSpec) (next : Option String) (name : Text) (value : Option Text) :
    Except UsageError (List Given × Bool) :=
  match specs.find? fun s => s.long.toList == name with
  | none => .error (.noSuchOption ("--" ++ String.ofList name))
  | some spec =>
    match spec.takesValue, value, next with
    | true, some value, _ => .ok ([⟨spec.long, String.ofList value⟩], false)
    | true, none, some value => .ok ([⟨spec.long, value⟩], true)
    | true, none, none => .error (.badOptionUse spec.long)
    | false, some _, _ => .error (.badOptionUse spec.long)
    | false, none, _ => .ok ([⟨spec.long, ""⟩], false)

/-- The options that an argument stands for, and whether the next argument was a value of theirs. -/
def given (specs : List OptionSpec) (next : Option String) :
    ArgumentKind → Except UsageError (List Given × Bool)
  | .letters letters => ofLetters specs next letters
  | .long name value => ofLong specs next name value
  | .stop | .plain => .ok ([], false)

/-- The options and arguments of a command line. Unless they may be mixed, the first argument that
is no option ends the options. -/
def scan (specs : List OptionSpec) (mixed : Bool) : List String → Except UsageError Scanned
  | [] => .ok ⟨[], []⟩
  | arg :: rest =>
    match kindOf arg.toList with
    | .stop => .ok ⟨[], rest⟩
    | .plain =>
      if mixed then (fun s => { s with arguments := arg :: s.arguments }) <$> scan specs mixed rest
      else .ok ⟨[], arg :: rest⟩
    | kind =>
      match given specs rest.head? kind with
      | .error e => .error e
      | .ok (found, false) => (·.add found) <$> scan specs mixed rest
      | .ok (found, true) =>
        match rest with
        | [] => .ok ⟨found, []⟩
        | _ :: others => (·.add found) <$> scan specs mixed others

end QueryLint.CommandLine
