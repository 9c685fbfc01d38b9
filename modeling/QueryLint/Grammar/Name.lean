import QueryLint.Grammar.Node

/-! Names, aliases and literals: the texts that nodes stand for. -/
namespace QueryLint
set_option autoImplicit false

/-! ## Texts -/

def Arg.text? : Arg → Option String
  | text value => some value
  | _ => none

/-- The text of an argument: a text itself, or what an identifier, a literal, a variable, a star or
a null is written as. It is absent if an identifier, a literal or a variable has none. -/
def Arg.textOf : Arg → Option String
  | text value => some value
  | node n =>
    if n.kind == "Identifier" || n.kind == "Literal" || n.kind == "Var" then (n.get "this").text?
    else if n.kind == "Star" then some "*"
    else if n.kind == "Null" then some "NULL"
    else some ""
  | _ => some ""

/-- A name in capitals; there have to be letters to put so. -/
def capitalsOf : Option String → Except Failure String
  | some name => .ok (String.ofList (Text.upper name.toList))
  | none => .error (.lacks Arg.absent.shape "upper")

namespace Node

def text (n : Node) (key : String) : Option String := (n.get key).textOf

def capitals (n : Node) (key : String) : Except Failure String := capitalsOf (n.text key)

/-- Which node gives a node of a kind its name. -/
inductive NameRule where
  /-- Always the same name. -/
  | fixed (name : String)
  /-- The text of the node's main argument. -/
  | own
  /-- The name of the node in an argument. -/
  | argument (key : String)
  /-- The name of the node in an argument, unless it is absent or a call. -/
  | noCall (key : String)
  /-- The text in an argument, or the name of the node there. -/
  | textOr (key : String)

def nameRule (kind : String) : NameRule :=
  if kind == "Star" then .fixed "*"
  else if kind == "Null" then .fixed "NULL"
  else if kind == "Table" then .noCall "this"
  else if kind == "Anonymous" then .textOr "this"
  else if kind == "Dot" then .argument "expression"
  else if ["Cast", "TryCast", "Ordered", "From", "DataTypeParam"].contains kind then
    .argument "this"
  else .own

end Node

def Arg.isCall : Arg → Bool
  | node n => n.isCall
  | _ => false

/-- The name that a node goes by. It is absent if an identifier without a text gives it. -/
def Arg.name (a : Arg) : Except Failure (Option String) :=
  match a with
  | .node n =>
    match Node.nameRule n.kind with
    | .fixed name => .ok (some name)
    | .own => .ok (n.text "this")
    | .argument key => Arg.name (n.get key)
    | .noCall key =>
      if !(n.get key).isSet || (n.get key).isCall then .ok (some "")
      else Arg.name (n.get key)
    | .textOr key =>
      match (n.get key).text? with
      | some value => .ok (some value)
      | none => Arg.name (n.get key)
  | other => .error (.lacks other.shape "name")
termination_by sizeOf a
decreasing_by all_goals
  have h := n.sizeOf_get_lt key
  simp only [Arg.node.sizeOf_spec]
  omega

namespace Node

def name (n : Node) : Except Failure (Option String) := (Arg.node n).name

/-- The alias of a node, empty if it has none. -/
def givenName (n : Node) : Except Failure (Option String) :=
  if (n.get "alias").isNode then (n.get "alias").name else .ok (n.text "alias")

/-- A constant as it is written in a query: a quoted text has its quotes doubled. -/
def constant (n : Node) : String :=
  if n.kind == "Null" then "NULL"
  else if n.kind == "Boolean" then if (n.get "this").isSet then "TRUE" else "FALSE"
  else if (n.get "is_string").isSet then
    let doubled := ((n.get "this").text?.getD "").toList.flatMap fun c =>
      if c = '\'' then ['\'', '\''] else [c]
    String.ofList ('\'' :: doubled ++ ['\''])
  else (n.get "this").text?.getD ""

end Node
end QueryLint
