import QueryLint.Query.Size
import QueryLint.Text.LetterCase
import QueryLint.Text.Quoted

/-! What a grammar of SQL answers: trees of nodes, each with a kind and arguments by name, and the
ways in which such an answer can fail to be a query. -/
namespace QueryLint
set_option autoImplicit false

mutual

/-- A node of a parsed text. `isOperator` marks an operator of two sides, `function` gives the name
of a function that the grammar knows. -/
structure Node where
  kind : String
  fields : List Field
  isOperator : Bool
  function : Option String

structure Field where
  key : String
  value : Arg

inductive Arg where
  | absent
  | node (node : Node)
  | list (items : List Arg)
  | text (value : String)
  | flag (value : Bool)
  | number (value : Int)

end

/-! ## Failures -/

inductive Failure where
  /-- The grammar does not accept the text. -/
  | rejected (message : String)
  /-- The grammar came to an end of another kind. -/
  | crashed (message : String)
  /-- An operator lacks one of its sides. -/
  | missingSide (key : String)
  /-- A part was asked for of something that has none of that name. -/
  | lacks (found part : String)
  /-- Something was gone through that is no list. -/
  | notList (found : String)
  /-- Something was counted that is no list. -/
  | notCountable (found : String)
deriving DecidableEq, Repr

namespace Failure

def message : Failure → String
  | rejected message => message
  | crashed message => message
  | missingSide key => String.ofList (Text.quoted key.toList)
  | lacks found part => "'" ++ found ++ "' object has no attribute '" ++ part ++ "'"
  | notList found => "'" ++ found ++ "' object is not iterable"
  | notCountable found => "object of type '" ++ found ++ "' has no len()"

end Failure

/-! ## Arguments -/

namespace Arg

/-- The name of the kind of an argument, as failures show it. -/
def shape : Arg → String
  | absent => "NoneType"
  | node n => n.kind
  | list _ => "list"
  | text _ => "str"
  | flag _ => "bool"
  | number _ => "int"

def isAbsent : Arg → Bool
  | absent => true
  | _ => false

def isNode : Arg → Bool
  | node _ => true
  | _ => false

def kindIs (a : Arg) (kind : String) : Bool :=
  match a with
  | node n => n.kind == kind
  | _ => false

/-- Whether an argument says yes: any node does, and any other value that is not empty or zero. -/
def isSet : Arg → Bool
  | absent => false
  | node _ => true
  | list items => !items.isEmpty
  | text value => value ≠ ""
  | flag value => value
  | number value => value ≠ 0

end Arg

namespace Node

def field? (n : Node) (key : String) : Option Arg :=
  (n.fields.find? fun f => f.key == key).map Field.value

/-- The argument of a name, absent if it is not given. -/
def get (n : Node) (key : String) : Arg := (n.field? key).getD .absent

def getEither (n : Node) (key other : String) : Arg :=
  if (n.get key).isAbsent then n.get other else n.get key

/-- A call of a function, known or not. -/
def isCall (n : Node) : Bool := n.function.isSome || n.kind == "Anonymous"

def key (n : Node) : String := String.ofList (Text.lower n.kind.toList)

end Node

namespace Arg

/-- The argument of a name, of a node; anything else has none. -/
def get (a : Arg) (key : String) : Arg :=
  match a with
  | node n => n.get key
  | _ => absent

/-- The items of a list argument; those of a node are its expressions. -/
def items : Arg → List Arg
  | list items => items
  | node n =>
    match n.get "expressions" with
    | list items => items
    | _ => []
  | _ => []

/-- The letters of a text argument, which can be gone through too, though no letter is a node. -/
def letters : Arg → List Char
  | text value => value.toList
  | _ => []

/-- Fails for anything but a node, of which the part could be asked. -/
def require (a : Arg) (part : String) : Except Failure Unit :=
  match a with
  | node _ => .ok ()
  | other => .error (.lacks other.shape part)

/-- Whether an argument can be gone through. One that says no counts as an empty list. -/
def isList : Arg → Bool
  | list _ => true
  | text _ => true
  | node n => !(n.get "expressions").isAbsent
  | other => !other.isSet

/-- Fails for anything that cannot be gone through. -/
def requireList (a : Arg) : Except Failure Unit :=
  if a.isList then .ok () else .error (.notList a.shape)

/-- Fails for a node and for anything that cannot be gone through. -/
def requireCount (a : Arg) : Except Failure Unit :=
  if a.isList && !a.isNode then .ok () else .error (.notCountable a.shape)

/-- Fails for a text with letters, of which no part can be asked. -/
def requireNoLetters (a : Arg) (part : String) : Except Failure Unit :=
  if a.letters.isEmpty then .ok () else .error (.lacks a.shape part)

end Arg

namespace Node

/-- The nodes directly below, in the order of the arguments. -/
def children (n : Node) : List Arg :=
  n.fields.flatMap fun f =>
    match f.value with
    | .node m => [.node m]
    | .list items => items.filter Arg.isNode
    | _ => []

end Node

/-! ## Parts are smaller -/

theorem sizeOf_get_le (fields : List Field) (key : String) :
    sizeOf (((fields.find? fun f => f.key == key).map Field.value).getD .absent)
      ≤ sizeOf fields := by
  induction fields with
  | nil => simp
  | cons f rest ih =>
    rw [List.find?_cons]
    obtain ⟨k, v⟩ := f
    split
    · simp only [Option.map_some, Option.getD_some, List.cons.sizeOf_spec, Field.mk.sizeOf_spec]
      omega
    · simp only [List.cons.sizeOf_spec]
      omega

theorem Node.sizeOf_get_lt (n : Node) (key : String) : sizeOf (n.get key) < sizeOf n := by
  have h := sizeOf_get_le n.fields key
  obtain ⟨kind, fields, isOperator, function⟩ := n
  simp only [Node.get, Node.field?, Node.mk.sizeOf_spec] at h ⊢
  omega

theorem Node.sizeOf_getEither_lt (n : Node) (key other : String) :
    sizeOf (n.getEither key other) < sizeOf n := by
  unfold Node.getEither
  split
  · exact n.sizeOf_get_lt other
  · exact n.sizeOf_get_lt key

theorem Arg.sizeOf_get_le (a : Arg) (key : String) : sizeOf (a.get key) ≤ sizeOf a := by
  cases a with
  | node n =>
    have h := n.sizeOf_get_lt key
    simp only [Arg.get, Arg.node.sizeOf_spec]
    omega
  | _ => simp [Arg.get]

theorem Arg.sizeOf_items_le (a : Arg) : sizeOf a.items ≤ sizeOf a := by
  cases a with
  | list items => simp only [Arg.items, Arg.list.sizeOf_spec]; omega
  | node n =>
    have h := n.sizeOf_get_lt "expressions"
    simp only [Arg.items, Arg.node.sizeOf_spec]
    split
    · rename_i items e
      rw [e, Arg.list.sizeOf_spec] at h
      omega
    · simp
  | _ => simp [Arg.items]

theorem Node.sizeOf_children_lt (n : Node) : sizeOf n.children < sizeOf n := by
  obtain ⟨kind, fields, isOperator, function⟩ := n
  have h : sizeOf (Node.mk kind fields isOperator function).children ≤ sizeOf fields := by
    refine sizeOf_flatMap_le (fun f => ?_) fields
    obtain ⟨key, value⟩ := f
    cases value with
    | list items =>
      have hf := sizeOf_filter_le Arg.isNode items
      simp only [Field.mk.sizeOf_spec, Arg.list.sizeOf_spec]
      omega
    | _ => simp <;> omega
  rw [Node.mk.sizeOf_spec]
  omega

end QueryLint
