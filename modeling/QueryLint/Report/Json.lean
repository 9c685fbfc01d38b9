import QueryLint.Text.Quoted

/-! JSON as reports write it: one entry on a line, two spaces for each level, and only the
characters escaped that have to be. -/
namespace QueryLint
set_option autoImplicit false

mutual

inductive JsonValue where
  | null
  | number (value : Int)
  | text (value : String)
  | array (items : List JsonValue)
  | object (entries : List JsonEntry)

structure JsonEntry where
  key : String
  value : JsonValue

end

namespace JsonValue

/-! ## Strings -/

def escaped (c : Char) : Text :=
  if c = '"' then ['\\', '"']
  else if c = '\\' then ['\\', '\\']
  else if c = '\n' then ['\\', 'n']
  else if c = '\r' then ['\\', 'r']
  else if c = '\t' then ['\\', 't']
  else if c.toNat = 8 then ['\\', 'b']
  else if c.toNat = 12 then ['\\', 'f']
  else if c.toNat < 0x20 then '\\' :: 'u' :: Text.hexDigits 4 c.toNat
  else [c]

def renderText (s : String) : Text := '"' :: s.toList.flatMap escaped ++ ['"']

/-! ## Layout -/

def newLine (level : Nat) : Text := '\n' :: Text.blanks (2 * level)

/-- A line break and a comma between the lines of what stands in brackets. -/
def joinLines (level : Nat) : List Text → Text
  | [] => []
  | [line] => line
  | line :: rest => line ++ ',' :: newLine level ++ joinLines level rest

/-- Lines in brackets, which stand together where there is no line. -/
def bracketed (start stop : Char) (level : Nat) (lines : List Text) : Text :=
  if lines.isEmpty then [start, stop]
  else start :: newLine (level + 1) ++ joinLines (level + 1) lines ++ newLine level ++ [stop]

def renderNumber (n : Int) : Text := (toString n).toList

mutual

def render (level : Nat) : JsonValue → Text
  | null => "null".toList
  | number value => renderNumber value
  | text value => renderText value
  | array items => bracketed '[' ']' level (renderItems (level + 1) items)
  | object entries => bracketed '\x7b' '\x7d' level (renderEntries (level + 1) entries)

def renderItems (level : Nat) : List JsonValue → List Text
  | [] => []
  | item :: rest => render level item :: renderItems level rest

def renderEntries (level : Nat) : List JsonEntry → List Text
  | [] => []
  | ⟨key, value⟩ :: rest =>
    (renderText key ++ ':' :: ' ' :: render level value) :: renderEntries level rest

end

def toText (v : JsonValue) : String := String.ofList (render 0 v)

end JsonValue
end QueryLint
