import QueryLint.Sql.Call

/-! References to tables: the names after FROM and JOIN, with their aliases. -/
namespace QueryLint.Sql
set_option autoImplicit false
open Shape Pattern

/-! ## Names -/

/-- A name: double-quoted, or letters, digits, underscores and dollar signs. -/
def identifier : Shape :=
  either (char '"' ++ many1 (except "\"") ++ char '"')
    (of [.letter, .char '_'] ++ many0 (of [.word, .char '$']))

/-- One to three names with points between them. -/
def qualifiedName : Pattern :=
  .exactCase (identifier ++ atMost 2 (gap ++ char '.' ++ gap ++ identifier))

/-- The name without its quotes and in lower case. -/
def plainIdentifier (name : Text) : Text := Text.lower (Text.trimBy (· == '"') name)

/-! ## The surroundings of a reference -/

/-- The word that introduces a table, in group 1. -/
def fromOrJoin : Pattern := .anyCase (edge ++ group 1 (anyOf ["from", "join"]) ++ space)

/-- A name after a table, in group 1. -/
def aliasAfter : Pattern := .anyCase (space ++ optional (lit "as" ++ space) ++ group 1 identifier)

def openParen : Pattern := .exactCase (gap ++ char '(')

def nameDot : Pattern := .exactCase (gap ++ char '.' ++ gap)

def distinctBefore : Pattern := .anyCase (edge ++ lit "distinct" ++ gap ++ finish)

def distinctReach : Nat := 20

/-- The functions in whose arguments a FROM may stand. -/
def callsWithFrom : List Text :=
  ["extract", "substring", "trim", "position", "overlay"].map String.toList

def notTables : List String := ["select", "lateral", "unnest", "values", "with", "table"]

def notAliases : List String :=
  ["on", "using", "where", "join", "inner", "left", "right", "full", "outer", "cross", "natural",
    "positional", "asof", "semi", "anti", "group", "order", "limit", "offset", "having", "qualify",
    "window", "union", "except", "intersect", "pivot", "unpivot", "sample", "tablesample",
    "returning", "set", "to", "as"]

/-! ## References -/

/-- A table named after FROM or JOIN: its parts, its alias and where it stands. -/
structure TableRef where
  parts : List Text
  givenName : Option Text
  span : Span
deriving DecidableEq, Repr

def TableRef.name (r : TableRef) : Text := List.intercalate ['.'] r.parts

/-- The database of a name of three parts. -/
def TableRef.database? (r : TableRef) : Option Text :=
  match r.parts with
  | [database, _, _] => some database
  | _ => none

/-- Whether a match of `fromOrJoin` is the FROM of IS DISTINCT FROM. -/
def isComparison (t : Text) (m : Match) : Bool :=
  Text.lower (m.groupText t 1) == "from".toList
    && (distinctBefore.firstWithin? t ⟨m.span.start - distinctReach, m.span.start⟩).isSome

def aliasAt? (t : Text) (position : Nat) : Option Text :=
  match aliasAfter.matchAt? (Cursor.seek t position) with
  | none => none
  | some m =>
    let name := plainIdentifier (m.groupText t 1)
    if notAliases.contains (String.ofList name) then none else some name

/-- The reference that a match of `fromOrJoin` introduces, if it introduces one. -/
def tableRefAt? (t : Text) (m : Match) : Option TableRef :=
  if isComparison t m then none
  else match qualifiedName.matchAt? (Cursor.seek t m.span.stop) with
    | none => none
    | some name =>
      if (openParen.matchAt? (Cursor.seek t name.span.stop)).isSome then none
      else
        let parts := (nameDot.pieces (name.text t)).map plainIdentifier
        if parts.length = 1 && parts.any fun p => notTables.contains (String.ofList p) then none
        else some ⟨parts, aliasAt? t name.span.stop, name.span⟩

/-- The tables referenced after FROM and JOIN, in the order of the text. Calls in which a FROM is no
clause are blanked first; derived tables, table functions and quoted files are left out. -/
def tableRefs (sql : Text) : List TableRef :=
  let masked := maskCalls callsWithFrom sql
  (fromOrJoin.all masked).filterMap (tableRefAt? masked)

end QueryLint.Sql
