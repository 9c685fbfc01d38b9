import QueryLint.Sql.Vocabulary.Clause

/-! Comparisons, literals, casts and types, as they stand in the conditions of a query. -/
namespace QueryLint.Sql
set_option autoImplicit false
open Shape Pattern

/-! ## Literals -/

/-- A quoted text in which a quote is written twice. -/
def quotedText : Shape :=
  char '\'' ++ many0 (either (except "'") (lit "''")) ++ char '\''

def plainNumber : Shape := many1 digit ++ optional (char '.' ++ many1 digit)

/-- One literal of a list, with the white space around it. -/
def literalItem : Pattern :=
  .anyCase (gap ++ either quotedText (optional (among "-+") ++ plainNumber) ++ gap)

/-! ## Comparisons -/

def leadingWildcardLike : Pattern :=
  .anyCase (edge ++ optional (char 'i') ++ lit "like" ++ space ++ lit "'%" ++ many0 (except "'")
    ++ char '\'')

/-- A pattern whose only wildcard is a percent sign at its end. -/
def likePrefix : Pattern :=
  .anyCase (edge ++ lit "like" ++ space ++ char '\'' ++ except "%_'" ++ many0 (except "%_'")
    ++ lit "%'")

def functionComparison : Pattern :=
  .anyCase (callOf (anyOf ["upper", "lower", "trim", "ltrim", "rtrim", "cast", "extract",
      "date_trunc", "date_part", "year", "month", "day", "strftime", "length", "substring",
      "substr", "replace"]) ++ many0 (except "()") ++ char ')' ++ gap
    ++ oneOf [char '=', lit "!=", lit "<>", lit "<=", lit ">=", char '<', char '>', keyword "like",
      keyword "in"])

/-- An equation of two qualified columns: table and column in groups 1 and 2, and in 3 and 4. -/
def qualifiedEquality : Pattern :=
  .anyCase (edge ++ group 1 plainName ++ char '.' ++ group 2 (many1 word) ++ gap ++ char '=' ++ gap
    ++ group 3 plainName ++ char '.' ++ group 4 (many1 word))

def inListOpen : Pattern := .anyCase (callOf (lit "in"))

/-- A less or greater sign, with or without an equals sign, but no part of an arrow or of
unequal. -/
def inequality : Pattern :=
  .exactCase (notAfter ⟨"-<>!=".toList.map .char, false⟩
    ++ oneOf [lit "<=", lit ">=", char '<' ++ notHere (among ">="),
      char '>' ++ notHere (among ">=")])

def neighborOffset : Pattern :=
  .anyCase (among "+-" ++ gap ++ either (char '1' ++ edge) (lit "interval" ++ edge))

/-- A column compared to a number, its name in group 1. -/
def numericComparison : Pattern :=
  .anyCase (edge ++ group 1 (many1 word) ++ gap ++ anyOf ["<=", ">=", "=", "<", ">"] ++ gap
    ++ digit)

/-- An equation of a column and a literal, in groups 1 and 2. -/
def equalityTerm : Pattern :=
  .anyCase (edge ++ group 1 (of [.letter, .char '_'] ++ many0 (of [.word, .char '.'])) ++ gap
    ++ char '=' ++ gap ++ group 2 (either quotedText (optional (char '-') ++ plainNumber)))

def orSeparator : Pattern := .anyCase (space ++ lit "or" ++ space)

/-- An anchored regular expression without metacharacters. -/
def simpleRegexp : Pattern :=
  .anyCase (callOf (lit "regexp_" ++ anyOf ["matches", "full_match"]) ++ gap ++ dotted ++ gap
    ++ char ',' ++ gap ++ char '\''
    ++ either (char '^' ++ many1 (of [.word, .char ' ']))
      (many1 (of [.word, .char ' ']) ++ char '$')
    ++ char '\'')

/-! ## Branches and operators -/

def caseToken : Pattern := .anyCase (edge ++ group 1 (anyOf ["case", "when", "end"]) ++ edge)

def concatOperator : Pattern := .exactCase (lit "||")

/-! ## Times -/

/-- The operand in front of BETWEEN, in group 1. -/
def precedingOperand : Pattern :=
  .anyCase (group 1 dotted ++ space ++ optional (lit "not" ++ space) ++ finish)

/-- A name that ends like one of a point in time. -/
def temporalColumn : Pattern :=
  .anyCase (oneOf [lit "date", lit "time", lit "_at", lit "_ts", lit "_on", lit "day",
    notAfter ⟨[], true⟩ ++ lit "ts"] ++ finish)

def temporalValue : Pattern :=
  .anyCase (oneOf [edge ++ either (lit "date") (lit "timestamp" ++ optional (lit "tz")) ++ space
      ++ char '\'',
    char '\'' ++ times 4 digit ++ char '-' ++ times 2 digit ++ char '-' ++ times 2 digit,
    edge ++ lit "current_" ++ anyOf ["date", "timestamp"] ++ edge,
    callOf (lit "now")])

/-! ## Casts and types -/

def castCall : Pattern := .anyCase (callOf (optional (lit "try_") ++ lit "cast"))

def castExpression : Pattern := .anyCase (either (lit "::") castCall.shape)

def castOperator : Pattern := .anyCase (lit "::" ++ gap ++ of [.letter, .char '_'])

def zonedTimestamp : Pattern :=
  .anyCase (either (keyword "timestamptz")
    (edge ++ pair "timestamp" "with" ++ space ++ pair "time" "zone" ++ edge))

/-- A unit of precision after the name of the timestamp type. -/
def precisionSuffix : Shape := char '_' ++ anyOf ["ns", "ms", "s"]

def unzonedTimestamp : Pattern :=
  .anyCase (oneOf [lit "::" ++ gap ++ lit "timestamp" ++ optional precisionSuffix ++ edge
      ++ notHere (space ++ lit "with" ++ edge),
    edge ++ pair "as" "timestamp" ++ optional precisionSuffix ++ gap ++ char ')',
    edge ++ lit "timestamp" ++ space ++ char '\'',
    edge ++ pair "timestamp" "without" ++ space ++ pair "time" "zone" ++ edge,
    edge ++ lit "timestamp" ++ precisionSuffix ++ edge,
    edge ++ many1 word ++ space ++ lit "timestamp" ++ gap
      ++ oneOf [char ',', char ')', keyword "not", keyword "default", keyword "primary"]])

end QueryLint.Sql
