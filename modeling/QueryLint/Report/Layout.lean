import QueryLint.Report.Console

/-! Console items as plain lines, for a terminal without styles. -/
namespace QueryLint
set_option autoImplicit false

namespace Report

/-- The cells of a row with bars between them. -/
def plainRow (cells : List String) : String := Text.joinStrings " | " (cells.map Markup.plainString)

def plainLines : ConsoleItem → List String
  | .panel text _ => [Markup.plainString text]
  | .line markup => [Markup.plainString markup]
  | .table title columns rows =>
    title :: plainRow (columns.map Column.header) :: rows.map plainRow

end Report
end QueryLint
