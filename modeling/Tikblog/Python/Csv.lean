import Tikblog.Python.Runtime

/-!
# The csv module

`csv.writer` with the default dialect, and what a `csv.reader` over a stream comes to: the
records it yields, and the exception that ends it early, if any.
-/

namespace Tikblog.Python

/-- The records a reader yields, then `StopIteration` or an exception. -/
structure RowStream where
  rows : List (List String)
  ending : Option PyException

def needsQuotes (cell : String) : Bool :=
  cell.toList.any fun c => c == ',' || c == '"' || c == '\r' || c == '\n'

/-- A cell as `QUOTE_MINIMAL` writes it. -/
def csvCell (cell : String) : String :=
  if needsQuotes cell then
    "\"" ++ String.ofList (cell.toList.flatMap fun c => if c == '"' then ['"', '"'] else [c]) ++ "\""
  else cell

/-- `writer.writerow(row)`; a lone empty cell is quoted, so that it differs from no cell. -/
def csvRow (lineterminator : String) (row : List String) : String :=
  (if row = [""] then "\"\"" else ",".intercalate (row.map csvCell)) ++ lineterminator

example : csvRow "\r\n" ["a", "b,c", "say \"x\"", ""] = "a,\"b,c\",\"say \"\"x\"\"\",\r\n" := by decide

end Tikblog.Python
