/-!
# Lines

A text is cut at its line feeds. One carriage return before a line feed belongs to the line end,
and a text that ends in a line feed has no further, empty line.
-/

namespace FabricConfig.Text

/-- A line without the carriage return that may end it. -/
def dropCarriageReturn (line : List Char) : List Char :=
  if line.getLast? = some '\r' then line.dropLast else line

/-- The lines of a text. -/
def lines (text : List Char) : List (List Char) :=
  let pieces := text.splitOn '\n'
  let finished := pieces.dropLast.map dropCarriageReturn
  match pieces.getLast? with
  | none | some [] => finished
  | some last => finished ++ [last]

/-- The text in which a line feed ends each of the given lines. -/
def unlines (written : List (List Char)) : List Char :=
  written.flatMap (· ++ ['\n'])

end FabricConfig.Text
