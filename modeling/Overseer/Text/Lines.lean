import Overseer.Text.Bytes

/-!
Lines of a text. A line ends in a newline, with one carriage return before it counted to the line
end. The last line may lack its end, and then keeps all of its characters.
-/

namespace Overseer.Text

/-- Takes one carriage return off the end. -/
def dropReturn (line : List Char) : List Char :=
  if line.getLast? = some '\r' then line.dropLast else line

/-- The lines of a text without their ends. Nothing follows a last newline. -/
def lines (cs : List Char) : List (List Char) :=
  let pieces := cut '\n' cs
  pieces.dropLast.map dropReturn ++ pieces.getLast?.toList.filter (· ≠ [])

end Overseer.Text
