import Overseer.Text.Blank
import Overseer.Text.Lines
import Overseer.Text.Lowercase
import Std.Data.TreeMap

/-!
The settings file: lines of the form key=value. Keys are trimmed and put in lower case, values are
kept as they stand, and the last line of a key counts. Blank lines, comments behind a number sign
and lines without an equals sign are passed over.
-/

namespace Overseer.Settings

/-- Values by key, in ascending order of the keys. -/
abbrev Source := Std.TreeMap String String

namespace Source

/-- Key and value of a line, if it sets any. -/
def setting? (line : List Char) : Option (String × String) :=
  match Text.cutFirst? '=' line with
  | none => none
  | some (before, value) =>
    let key := Text.trim before
    if key = [] ∨ key.head? = some '#' then none
    else some (Text.Lowercase.ofString (String.ofList key), String.ofList value)

/-- Reads the text of a settings file. A line may end in one more carriage return than its line
    end has. -/
def ofText (s : String) : Source :=
  ((Text.lines s.toList).filterMap fun line => setting? (Text.dropReturn line)).foldl
    (fun source (key, value) => source.insert key value) ∅

end Source

end Overseer.Settings
