import Bazaar.Text.Hex
import Bazaar.Text.Hidden

/-!
Quoted text: a string between double quotes, in which quotes, backslashes, the usual controls and
every hidden character are escaped.
-/

namespace Bazaar.Text

/-- A character inside quotes. -/
def escape (c : Char) : String :=
  if c = '\x00' then "\\0"
  else if c = '\t' then "\\t"
  else if c = '\r' then "\\r"
  else if c = '\n' then "\\n"
  else if c = '"' then "\\\""
  else if c = '\\' then "\\\\"
  else if isHidden c then "\\u\x7b" ++ hex c.toNat ++ "\x7d"
  else c.toString

/-- A string between quotes. -/
def quoted (s : String) : String := "\"" ++ String.join (s.toList.map escape) ++ "\""

end Bazaar.Text
