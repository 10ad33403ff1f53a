/-!
The lines of a text. A line ends with a newline, before which one carriage return counts to the end
of the line; what stands behind the last newline is a line as well, unless there is nothing.
-/

namespace Bazaar.Text

/-- The characters of a line that is now complete, last first. -/
def dropReturn : List Char → List Char
  | [] => []
  | c :: cs => if c = '\r' then cs else c :: cs

/-- The lines of the characters that are still to be read. What was read of the first line stands
in front, last first. -/
def linesFrom (line : List Char) : List Char → List String
  | [] => if line = [] then [] else [String.ofList line.reverse]
  | c :: cs =>
    if c = '\n' then String.ofList (dropReturn line).reverse :: linesFrom [] cs
    else linesFrom (c :: line) cs

/-- The lines of a text. -/
def lines (s : String) : List String := linesFrom [] s.toList

/-- The text of a list of lines, each of which ends with a newline. -/
def unlines (ls : List String) : String := String.join (ls.map (· ++ "\n"))

end Bazaar.Text
