/-!
The nodes of a YAML document, and the text of a document as characters with their places. This is
the part of YAML that settings are written in: scalars, and collections by indentation and in
brackets. It has no nodes for block scalars, anchors, aliases, tags and directives.
-/

namespace Bazaar

/-- A node. A node that is not there is a plain scalar without text. -/
inductive Yaml where
  /-- A scalar without quotes. -/
  | plain (text : String)
  | quoted (text : String)
  | sequence (items : List Yaml)
  | mapping (members : List (Yaml × Yaml))
deriving Inhabited

namespace Yaml

/-- The node that is not there. -/
def absent : Yaml := .plain ""

/-! ### Characters and their places -/

/-- A character and its place. -/
structure Point where
  char : Char
  line : Nat
  column : Nat

/-- Whether a character may stand in a document. -/
def isAllowed (c : Char) : Bool :=
  let n := c.toNat
  n == 0x09 || n == 0x0a || n == 0x0d || (0x20 ≤ n && n ≤ 0x7e) || n == 0x85 ||
    (0xa0 ≤ n && n ≤ 0xd7ff) || (0xe000 ≤ n && n ≤ 0xfffd) || (0x10000 ≤ n && n ≤ 0x10ffff)

/-- Whether a character is the mark of the byte order. -/
def isByteOrderMark (c : Char) : Bool := c.toNat == 0xfeff

/-- Whether a character is a space or tab. -/
def isBlank (c : Char) : Bool := c == ' ' || c == '\t'

/-- Whether a character breaks the line: a line feed, or the separator of lines or paragraphs. -/
def isBreak (c : Char) : Bool := c == '\n' || c.toNat == 0x2028 || c.toNat == 0x2029

/-- The characters with every other line break as a line feed. -/
def unifyBreaks : List Char → List Char
  | [] => []
  | '\r' :: '\n' :: cs => '\n' :: unifyBreaks cs
  | c :: cs =>
    (if c = '\r' ∨ c.toNat = 0x85 then '\n' else c) :: unifyBreaks cs

/-- The characters with their places, counted from a place. -/
def placed (line column : Nat) : List Char → List Point
  | [] => []
  | c :: cs =>
    ⟨c, line, column⟩ :: (if isBreak c then placed (line + 1) 0 cs else placed line (column + 1) cs)

/-- The characters of a text with their places. -/
def points? (text : String) : Option (List Point) :=
  let cs := text.toList
  if cs.all isAllowed then some (placed 0 0 (unifyBreaks cs)) else none

/-! ### What stands at a place -/

/-- Whether the points start with white space or end. -/
def isGap : List Point → Bool
  | [] => true
  | p :: _ => isBlank p.char || isBreak p.char

/-- Whether a mark of the start or end of a document stands here. -/
def isMark : List Point → Bool
  | p :: q :: r :: ps =>
    p.column == 0 && (p.char == '-' || p.char == '.') && q.char == p.char && r.char == p.char &&
      isGap ps
  | _ => false

/-- The characters that delimit collections in brackets. -/
def isFlowMark (c : Char) : Bool := c == ',' || c == '[' || c == ']' || c == '\x7b' || c == '\x7d'

end Yaml

end Bazaar
