import Bazaar.Yaml
import Bazaar.Text.Hex

/-!
The scalars of a YAML document: plain ones, which may go on over lines that are indented further
than what they are part of, and quoted ones. Each is read one character at a time, with a look at
the characters after it.
-/

namespace Bazaar.Yaml

/-! ### White space -/

/-- The white space after the text of a scalar so far. -/
inductive Gap where
  /-- Spaces and tabs, last first. -/
  | spaces (cs : List Char)
  /-- A line break, unless a backslash has taken it away, and the further ones, last first. Spaces
  and tabs around line breaks do not count. -/
  | breaks (first : Option Char) (further : List Char)

namespace Gap

def isBroken : Gap → Bool
  | .spaces _ => false
  | .breaks _ _ => true

def isEmpty : Gap → Bool
  | .spaces cs => cs.isEmpty
  | .breaks _ _ => false

/-- The characters, last first, as which white space within a scalar reads. Of line breaks, a line
feed at the front reads as nothing if there are more, and as a space if it stands alone. -/
def chars : Gap → List Char
  | .spaces cs => cs
  | .breaks (some '\n') [] => [' ']
  | .breaks (some '\n') further => further
  | .breaks first further => further ++ first.toList

/-- One more character of white space. -/
def push (c : Char) : Gap → Gap
  | .spaces cs => if isBreak c then .breaks (some c) [] else .spaces (c :: cs)
  | .breaks first further => .breaks first (if isBreak c then c :: further else further)

end Gap

/-- The text of a scalar so far, last character first, and the white space after it. -/
structure Draft where
  chars : List Char
  gap : Gap

namespace Draft

def empty : Draft := ⟨[], .spaces []⟩

/-- The characters with the white space taken in. -/
def settled (d : Draft) : List Char := d.gap.chars ++ d.chars

/-- Adds a character that is no white space. -/
def push (d : Draft) (c : Char) : Draft := ⟨c :: d.settled, .spaces []⟩

/-- Adds white space. -/
def blank (d : Draft) (c : Char) : Draft := { d with gap := d.gap.push c }

/-- Adds a line break that a backslash takes away. -/
def joinLine (d : Draft) : Draft := ⟨d.settled, .breaks none []⟩

/-- The text without the white space after it. -/
def text (d : Draft) : String := String.ofList d.chars.reverse

/-- The text with the white space after it. -/
def wholeText (d : Draft) : String := String.ofList d.settled.reverse

end Draft

/-! ### Plain scalars -/

/-- One character further in a plain scalar, whose further lines are indented by `indent` at least.
The answer is `some none` if the scalar ends before the character. -/
def plainStep? (flow : Bool) (indent : Nat) (d : Draft) (p : Point) (ps : List Point) :
    Option (Option Draft) :=
  let c := p.char
  if isBreak c then some (some (d.blank c))
  else if isBlank c then
    if c = '\t' ∧ d.gap.isBroken ∧ p.column < indent then none else some (some (d.blank c))
  else if !d.gap.isEmpty && (c == '#' || !flow && decide (p.column < indent)) then some none
  else if isMark (p :: ps) then some none
  else if c = ':' ∧ isGap ps then some none
  else if flow && c == ':' && ps.head?.any fun q => isFlowMark q.char || q.char == '?' then none
  else if flow && isFlowMark c then some none
  else some (some (d.push c))

/-! ### Quoted scalars -/

/-- One character further in a scalar in single quotes, where a quote is written twice. The flag
tells that the character is the second of two quotes. The answer is `some none` if the character
ends the scalar. -/
def singleStep? (d : Draft) (isSecond : Bool) (p : Point) (ps : List Point) :
    Option (Option (Draft × Bool)) :=
  let c := p.char
  if isSecond then some (some (d.push '\'', false))
  else if isMark (p :: ps) then none
  else if c = '\'' then
    if ps.head?.any (·.char == '\'') then some (some (d, true)) else some none
  else if isBlank c || isBreak c then some (some (d.blank c, false))
  else some (some (d.push c, false))

/-- The characters that stand for one character after a backslash. -/
def escaped? (c : Char) : Option Char :=
  match c with
  | '0' => some '\x00'
  | 'a' => some '\x07'
  | 'b' => some '\x08'
  | 't' => some '\t'
  | '\t' => some '\t'
  | 'n' => some '\n'
  | 'v' => some '\x0b'
  | 'f' => some '\x0c'
  | 'r' => some '\r'
  | 'e' => some '\x1b'
  | ' ' => some ' '
  | '"' => some '"'
  | '/' => some '/'
  | '\\' => some '\\'
  | 'N' => some (Char.ofNat 0x85)
  | '_' => some (Char.ofNat 0xa0)
  | 'L' => some (Char.ofNat 0x2028)
  | 'P' => some (Char.ofNat 0x2029)
  | _ => none

/-- The number of hexadecimal digits that follow a letter after a backslash. -/
def codeLength? (c : Char) : Option Nat :=
  if c = 'x' then some 2 else if c = 'u' then some 4 else if c = 'U' then some 8 else none

/-- The character of a number. -/
def character? (n : Nat) : Option Char :=
  if h : n.isValidChar then some (Char.ofNatAux n h) else none

/-- What a scalar in double quotes is in: its text, a backslash, or the number of a character, of
which some digits are missing. -/
inductive Escape where
  | none
  | backslash
  | code (number missing : Nat)

/-- One character further in a scalar in double quotes. The answer is `some none` if the character
ends the scalar. -/
def doubleStep? (d : Draft) (e : Escape) (p : Point) (ps : List Point) :
    Option (Option (Draft × Escape)) :=
  let c := p.char
  match e with
  | .code n missing => do
    let n := 16 * n + (← Text.hexDigit? c)
    if missing ≤ 1 then some (some (d.push (← character? n), .none))
    else some (some (d, .code n (missing - 1)))
  | .backslash =>
    if isBreak c then some (some (d.joinLine, .none))
    else
      match codeLength? c with
      | some k => some (some (d, .code 0 k))
      | none => do some (some (d.push (← escaped? c), .none))
  | .none =>
    if isMark (p :: ps) then none
    else if c = '"' then some none
    else if c = '\\' then some (some (d, .backslash))
    else if isBlank c || isBreak c then some (some (d.blank c, .none))
    else some (some (d.push c, .none))

end Bazaar.Yaml
