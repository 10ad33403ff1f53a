import Bazaar.Json.Number
import Bazaar.Text.Hex

/-!
The tokens of a JSON text: brackets, commas, colons, strings, and the other values that hold none.
The text is read one character at a time, by a state that remembers the token it is in.
-/

namespace Bazaar.Json

/-- The tokens of a JSON text. -/
inductive Token where
  | beginArray
  | endArray
  | beginObject
  | endObject
  | comma
  | colon
  /-- A string, with its text if it is one. -/
  | string (text : Option String)
  /-- Any other value that holds none. -/
  | value (v : Json)

namespace Token

/-- A part of a string: a character, or half of a pair that stands for one. -/
inductive Piece where
  | char (c : Char)
  /-- The number of a first half is from 0xd800 up to 0xdbff, that of a second one from 0xdc00 up to
  0xdfff. -/
  | half (n : Nat)

/-- What is being read. The characters of a token are kept last first. -/
inductive Mode where
  | between
  /-- In a number or one of the names `null`, `true` and `false`. -/
  | word (chars : List Char)
  | string (pieces : List Piece)
  /-- After a backslash. -/
  | escape (pieces : List Piece)
  /-- In the number of a character, of which some digits are still to come. -/
  | code (pieces : List Piece) (number : Nat) (missing : Nat)

/-- The characters of numbers and names. -/
def isWord (c : Char) : Bool := c.isAlphanum || c == '-' || c == '+' || c == '.'

/-- The value that a word is. A number beyond the doubles has none. -/
def word? (cs : List Char) : Option Json :=
  if cs = ['n', 'u', 'l', 'l'] then some .null
  else if cs = ['t', 'r', 'u', 'e'] then some (.bool true)
  else if cs = ['f', 'a', 'l', 's', 'e'] then some (.bool false)
  else (Number.literal? cs).map fun l => l.value?.getD .invalid

/-- What a character starts between two tokens. -/
def start? (c : Char) : Option (Mode × List Token) :=
  if c = ' ' ∨ c = '\n' ∨ c = '\t' ∨ c = '\r' then some (.between, [])
  else if c = '[' then some (.between, [.beginArray])
  else if c = ']' then some (.between, [.endArray])
  else if c = '\x7b' then some (.between, [.beginObject])
  else if c = '\x7d' then some (.between, [.endObject])
  else if c = ',' then some (.between, [.comma])
  else if c = ':' then some (.between, [.colon])
  else if c = '"' then some (.string [], [])
  else if isWord c then some (.word [c], [])
  else none

/-- The character that stands for itself or a control after a backslash. -/
def escaped? (c : Char) : Option Char :=
  if c = '"' ∨ c = '\\' ∨ c = '/' then some c
  else if c = 'b' then some '\x08'
  else if c = 'f' then some '\x0c'
  else if c = 'n' then some '\n'
  else if c = 'r' then some '\r'
  else if c = 't' then some '\t'
  else none

/-- The part of a string that a number of at most four digits stands for. -/
def Piece.ofNumber (n : Nat) : Piece :=
  if 0xd800 ≤ n ∧ n ≤ 0xdfff then .half n else .char (Char.ofNat n)

/-- The characters of a string, if its halves are pairs. -/
def joined? : List Piece → Option (List Char)
  | [] => some []
  | .char c :: ps => (joined? ps).map (c :: ·)
  | .half h :: .half l :: ps =>
    if h < 0xdc00 ∧ 0xdc00 ≤ l then
      (joined? ps).map (Char.ofNat (0x10000 + (h - 0xd800) * 0x400 + (l - 0xdc00)) :: ·)
    else none
  | _ => none

/-- One character further: the state after it and the tokens that are now complete. -/
def step? (m : Mode) (c : Char) : Option (Mode × List Token) :=
  match m with
  | .between => start? c
  | .word chars =>
    if isWord c then some (.word (c :: chars), [])
    else do
      let v ← word? chars.reverse
      let (m, ts) ← start? c
      some (m, .value v :: ts)
  | .string pieces =>
    if c = '"' then some (.between, [.string ((joined? pieces.reverse).map String.ofList)])
    else if c = '\\' then some (.escape pieces, [])
    else if c.toNat < 32 then none
    else some (.string (.char c :: pieces), [])
  | .escape pieces =>
    if c = 'u' then some (.code pieces 0 4, [])
    else do some (.string (.char (← escaped? c) :: pieces), [])
  | .code pieces n missing => do
    let n := 16 * n + (← Text.hexDigit? c)
    if missing ≤ 1 then some (.string (.ofNumber n :: pieces), [])
    else some (.code pieces n (missing - 1), [])

/-- The tokens that are complete at the end of the text. -/
def finish? : Mode → Option (List Token)
  | .between => some []
  | .word chars => do some [.value (← word? chars.reverse)]
  | _ => none

end Token

end Bazaar.Json
