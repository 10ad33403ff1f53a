import Bazaar.Amount
import Bazaar.Double
import Bazaar.SortedMap
import Bazaar.Yaml.Reader

/-!
Reading typed data out of a YAML node. Only plain scalars are numbers; a text may be any scalar. A
node that is not there reads as a mapping without members.
-/

namespace Bazaar.Yaml

-- powers are those of the core library, whatever else is imported
attribute [local instance (high)] instPowNat

/-! ### Scalars -/

/-- The text of a scalar. -/
def text? : Yaml → Option String
  | .plain s => some s
  | .quoted s => some s
  | _ => none

/-- The value of a digit in a base. -/
def digitIn? (base : Nat) (c : Char) : Option Nat := do
  let n ← Text.hexDigit? c
  if n < base then some n else none

/-- The value of at least one digit in a base. -/
def naturalIn? (base : Nat) (cs : List Char) : Option Nat :=
  if cs.isEmpty then none
  else cs.foldlM (fun n c => do some (base * n + (← digitIn? base c))) 0

/-- Whether some text starts with a sign. -/
def isSigned (cs : List Char) : Bool := cs.head? == some '-' || cs.head? == some '+'

/-- The text without a sign at its front. -/
def unsigned (cs : List Char) : List Char := if isSigned cs then cs.drop 1 else cs

/-- A number with the mark of its base: hexadecimal, octal or binary. -/
def marked? : List Char → Option Nat
  | '0' :: 'x' :: cs => naturalIn? 16 cs
  | '0' :: 'o' :: cs => naturalIn? 8 cs
  | '0' :: 'b' :: cs => naturalIn? 2 cs
  | _ => none

/-- Digits that are no number because they start with a zero. -/
def hasLeadingZero (cs : List Char) : Bool :=
  match unsigned cs with
  | '0' :: c :: cs => (c :: cs).all Char.isDigit
  | _ => false

/-- The integer that a text is: signed decimal, or signed with the mark of another base. -/
def integer? (cs : List Char) : Option Int :=
  let negative := cs.head? == some '-'
  let body := unsigned cs
  match marked? body with
  | some n => some (if negative then -(n : Int) else n)
  | none =>
    if isSigned body || hasLeadingZero cs then none
    else (naturalIn? 10 body).map fun n => if negative then -(n : Int) else n

/-- A plain number in the range of amounts. -/
def amount? : Yaml → Option Amount
  | .plain s => (integer? s.toList).bind Amount.ofInt?
  | _ => none

/-- A plain number of 64 bits without a minus sign. -/
def natural? : Yaml → Option Nat
  | .plain s => do
    let cs := s.toList
    if cs.head? = some '-' then none
    else
      let n ← integer? cs
      if n < 2 ^ (64 : Nat) then some n.toNat else none
  | _ => none

/-- The double nearest to a decimal: digits with a point before, among or after them, and an
exponent. -/
def decimal? (cs : List Char) : Option Double := do
  let negative := cs.head? == some '-'
  let cs := unsigned cs
  let whole := cs.takeWhile Char.isDigit
  let cs := cs.dropWhile Char.isDigit
  let (fraction, cs) := match cs with
    | '.' :: cs => (cs.takeWhile Char.isDigit, cs.dropWhile Char.isDigit)
    | cs => ([], cs)
  if whole.isEmpty && fraction.isEmpty then none
  else
    let e : Int ← match cs with
      | [] => some 0
      | c :: cs =>
        if c = 'e' ∨ c = 'E' then
          (naturalIn? 10 (unsigned cs)).map fun n => if cs.head? = some '-' then -(n : Int) else n
        else none
    let digits := (whole ++ fraction).dropWhile (· == '0')
    let e := e - fraction.length
    let size := digits.length + e
    -- a number of a larger size is infinite, and one of a smaller size is zero
    let x ← if digits.isEmpty || size < -330 then some 0.0
      else if 310 < size then none
      else (naturalIn? 10 digits).map fun m => Float.ofScientific m (e < 0) e.natAbs
    if x.isInf then none else some (.ofFloat (if negative then -x else x))

/-- A plain number as a double. -/
def double? : Yaml → Option Double
  | .plain s =>
    let positive := if s.startsWith "+" then (s.drop 1).toString else s
    if [".inf", ".Inf", ".INF"].contains positive then some ⟨0x7ff0000000000000⟩
    else if ["-.inf", "-.Inf", "-.INF"].contains s then some ⟨0xfff0000000000000⟩
    else if [".nan", ".NaN", ".NAN"].contains s then some ⟨0x7ff8000000000000⟩
    else if s.startsWith "+" && isSigned positive.toList then none
    else decimal? s.toList
  | _ => none

/-- Whether a node stands for nothing. -/
def isNull : Yaml → Bool
  | .plain s => ["", "~", "null", "Null", "NULL"].contains s
  | _ => false

/-! ### Mappings -/

/-- The members of a mapping. -/
def members? : Yaml → Option (List (Yaml × Yaml))
  | .mapping ms => some ms
  | .plain "" => some []
  | _ => none

/-- A mapping as a map; of several members of one name the last counts. -/
def map? {α : Type} (read : Yaml → Option α) (v : Yaml) : Option (SortedMap α) := do
  let entries ← (← v.members?).mapM fun m => do some (← text? m.1, ← read m.2)
  some (.ofList entries)

/-- The members of a record that are given, each of the names at most once. -/
def record? (names : List String) (v : Yaml) : Option (List (String × Yaml)) := do
  let ms ← (← v.members?).mapM fun m => do some (← text? m.1, m.2)
  let known := ms.filter fun m => names.contains m.1
  if (known.map (·.1)).Nodup then some known else none

/-- A member of a record, in the place of which, if it is not there, a default is taken. -/
def default? {α : Type} (ms : List (String × Yaml)) (name : String) (read : Yaml → Option α)
    (d : α) : Option α :=
  match ms.lookup name with
  | none => some d
  | some v => read v

end Bazaar.Yaml
