import Bazaar.Transaction

/-!
Identifiers that the library gives out: the digest of a transfer, and the id of a new transaction.
Both are numbers of 128 bits in hexadecimal.
-/

namespace Bazaar

-- powers are those of the core library, whatever else is imported
attribute [local instance (high)] instPowNat

/-- The last 32 hexadecimal digits of a number, most significant first. -/
def hexDigits32 (n : Nat) : List Char :=
  (List.range 32).map fun i => Nat.digitChar (n / 16 ^ (31 - i) % 16)

namespace Digest

/-- The digest of a number. -/
def ofNumber (n : Nat) : Digest := String.ofList ('0' :: 'x' :: hexDigits32 n)

/-- The digest of a transaction that settles on no ledger: its id. -/
def ofTransaction (id : TransactionId) : Digest := id

/-- Whether a character is a lower-case hexadecimal digit. -/
def isHexDigit (c : Char) : Bool := c.isDigit || ('a' ≤ c && c ≤ 'f')

/-- Whether a text has the form of the digest of a transfer. -/
def isWellFormed (d : Digest) : Bool :=
  match d.toList with
  | '0' :: 'x' :: cs => cs.length == 32 && cs.all isHexDigit
  | _ => false

end Digest

/-- The id of the transaction of a given number: `tx-` and the digits in groups. -/
def TransactionId.ofNumber (n : Nat) : TransactionId :=
  let cs := hexDigits32 n
  let group (i k : Nat) := (cs.drop i).take k
  String.ofList ("tx-".toList ++ group 0 8 ++ '-' :: group 8 4 ++ '-' :: group 12 4 ++
    '-' :: group 16 4 ++ '-' :: group 20 12)

end Bazaar
