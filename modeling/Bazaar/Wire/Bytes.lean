import Bazaar.Wire.Meaning

/-!
The bytes of places, attributes, schemas, descriptions, conditions and queries, and reading them.
-/

namespace Bazaar.Search

open Wire

/-- How many messages or groups may be nested in a message. -/
def maxNested : Nat := 100

/-- Reads a message, and then what it means. -/
def readBytes {α β : Type} (step : Nat → α → Field → Option α) (empty : α)
    (meaning : α → Except Fault β) (bytes : List UInt8) : Except Fault β :=
  match merge? maxNested (step maxNested) empty bytes with
  | some message => meaning message
  | none => .error .malformed

def Place.encode (p : Place) : List UInt8 := writeFields (placeFields p)

def Place.decode : List UInt8 → Except Fault Place := readBytes placeStep .origin .ok

def Attribute.encode (a : Attribute) : List UInt8 := writeFields a.toWire.fields

def Attribute.decode : List UInt8 → Except Fault Attribute :=
  readBytes Wire.Attribute.step .empty ofWire

def Schema.encode (s : Schema) : List UInt8 := writeFields s.toWire.fields

def Schema.decode : List UInt8 → Except Fault Schema := readBytes Wire.Schema.step .empty ofWire

def Description.encode (d : Description) : List UInt8 := writeFields d.toWire.fields

def Description.decode : List UInt8 → Except Fault Description :=
  readBytes Wire.Description.step .empty ofWire

def Condition.encode (c : Condition) : List UInt8 := writeFields c.toWire.fields

def Condition.decode : List UInt8 → Except Fault Condition :=
  readBytes Wire.Condition.step .unset ofWire

def Query.encode (q : Query) : List UInt8 := writeFields q.toWire.fields

def Query.decode : List UInt8 → Except Fault Query := readBytes Wire.Query.step .empty ofWire

end Bazaar.Search
