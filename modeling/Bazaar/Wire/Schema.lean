import Bazaar.Search.Value
import Bazaar.Wire.Content

/-!
The messages of places, values, attributes, schemas and descriptions.

Each message has a list of fields, in ascending order of their numbers, and a step that merges a
field. A type is a code here, and what has to be there may be missing.
-/

namespace Bazaar.Wire

open Search (Place Value)

/-! ### Places and values -/

def placeFields (p : Place) : List Field := doubleField 1 p.longitude ++ doubleField 2 p.latitude

def placeStep (budget : Nat) (p : Place) (f : Field) : Option Place :=
  match f.number with
  | 1 => f.payload.double?.map fun d => { p with longitude := d }
  | 2 => f.payload.double?.map fun d => { p with latitude := d }
  | _ => skip? budget p

/-- The one field of a value, which tells its type. -/
def valueFields : Value → List Field
  | .text s => [⟨1, ofText s⟩]
  | .double d => [⟨2, ofDouble d⟩]
  | .bool b => [⟨3, ofBool b⟩]
  | .int i => [⟨4, ofInt i⟩]
  | .place p => [embed 5 (placeFields p)]

/-- Merges a field of a value, which may have none yet: a place into a place, and else in the
place of what was there. -/
def valueStep (budget : Nat) (v : Option Value) (f : Field) : Option (Option Value) :=
  match f.number with
  | 1 => f.payload.text?.map (some ∘ .text)
  | 2 => f.payload.double?.map (some ∘ .double)
  | 3 => f.payload.bool?.map (some ∘ .bool)
  | 4 => f.payload.int?.map (some ∘ .int)
  | 5 =>
    let p := match v with
      | some (.place p) => p
      | _ => .origin
    (mergeWithin? budget placeStep p f.payload).map (some ∘ .place)
  | _ => skip? budget v

/-! ### Attributes and schemas -/

/-- An attribute, with its type as a code. -/
structure Attribute where
  name : String
  type : Int32
  isRequired : Bool
  note : String
deriving DecidableEq

namespace Attribute

def empty : Attribute := ⟨"", 0, false, ""⟩

def fields (a : Attribute) : List Field :=
  textField 1 a.name ++ codeField 2 a.type ++ boolField 3 a.isRequired ++ textField 4 a.note

def step (budget : Nat) (a : Attribute) (f : Field) : Option Attribute :=
  match f.number with
  | 1 => f.payload.text?.map fun s => { a with name := s }
  | 2 => f.payload.code?.map fun c => { a with type := c }
  | 3 => f.payload.bool?.map fun b => { a with isRequired := b }
  | 4 => f.payload.text?.map fun s => { a with note := s }
  | _ => skip? budget a

end Attribute

/-- A named list of attributes, in any order. -/
structure Schema where
  name : String
  attributes : List Attribute
  note : String
deriving DecidableEq

namespace Schema

def empty : Schema := ⟨"", [], ""⟩

def fields (s : Schema) : List Field :=
  textField 1 s.name ++ s.attributes.map (fun a => embed 2 a.fields) ++ textField 3 s.note

def step (budget : Nat) (s : Schema) (f : Field) : Option Schema :=
  match f.number with
  | 1 => f.payload.text?.map fun t => { s with name := t }
  | 2 =>
    (mergeWithin? budget Attribute.step .empty f.payload).map fun a =>
      { s with attributes := s.attributes ++ [a] }
  | 3 => f.payload.text?.map fun t => { s with note := t }
  | _ => skip? budget s

end Schema

/-! ### Descriptions -/

/-- A value and the name of its attribute. -/
structure Entry where
  key : String
  value : Option Value
deriving DecidableEq

namespace Entry

def empty : Entry := ⟨"", none⟩

def fields (e : Entry) : List Field :=
  textField 1 e.key ++ (e.value.map fun v => embed 2 (valueFields v)).toList

def step (budget : Nat) (e : Entry) (f : Field) : Option Entry :=
  match f.number with
  | 1 => f.payload.text?.map fun s => { e with key := s }
  | 2 => (mergeWithin? budget valueStep e.value f.payload).map fun v => { e with value := v }
  | _ => skip? budget e

end Entry

/-- Entries, in any order, and the schema that they should conform to. -/
structure Description where
  schema : Option Schema
  entries : List Entry
deriving DecidableEq

namespace Description

def empty : Description := ⟨none, []⟩

def fields (d : Description) : List Field :=
  (d.schema.map fun s => embed 1 s.fields).toList ++ d.entries.map fun e => embed 2 e.fields

def step (budget : Nat) (d : Description) (f : Field) : Option Description :=
  match f.number with
  | 1 =>
    (mergeWithin? budget Schema.step (d.schema.getD .empty) f.payload).map fun s =>
      { d with schema := some s }
  | 2 =>
    (mergeWithin? budget Entry.step .empty f.payload).map fun e =>
      { d with entries := d.entries ++ [e] }
  | _ => skip? budget d

end Description

end Bazaar.Wire
