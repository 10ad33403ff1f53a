import Bazaar.Search.Schema

/-!
Descriptions of services: values that conform to a schema.
-/

namespace Bazaar.Search

/-- Values by the names of their attributes, which conform to a schema. -/
structure Description where
  values : SortedMap Value
  schema : Schema
  conforms : schema.inconsistency? values = none

namespace Description

/-- The description with given values, of a given schema or else of one with no name that asks
for just these values. -/
def ofValues? (values : SortedMap Value) (schema? : Option Schema) : Except Fault Description :=
  let schema := schema?.getD (.ofValues "" values)
  match h : schema.inconsistency? values with
  | some how => .error (.inconsistent how)
  | none => .ok ⟨values, schema, h⟩

/-- The description with given values, of a named schema that asks for just these values. -/
def ofValues (name : String) (values : SortedMap Value) : Description :=
  ⟨values, .ofValues name values, Schema.inconsistency?_ofValues name values⟩

/-- The value of an attribute. -/
def value? (d : Description) (key : String) : Option Value := d.values.get? key

/-- Whether two lists of entries have the same keys and equal values. -/
def equalEntries : List (String × Value) → List (String × Value) → Bool
  | [], [] => true
  | e :: es, f :: fs => e.1 == f.1 && e.2.equal f.2 && equalEntries es fs
  | _, _ => false

/-- Equality of descriptions: of their values and of their schemas. -/
def equal (d e : Description) : Bool :=
  equalEntries d.values.entries e.values.entries && d.schema.equal e.schema

/-- The text of a description. -/
def render (d : Description) : String :=
  "Description(values=\x7b" ++
    ",".intercalate (d.values.entries.map fun e => e.1 ++ ":" ++ e.2.render) ++
    "\x7d,data_model=" ++ d.schema.render ++ ")"

end Description

end Bazaar.Search
