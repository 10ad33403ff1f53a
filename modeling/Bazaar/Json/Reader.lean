import Bazaar.Json.Token

/-!
Reading JSON: the tokens of a text are taken one at a time by a state that remembers the arrays
and objects still open. Those that stand in too many others have no value, and neither has an
object with a name that is no text.
-/

namespace Bazaar.Json

namespace Reader

/-- A member as it is read. -/
abbrev Member := Option String × Json

/-- An array or object that is still open, and what stands in it so far, last first. -/
inductive Frame where
  | array (items : List Json)
  /-- The name is that of the member whose value is being read. -/
  | object (members : List Member) (name : Option String)

/-- What has to come next, and what is open around it. -/
inductive State where
  | value (around : List Frame)
  /-- The first item of an array or its end. -/
  | first (around : List Frame)
  /-- A comma or the end of an array. -/
  | item (items : List Json) (around : List Frame)
  /-- The name of a member or, if it would be the first, the end of the object. -/
  | name (members : List Member) (around : List Frame)
  | colon (members : List Member) (name : Option String) (around : List Frame)
  /-- A comma or the end of an object. -/
  | member (members : List Member) (around : List Frame)
  | done (v : Json)

/-- Puts a complete value where it belongs. -/
def deliver (v : Json) : List Frame → State
  | [] => .done v
  | .array items :: around => .item (v :: items) around
  | .object members name :: around => .member ((name, v) :: members) around

/-- The object of its members, last first. -/
def object (members : List Member) : Json :=
  match members.reverse.mapM fun m => m.1.map fun name => (name, m.2) with
  | some ms => .object ms
  | none => .invalid

/-- Delivers an array or object that stands in fewer than `limit` others. -/
def close (limit : Nat) (v : Json) (around : List Frame) : State :=
  deliver (if (around.take limit).length < limit then v else .invalid) around

/-- Reads a value or the start of one. -/
def begin? (around : List Frame) : Token → Option State
  | .value v => some (deliver v around)
  | .string s => some (deliver (s.elim .invalid .text) around)
  | .beginArray => some (.first around)
  | .beginObject => some (.name [] around)
  | _ => none

/-- One token further. -/
def step? (limit : Nat) : State → Token → Option State
  | .value around, t => begin? around t
  | .first around, .endArray => some (close limit (.array []) around)
  | .first around, t => begin? (.array [] :: around) t
  | .item items around, .comma => some (.value (.array items :: around))
  | .item items around, .endArray => some (close limit (.array items.reverse) around)
  | .name [] around, .endObject => some (close limit (.object []) around)
  | .name members around, .string s => some (.colon members s around)
  | .colon members name around, .colon => some (.value (.object members name :: around))
  | .member members around, .comma =>
    match members with
    | [] => none
    | m :: ms => some (.name (m :: ms) around)
  | .member members around, .endObject => some (close limit (object members) around)
  | _, _ => none

/-- One character further, for the state of its token and that of the value. -/
def feed? (limit : Nat) (st : Token.Mode × State) (c : Char) : Option (Token.Mode × State) := do
  let (mode, tokens) ← Token.step? st.1 c
  let state ← tokens.foldlM (step? limit) st.2
  some (mode, state)

/-- The value that is complete at the end of the text. -/
def finish? (limit : Nat) (st : Token.Mode × State) : Option Json := do
  match ← (← Token.finish? st.1).foldlM (step? limit) st.2 with
  | .done v => some v
  | _ => none

end Reader

/-- The value that a text is. An array or object has a value if it stands in fewer than `limit`
others. -/
def parseWithin? (limit : Nat) (text : String) : Option Json :=
  (text.toList.foldlM (Reader.feed? limit) (.between, .value [])).bind (Reader.finish? limit)

/-- In how many others the arrays and objects of a document stand at most. -/
def maxOpen : Nat := 127

/-- The value that a document is. -/
def parse? (text : String) : Option Json := parseWithin? maxOpen text

end Bazaar.Json
