import Bazaar.Yaml.Token

/-!
Reading a YAML document: the tokens of a text make up one node, of mappings and sequences by
indentation or in brackets and of scalars.
-/

namespace Bazaar.Yaml

/-! ### Where a node ends -/

namespace Token

/-- Whether a token ends the place of a node in a collection by indentation. -/
def isBlockEnd : Token → Bool
  | .key => true
  | .colon => true
  | .dedent => true
  | _ => false

/-- Whether a token ends the place of an item in a sequence by indentation. -/
def isItemEnd : Token → Bool
  | .dash => true
  | .dedent => true
  | _ => false

/-- Whether a token ends the place of a node in a collection in brackets. -/
def isFlowEnd (c : Collection) : Token → Bool
  | .comma => true
  | .closing d => c == d
  | _ => false

/-- Whether a document cannot go on with a token. -/
def isMark : Token → Bool
  | .documentStart => true
  | .documentEnd => true
  | _ => false

end Token

namespace Reader

/-- What follows the comma that stands before the next node or member of a collection in brackets.
None need stand before the first one or the end. -/
def next? (c : Collection) (first : Bool) : List Token → Option (List Token)
  | .comma :: ts => if first then none else some ts
  | .closing d :: ts => if c = d then some (.closing d :: ts) else none
  | ts => if first then some ts else none

/-! ### Nodes -/

mutual

/-- Reads a node. Within brackets, indentation has no meaning. The sequence that is a key or its
value need not be indented. -/
def node? : Nat → (flow member : Bool) → List Token → Option (Yaml × List Token)
  | 0, _, _, _ => none
  | fuel + 1, flow, member, ts => do
    match ts with
    | .scalar v :: ts => some (v, ts)
    | .opening .sequence :: ts =>
      let (vs, ts) ← flowItems? fuel true ts
      some (.sequence vs, ts)
    | .opening .mapping :: ts =>
      let (ms, ts) ← flowMembers? fuel true ts
      some (.mapping ms, ts)
    | .dash :: ts =>
      if member then
        let (vs, ts) ← looseItems? fuel (.dash :: ts)
        some (.sequence vs, ts)
      else none
    | .indent .sequence :: ts =>
      if flow then none
      else
        let (vs, ts) ← items? fuel ts
        some (.sequence vs, ts)
    | .indent .mapping :: ts =>
      if flow then none
      else
        let (ms, ts) ← members? fuel ts
        some (.mapping ms, ts)
    | _ => none

/-- Reads a node, unless a token stands here that ends its place. -/
def nodeUnless? : Nat → (Token → Bool) → (flow member : Bool) → List Token →
    Option (Yaml × List Token)
  | 0, _, _, _, _ => none
  | fuel + 1, isEnd, flow, member, ts =>
    if ts.head?.any isEnd then some (.absent, ts) else node? fuel flow member ts

/-- Reads a value, if a colon stands before it. -/
def value? : Nat → (Token → Bool) → (flow member : Bool) → List Token → Option (Yaml × List Token)
  | 0, _, _, _, _ => none
  | fuel + 1, isEnd, flow, member, ts =>
    match ts with
    | .colon :: ts => nodeUnless? fuel isEnd flow member ts
    | ts => some (.absent, ts)

/-- Reads the items of a sequence by indentation, and its end. -/
def items? : Nat → List Token → Option (List Yaml × List Token)
  | 0, _ => none
  | fuel + 1, ts => do
    match ts with
    | .dash :: ts =>
      let (v, ts) ← nodeUnless? fuel Token.isItemEnd false false ts
      let (vs, ts) ← items? fuel ts
      some (v :: vs, ts)
    | .dedent :: ts => some ([], ts)
    | _ => none

/-- Reads the items of a sequence that is not indented. -/
def looseItems? : Nat → List Token → Option (List Yaml × List Token)
  | 0, _ => none
  | fuel + 1, ts => do
    match ts with
    | .dash :: ts =>
      let isEnd (t : Token) := t.isItemEnd || t.isBlockEnd
      let (v, ts) ← nodeUnless? fuel isEnd false false ts
      let (vs, ts) ← looseItems? fuel ts
      some (v :: vs, ts)
    | ts => some ([], ts)

/-- Reads the members of a mapping by indentation, and its end. -/
def members? : Nat → List Token → Option (List (Yaml × Yaml) × List Token)
  | 0, _ => none
  | fuel + 1, ts => do
    match ts with
    | .key :: ts =>
      let (k, ts) ← nodeUnless? fuel Token.isBlockEnd false true ts
      let (v, ts) ← value? fuel Token.isBlockEnd false true ts
      let (ms, ts) ← members? fuel ts
      some ((k, v) :: ms, ts)
    | .dedent :: ts => some ([], ts)
    | _ => none

/-- Reads the items of a sequence in brackets, and the last bracket. Of a member without braces is
made a mapping; if its key is not there, the token in its place is passed over. -/
def flowItems? : Nat → (first : Bool) → List Token → Option (List Yaml × List Token)
  | 0, _, _ => none
  | fuel + 1, first, ts => do
    match ← next? .sequence first ts with
    | .closing .sequence :: ts => some ([], ts)
    | .key :: ts =>
      let isEnd := Token.isFlowEnd .sequence
      let (k, ts) ← match ts with
        | .colon :: ts => some (.absent, ts)
        | .comma :: ts => some (.absent, ts)
        | .closing .sequence :: ts => some (.absent, ts)
        | ts => node? fuel true false ts
      let (v, ts) ← value? fuel isEnd true false ts
      let (vs, ts) ← flowItems? fuel false ts
      some (.mapping [(k, v)] :: vs, ts)
    | ts =>
      let (v, ts) ← node? fuel true false ts
      let (vs, ts) ← flowItems? fuel false ts
      some (v :: vs, ts)

/-- Reads the members of a mapping in braces, and the last brace. A node without a colon is a key
without a value. -/
def flowMembers? : Nat → (first : Bool) → List Token → Option (List (Yaml × Yaml) × List Token)
  | 0, _, _ => none
  | fuel + 1, first, ts => do
    match ← next? .mapping first ts with
    | .closing .mapping :: ts => some ([], ts)
    | .key :: ts =>
      let isEnd := Token.isFlowEnd .mapping
      let (k, ts) ← nodeUnless? fuel (fun t => t matches .colon || isEnd t) true false ts
      let (v, ts) ← value? fuel isEnd true false ts
      let (ms, ts) ← flowMembers? fuel false ts
      some ((k, v) :: ms, ts)
    | ts =>
      let (k, ts) ← node? fuel true false ts
      let (ms, ts) ← flowMembers? fuel false ts
      some ((k, .absent) :: ms, ts)

end

/-! ### Documents -/

/-- Reads the content of a document, which nothing need stand in once it has been marked. -/
def content? (ts : List Token) : Option (Yaml × List Token) :=
  let fuel := 4 * ts.length + 8
  match ts with
  | .documentStart :: ts =>
    match ts with
    | [] => some (.absent, [])
    | ts => nodeUnless? fuel Token.isMark false false ts
  | [] => some (.absent, [])
  | ts => node? fuel false false ts

end Reader

/-- Reads the only document of a text, in the part of YAML that has nodes here; anything else is
refused. A text without a document is a node that is not there. -/
def parse? (text : String) : Option Yaml := do
  let (v, rest) ← Reader.content? (← tokens? text)
  if rest.all fun t => t matches .documentEnd then some v else none

end Bazaar.Yaml
