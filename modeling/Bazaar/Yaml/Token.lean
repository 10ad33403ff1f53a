import Bazaar.Yaml.Scalar

/-!
The tokens of a YAML text: scalars, brackets, dashes, commas and colons, and the keys, starts and
ends that nothing but the place of the other tokens tells. That a token starts a key shows only at
the colon after it, so the place of each token that may start one is kept until then. Anchors, tags,
directives and block scalars are refused.
-/

namespace Bazaar.Yaml

/-- The two kinds of collections. -/
inductive Collection where
  | sequence
  | mapping
deriving DecidableEq

/-- The tokens of a text. -/
inductive Token where
  | documentStart
  | documentEnd
  /-- A collection by indentation starts. -/
  | indent (c : Collection)
  /-- A collection by indentation ends. -/
  | dedent
  /-- A bracket that starts a collection. -/
  | opening (c : Collection)
  | closing (c : Collection)
  | dash
  | comma
  /-- What follows is a key. -/
  | key
  | colon
  | scalar (v : Yaml)
deriving Inhabited

/-- The place of a token that may turn out to start a key. -/
structure Candidate where
  /-- The number of tokens before it. -/
  number : Nat
  /-- Whether nothing but a key may start there. -/
  required : Bool
  line : Nat
  column : Nat

/-- The tokens so far, and what they leave open. -/
structure Scan where
  /-- The tokens, last first. -/
  tokens : List Token
  /-- The number of tokens. -/
  count : Nat
  /-- The columns of the collections by indentation that are open, innermost first. -/
  indents : List Nat
  candidate : Option Candidate
  /-- The candidates in front of the brackets that are open, innermost first. -/
  outer : List (Option Candidate)
  /-- Whether the next token may start a key. -/
  allowed : Bool

namespace Scan

def empty : Scan := ⟨[], 0, [], none, [], true⟩

/-- Whether a bracket is open. -/
def inBrackets (s : Scan) : Bool := !s.outer.isEmpty

/-- The column from which on the next node is indented further than what is open. -/
def indent (s : Scan) : Nat :=
  match s.indents with
  | [] => 0
  | n :: _ => n + 1

/-- Adds a token, and tells whether the next one may start a key. -/
def push (s : Scan) (t : Token) (allowed : Bool) : Scan :=
  { s with tokens := t :: s.tokens, count := s.count + 1, allowed }

/-- Puts a token after the first `number` ones. -/
def insert (s : Scan) (number : Nat) (t : Token) : Scan :=
  { s with tokens := s.tokens.insertIdx (s.count - number) t, count := s.count + 1 }

/-! ### Indentation -/

/-- Ends the collections that are indented further than a column allows. -/
def dedentTo (s : Scan) (isInner : Nat → Bool) : Scan :=
  if s.inBrackets then s
  else
    let ended := s.indents.takeWhile isInner
    { s with
      tokens := ended.map (fun _ => Token.dedent) ++ s.tokens
      count := ended.length + s.count
      indents := s.indents.dropWhile isInner }

/-- Starts a collection at a column, unless one is open there; its first token is that after the
first `number` ones. -/
def indentTo (s : Scan) (number column : Nat) (c : Collection) : Scan :=
  if s.inBrackets || column < s.indent then s
  else { s.insert number (.indent c) with indents := column :: s.indents }

/-! ### Candidates -/

/-- Gives up the candidate, which must not be a required one. -/
def giveUp? (s : Scan) : Option Scan :=
  match s.candidate with
  | some k => if k.required then none else some { s with candidate := none }
  | none => some s

/-- Gives up the candidate if it cannot reach a place: a key stays on its line and has at most 1024
characters. -/
def reach? (s : Scan) (p : Point) : Option Scan :=
  match s.candidate with
  | some k => if k.line = p.line ∧ p.column ≤ k.column + 1024 then some s else s.giveUp?
  | none => some s

/-- Makes the token at a place a candidate, if it may start a key. -/
def offer? (s : Scan) (p : Point) : Option Scan := do
  if s.allowed then
    let s ← s.giveUp?
    let required := !s.inBrackets && s.indents.head? == some p.column
    some { s with candidate := some ⟨s.count, required, p.line, p.column⟩ }
  else some s

/-! ### Tokens of one character -/

/-- A mark of the start or end of a document. -/
def mark? (s : Scan) (t : Token) : Option Scan := do
  let s ← (s.dedentTo fun _ => true).giveUp?
  some (s.push t false)

/-- A bracket that starts a collection. -/
def opening? (s : Scan) (p : Point) (c : Collection) : Option Scan := do
  let s ← s.offer? p
  some ({ s with candidate := none, outer := s.candidate :: s.outer }.push (.opening c) true)

/-- A bracket that ends a collection. -/
def closing? (s : Scan) (c : Collection) : Option Scan := do
  let s ← s.giveUp?
  let s := match s.outer with
    | [] => s
    | k :: ks => { s with candidate := k, outer := ks }
  some (s.push (.closing c) false)

def comma? (s : Scan) : Option Scan := do
  let s ← s.giveUp?
  some (s.push .comma true)

/-- A dash or question mark, which outside brackets may only stand where a key may start. -/
def lead? (s : Scan) (p : Point) (c : Collection) (t : Token) (allowed : Bool) : Option Scan := do
  if s.inBrackets || s.allowed then
    let s ← (s.indentTo s.count p.column c).giveUp?
    some (s.push t allowed)
  else none

/-- A colon: the candidate, if there is one, is a key. -/
def colon? (s : Scan) (p : Point) : Option Scan :=
  match s.candidate with
  | some k =>
    let s := (s.insert k.number .key).indentTo k.number k.column .mapping
    some ({ s with candidate := none }.push .colon false)
  | none =>
    if s.inBrackets then some (s.push .colon false)
    else if s.allowed then some ((s.indentTo s.count p.column .mapping).push .colon true)
    else none

end Scan

/-! ### The tokens of a text -/

/-- What is being read. -/
inductive Mode where
  | between
  | comment
  /-- The rest of a mark of the start or end of a document. -/
  | mark (left : Nat)
  | plain (d : Draft)
  | single (d : Draft) (isSecond : Bool)
  | double (d : Draft) (e : Escape)

/-- Whether a plain scalar can start here. -/
def startsPlain (flow : Bool) (p : Point) (ps : List Point) : Bool :=
  let c := p.char
  if c == '-' then !isGap ps
  else if c == '?' || c == ':' then !flow && !isGap ps
  else !(isBlank c || isFlowMark c || c == '#' || c == '&' || c == '*' || c == '!' || c == '|' ||
    c == '>' || c == '\'' || c == '"' || c == '%' || c == '@' || c.toNat == 0x60)

/-- Reads the character with which a token starts. -/
def startToken? (s : Scan) (p : Point) (ps : List Point) : Option (Scan × Mode) := do
  let s ← s.reach? p
  let s := s.dedentTo (p.column < ·)
  let c := p.char
  let leads := s.inBrackets || isGap ps
  if isMark (p :: ps) then
    some (← s.mark? (if c = '-' then .documentStart else .documentEnd), .mark 2)
  else if c = '[' then some (← s.opening? p .sequence, .between)
  else if c = '\x7b' then some (← s.opening? p .mapping, .between)
  else if c = ']' then some (← s.closing? .sequence, .between)
  else if c = '\x7d' then some (← s.closing? .mapping, .between)
  else if c = ',' then some (← s.comma?, .between)
  else if c = '-' ∧ isGap ps then some (← s.lead? p .sequence .dash true, .between)
  else if c = '?' ∧ leads then some (← s.lead? p .mapping .key !s.inBrackets, .between)
  else if c = ':' ∧ leads then some (← s.colon? p, .between)
  else
    let s := { ← s.offer? p with allowed := false }
    if c = '\'' then some (s, .single .empty false)
    else if c = '"' then some (s, .double .empty .none)
    else if startsPlain s.inBrackets p ps then some (s, .plain (Draft.empty.push c))
    else none

/-- One character further between two tokens. A tab is not part of the indentation. A line break
outside brackets makes room for a key. -/
def between? (s : Scan) (p : Point) (ps : List Point) : Option (Scan × Mode) :=
  let c := p.char
  if c = ' ' ∨ (c = '\t' ∧ (s.inBrackets ∨ !s.allowed)) then some (s, .between)
  else if p.column = 0 ∧ isByteOrderMark c then some (s, .between)
  else if c = '#' then some (s, .comment)
  else if isBreak c then some ({ s with allowed := s.allowed || !s.inBrackets }, .between)
  else startToken? s p ps

/-- The tokens with a plain scalar that is complete. After a line break, a key may follow it. -/
def Scan.plain (s : Scan) (d : Draft) : Scan := s.push (.scalar (.plain d.text)) d.gap.isBroken

/-- The tokens with a quoted scalar that is complete. -/
def Scan.quoted (s : Scan) (d : Draft) : Scan := s.push (.scalar (.quoted d.wholeText)) false

/-- One character further. -/
def scanStep? (s : Scan) (m : Mode) (p : Point) (ps : List Point) : Option (Scan × Mode) := do
  match m with
  | .between => between? s p ps
  | .comment => if isBreak p.char then between? s p ps else some (s, .comment)
  | .mark left => some (s, if left ≤ 1 then .between else .mark (left - 1))
  | .plain d =>
    match ← plainStep? s.inBrackets s.indent d p ps with
    | some d => some (s, .plain d)
    | none => between? (s.plain d) p ps
  | .single d isSecond =>
    match ← singleStep? d isSecond p ps with
    | some (d, isSecond) => some (s, .single d isSecond)
    | none => some (s.quoted d, .between)
  | .double d e =>
    match ← doubleStep? d e p ps with
    | some (d, e) => some (s, .double d e)
    | none => some (s.quoted d, .between)

/-- The tokens that the rest of a text completes. -/
def scan? (s : Scan) (m : Mode) : List Point → Option (Scan × Mode)
  | [] => some (s, m)
  | p :: ps => do
    let (s, m) ← scanStep? s m p ps
    scan? s m ps

/-- The tokens at the end of a text, where everything that is indented ends. -/
def Scan.finish? (s : Scan) : Mode → Option (List Token)
  | .plain d => finished (s.plain d)
  | .single _ _ => none
  | .double _ _ => none
  | _ => finished s
where
  finished (s : Scan) : Option (List Token) :=
    ((s.dedentTo fun _ => true).giveUp?).map (·.tokens.reverse)

/-- The tokens of a text. -/
def tokens? (text : String) : Option (List Token) := do
  let (s, m) ← scan? .empty .between (← points? text)
  s.finish? m

end Bazaar.Yaml
