import Bazaar.Json.Reader
import Bazaar.Json.Writer
import Bazaar.Proofs.Except
import Bazaar.Proofs.Json.Words

/-!
JSON values are read as they were written. The reader is followed over a text token by token; a
number or name is complete only with the character behind it, so a text is read up to the word at
its end (`Reader.Reads`). Main statement: a value whose doubles are read back one by one is read
back as a whole, if it does not nest too deep (`parseWithin?_render`).
-/

namespace Bazaar

namespace Json

/-! ### What a value has in it -/

mutual

/-- Whether every part of a value has a value, with integers in the range of 64 bits. -/
def isProper : Json → Bool
  | .int n => IntRange n
  | .array items => areProper items
  | .object members => areProperMembers members
  | .invalid => false
  | _ => true

def areProper : List Json → Bool
  | [] => true
  | v :: vs => v.isProper && areProper vs

def areProperMembers : List (String × Json) → Bool
  | [] => true
  | (_, v) :: ms => v.isProper && areProperMembers ms

end

mutual

/-- The doubles in a value. -/
def doubles : Json → List Double
  | .double d => [d]
  | .array items => doublesOfItems items
  | .object members => doublesOfMembers members
  | _ => []

def doublesOfItems : List Json → List Double
  | [] => []
  | v :: vs => v.doubles ++ doublesOfItems vs

def doublesOfMembers : List (String × Json) → List Double
  | [] => []
  | (_, v) :: ms => v.doubles ++ doublesOfMembers ms

end

mutual

/-- How many arrays and objects stand in one another. -/
def depth : Json → Nat
  | .array items => depthOfItems items + 1
  | .object members => depthOfMembers members + 1
  | _ => 0

def depthOfItems : List Json → Nat
  | [] => 0
  | v :: vs => max v.depth (depthOfItems vs)

def depthOfMembers : List (String × Json) → Nat
  | [] => 0
  | (_, v) :: ms => max v.depth (depthOfMembers ms)

end

end Json

/-- **A double is read back** from its text. -/
def Double.IsReadBack (d : Double) : Prop := Json.parse? (Json.double d).render = some (.double d)

namespace Json

/-- Whether what was read is a given double. -/
def isDouble (d : Double) : Option Json → Bool
  | some (.double e) => d = e
  | _ => false

theorem isDouble_iff {d : Double} {v : Option Json} : isDouble d v ↔ v = some (.double d) := by
  unfold isDouble
  split <;> simp_all [eq_comm]

instance (d : Double) : Decidable d.IsReadBack := decidable_of_iff _ isDouble_iff

/-! ### Single characters -/

namespace Token

theorem ne_of_isWord {c d : Char} (hc : isWord c = true) (hd : isWord d = false) : c ≠ d := by
  rintro rfl
  rw [hc] at hd
  cases hd

theorem start?_of_isWord {c : Char} (h : isWord c = true) : start? c = some (.word [c], []) := by
  have hspace : ¬ (c = ' ' ∨ c = '\n' ∨ c = '\t' ∨ c = '\r') := by
    rintro (rfl | rfl | rfl | rfl) <;> cases h
  unfold start?
  rw [if_neg hspace]
  iterate 7 rw [if_neg (ne_of_isWord h rfl)]
  exact if_pos h

end Token

namespace Reader

open Token (Mode Piece)

variable {limit : Nat} {s s' s'' : State} {c : Char} {cs ds : List Char}

theorem feed?_eq {m m' : Mode} {ts : List Token} (h : Token.step? m c = some (m', ts)) :
    feed? limit (m, s) c = (ts.foldlM (step? limit) s).map fun s' => (m', s') := by
  rw [feed?, h]
  cases hs : ts.foldlM (step? limit) s <;> simp [hs]

/-- A word is read on. -/
theorem foldlM_word {w : List Char} (hcs : ∀ c ∈ cs, Token.isWord c = true) :
    cs.foldlM (feed? limit) (.word w, s) = some (.word (cs.reverse ++ w), s) := by
  induction cs generalizing w with
  | nil => rfl
  | cons c cs ih =>
    have hstep : Token.step? (.word w) c = some (.word (c :: w), []) :=
      if_pos (hcs c List.mem_cons_self)
    rw [List.foldlM_cons, feed?_eq hstep]
    change cs.foldlM (feed? limit) (.word (c :: w), s) = _
    rw [ih fun d hd => hcs d (List.mem_cons_of_mem _ hd), List.reverse_cons, List.append_assoc]
    rfl

theorem foldlM_start (h : ∀ d ∈ c :: cs, Token.isWord d = true) :
    (c :: cs).foldlM (feed? limit) (.between, s) = some (.word (c :: cs).reverse, s) := by
  have hstart : Token.step? .between c = some (.word [c], []) :=
    Token.start?_of_isWord (h c List.mem_cons_self)
  rw [List.foldlM_cons, feed?_eq hstart]
  change cs.foldlM (feed? limit) (.word [c], s) = _
  rw [foldlM_word fun d hd => h d (List.mem_cons_of_mem _ hd), List.reverse_cons]

/-! ### Strings -/

theorem hexDigit?_digitChar : ∀ n < 16, Text.hexDigit? (Nat.digitChar n) = some n := by decide

/-- A control is read back from its number. -/
theorem foldlM_hexByte (hc : c.toNat < 32) (ps : List Piece) :
    (hexByte c.toNat).foldlM (feed? limit) (.code ps 0 2, s) =
      some (.string (.char c :: ps), s) := by
  have hhigh := hexDigit?_digitChar (c.toNat / 16 % 16) (by omega)
  have hlow := hexDigit?_digitChar (c.toNat % 16) (by omega)
  have hnumber : 16 * (c.toNat / 16 % 16) + c.toNat % 16 = c.toNat := by omega
  have hpiece : Piece.ofNumber c.toNat = .char c := by
    rw [Piece.ofNumber, if_neg (by omega), Char.ofNat_toNat]
  simp [hexByte, feed?, Token.step?, hhigh, hlow, hnumber, hpiece]

/-- **A character in a string is read back**, escaped or not. -/
theorem foldlM_escape (c : Char) (ps : List Piece) :
    (escape c).foldlM (feed? limit) (.string ps, s) = some (.string (.char c :: ps), s) := by
  unfold escape
  -- the characters that have an escape of their own
  iterate 7
    split
    · rename_i hc
      rw [hc]
      rfl
  rename_i hquote hbackslash _ _ _ _ _
  split
  · rename_i hc
    exact foldlM_hexByte hc ps
  · rename_i hc
    have hstep : Token.step? (.string ps) c = some (.string (.char c :: ps), []) := by
      rw [Token.step?, if_neg hquote, if_neg hbackslash, if_neg hc]
    rw [List.foldlM_cons, feed?_eq hstep]
    rfl

theorem foldlM_characters (cs : List Char) (ps : List Piece) :
    (cs.flatMap escape).foldlM (feed? limit) (.string ps, s) =
      some (.string ((cs.map .char).reverse ++ ps), s) := by
  induction cs generalizing ps with
  | nil => rfl
  | cons c cs ih =>
    rw [List.flatMap_cons, List.foldlM_append, foldlM_escape]
    change (cs.flatMap escape).foldlM (feed? limit) (.string (.char c :: ps), s) = _
    rw [ih, List.map_cons, List.reverse_cons, List.append_assoc]
    rfl

theorem joined?_map_char (cs : List Char) : Token.joined? (cs.map .char) = some cs := by
  induction cs with
  | nil => rfl
  | cons c cs ih => rw [List.map_cons, Token.joined?, ih, Option.map_some]

/-- **A string is read back**, as one token. -/
theorem foldlM_quote (t : String) : (quote t).toList.foldlM (feed? limit) (.between, s) =
    (step? limit s (.string (some t))).map fun s' => (.between, s') := by
  have hclose : Token.step? (.string ((t.toList.map .char).reverse ++ [])) '"' =
      some (.between, [.string (some t)]) := by
    rw [Token.step?, if_pos rfl, List.append_nil, List.reverse_reverse, joined?_map_char,
      Option.map_some, String.ofList_toList]
  rw [quote, String.toList_ofList, List.cons_append, List.foldlM_cons]
  change (t.toList.flatMap escape ++ ['"']).foldlM (feed? limit) (.string [], s) = _
  rw [List.foldlM_append, foldlM_characters]
  change ['"'].foldlM (feed? limit) _ = _
  rw [List.foldlM_cons, feed?_eq hclose, List.foldlM_cons]
  cases step? limit s (.string (some t)) <;> rfl

/-! ### Reading up to the word at the end -/

/-- **What is left to be done is as if a state were reached**: the text has ended in a word that is
complete with any other character and at the end, or is complete already. -/
structure Settles (limit : Nat) (st : Mode × State) (s : State) : Prop where
  feed : ∀ c, Token.isWord c = false → feed? limit st c = feed? limit (.between, s) c
  finish : finish? limit st = finish? limit (.between, s)

theorem Settles.between (limit : Nat) (s : State) : Settles limit (.between, s) s :=
  ⟨fun _ _ => rfl, rfl⟩

theorem Settles.word {w : List Char} {v : Json} (hv : Token.word? w.reverse = some v)
    (hs : step? limit s (.value v) = some s') : Settles limit (.word w, s) s' where
  feed c hc := by
    -- the word is complete before what the character starts
    have hword : Token.step? (.word w) c =
        (Token.start? c).map fun r => (r.1, .value v :: r.2) := by
      simp only [Token.step?, hc, hv]
      cases Token.start? c <;> rfl
    cases hstart : Token.start? c with
    | none =>
      rw [hstart] at hword
      rw [feed?, feed?, hword, Token.step?, hstart]
      rfl
    | some r =>
      rw [hstart] at hword
      have hbetween : Token.step? .between c = some (r.1, r.2) := hstart
      rw [feed?_eq hword, feed?_eq hbetween, List.foldlM_cons, hs]
      rfl
  finish := by simp [finish?, Token.finish?, hv, hs]

/-- **A text is read** from one state to another, up to the word at its end. -/
def Reads (limit : Nat) (s : State) (cs : List Char) (s' : State) : Prop :=
  ∃ st, cs.foldlM (feed? limit) (.between, s) = some st ∧ Settles limit st s'

namespace Reads

theorem nil (limit : Nat) (s : State) : Reads limit s [] s := ⟨_, rfl, .between limit s⟩

theorem word {t : String} {v : Json} (ht : IsWord t) (hv : Token.word? t.toList = some v)
    (hs : step? limit s (.value v) = some s') : Reads limit s t.toList s' := by
  unfold IsWord at ht
  cases ht' : t.toList with
  | nil =>
    rw [ht'] at hv
    cases hv
  | cons c cs =>
    rw [ht'] at ht hv
    exact ⟨_, foldlM_start ht, .word (by rw [List.reverse_reverse, hv]) hs⟩

/-- A text in front of one that does not go on with its last word. -/
theorem append (h : Reads limit s cs s') (hds : ∀ c ∈ ds.head?, Token.isWord c = false)
    (h' : Reads limit s' ds s'') : Reads limit s (cs ++ ds) s'' := by
  obtain ⟨st, hst, hsettles⟩ := h
  cases ds with
  | nil =>
    obtain ⟨st', hst', hsettles'⟩ := h'
    cases hst'
    rw [List.append_nil]
    exact ⟨st, hst, fun c hc => (hsettles.feed c hc).trans (hsettles'.feed c hc),
      hsettles.finish.trans hsettles'.finish⟩
  | cons c ds =>
    obtain ⟨st', hst', hsettles'⟩ := h'
    refine ⟨st', ?_, hsettles'⟩
    rw [List.foldlM_append, hst]
    change (c :: ds).foldlM (feed? limit) st = _
    rw [List.foldlM_cons, hsettles.feed c (hds c rfl), ← List.foldlM_cons, hst']

/-- A bracket, comma or colon in front of a text. -/
theorem token {t : Token} (hc : Token.start? c = some (.between, [t]))
    (hs : step? limit s t = some s') (h : Reads limit s' cs s'') : Reads limit s (c :: cs) s'' := by
  obtain ⟨st, hst, hsettles⟩ := h
  refine ⟨st, ?_, hsettles⟩
  have hstep : Token.step? .between c = some (.between, [t]) := hc
  rw [List.foldlM_cons, feed?_eq hstep, List.foldlM_cons, hs]
  exact hst

/-- A string in front of a text. -/
theorem quote {t : String} (hs : step? limit s (.string (some t)) = some s')
    (h : Reads limit s' cs s'') : Reads limit s ((quote t).toList ++ cs) s'' := by
  obtain ⟨st, hst, hsettles⟩ := h
  refine ⟨st, ?_, hsettles⟩
  rw [List.foldlM_append, foldlM_quote, hs]
  exact hst

/-- A member in front of what does not go on with the last word of its value. -/
theorem member {k : String} {v : Json} {members : List Member} {around : List Frame}
    (hname : step? limit s (.string (some k)) = some (.colon members (some k) around))
    (hv : Reads limit (.value (.object members (some k) :: around)) v.render.toList s')
    (hds : ∀ c ∈ ds.head?, Token.isWord c = false) (h : Reads limit s' ds s'') :
    Reads limit s ((Json.quote k ++ ":" ++ v.render).toList ++ ds) s'' := by
  have hcolon : Reads limit (.colon members (some k) around) (':' :: (v.render.toList ++ ds)) s'' :=
    .token rfl rfl (hv.append hds h)
  rw [String.toList_append, String.toList_append, List.append_assoc, List.append_assoc]
  exact .quote hname hcolon

end Reads

/-! ### Texts of one word -/

/-- **A text of one word is read as that word.** -/
theorem parseWithin?_word {t : String} (h : IsWord t) :
    parseWithin? limit t = Token.word? t.toList := by
  unfold parseWithin?
  unfold IsWord at h
  cases hcs : t.toList with
  | nil => rfl
  | cons c cs =>
    rw [hcs] at h
    rw [foldlM_start h, Option.bind_some, finish?, Token.finish?, List.reverse_reverse]
    cases Token.word? (c :: cs) <;> rfl

theorem word?_of_isReadBack {d : Double} (h : d.IsReadBack) :
    Token.word? (Json.double d).render.toList = some (.double d) :=
  (parseWithin?_word (Double.Layout.isWord_render (by decide) d)).symm.trans h

/-! ### Texts of arrays and objects -/

/-- What stands behind the first of the items or members of a value, if `ts` are the texts of the
others. -/
def tail (ts : List String) (close : Char) : List Char :=
  ts.flatMap (fun t => ',' :: t.toList) ++ [close]

theorem tail_cons (t : String) (ts : List String) (close : Char) :
    tail (t :: ts) close = ',' :: (t.toList ++ tail ts close) := by
  rw [tail, List.flatMap_cons, List.append_assoc]
  rfl

theorem not_isWord_head?_tail (close : Char) (h : Token.isWord close = false)
    (ts : List String) : ∀ c ∈ (tail ts close).head?, Token.isWord c = false := by
  intro c hc
  cases ts with
  | nil =>
    cases hc
    exact h
  | cons t ts =>
    cases hc
    decide

theorem toList_intercalate (t : String) (ts : List String) (close : Char) :
    (",".intercalate (t :: ts)).toList ++ [close] = t.toList ++ tail ts close := by
  induction ts generalizing t with
  | nil => simp [tail]
  | cons u ts ih =>
    rw [String.intercalate_cons_cons, String.toList_append, String.toList_append,
      List.append_assoc, ih, List.append_assoc, tail_cons]
    rfl

/-- The text of an array or object that is not empty. -/
theorem toList_between {before after : String} {b c : Char} (hb : before.toList = [b])
    (hc : after.toList = [c]) (t : String) (ts : List String) :
    (before ++ ",".intercalate (t :: ts) ++ after).toList = b :: (t.toList ++ tail ts c) := by
  rw [String.toList_append, String.toList_append, hb, hc, List.append_assoc, toList_intercalate]
  rfl

theorem close_of_lt {v : Json} {around : List Frame} (h : around.length < limit) :
    close limit v around = deliver v around := by
  rw [close, if_pos]
  rw [List.length_take]
  omega

/-- Members that have a name, as they are read: last first. -/
def named (ms : List (String × Json)) : List Member := (ms.map fun m => (some m.1, m.2)).reverse

theorem object_named (ms : List (String × Json)) : object (named ms) = .object ms := by
  have hnames := mapM_map_eq_pure (m := Option) (f := fun m : String × Json => (some m.1, m.2))
    (g := fun m => m.1.map fun name => (name, m.2)) (h := id) (fun _ => rfl) ms
  rw [List.map_id] at hnames
  rw [object, named, List.reverse_reverse, hnames]
  rfl

theorem named_append_singleton (ms : List (String × Json)) (k : String) (v : Json) :
    named (ms ++ [(k, v)]) = (some k, v) :: named ms := by
  rw [named, List.map_append, List.reverse_append]
  rfl

/-! ### Values -/

/-- Whether the next token begins a value inside of what is open. -/
def Expects (limit : Nat) (s : State) (around : List Frame) : Prop :=
  ∀ t s', begin? around t = some s' → step? limit s t = some s'

theorem expects_value (limit : Nat) (around : List Frame) :
    Expects limit (.value around) around := fun _ _ h => h

/-- The first item of an array is a value: its end begins none. -/
theorem expects_first (limit : Nat) (around : List Frame) :
    Expects limit (.first around) (.array [] :: around) := by
  intro t s' h
  cases t with
  | endArray => cases h
  | _ => exact h

mutual

/-- **A value is read** where one is expected, and put where it belongs. -/
theorem reads_render : ∀ {v : Json} {s : State} {around : List Frame}, v.isProper = true →
    (∀ d ∈ v.doubles, d.IsReadBack) → v.depth + around.length ≤ limit → Expects limit s around →
    Reads limit s v.render.toList (deliver v around)
  | .null, _, _, _, _, _, he => .word (show IsWord "null" by decide) rfl (he _ _ rfl)
  | .bool true, _, _, _, _, _, he => .word (show IsWord "true" by decide) rfl (he _ _ rfl)
  | .bool false, _, _, _, _, _, he => .word (show IsWord "false" by decide) rfl (he _ _ rfl)
  | .int n, _, around, hp, _, _, he =>
    .word (isWord_intRepr n) (word?_toString (of_decide_eq_true hp)) (he _ _ rfl)
  | .double d, _, around, _, hd, _, he =>
    .word (Double.Layout.isWord_render (by decide) d)
      (word?_of_isReadBack (hd d (List.mem_singleton_self d))) (he _ _ rfl)
  | .text t, _, around, _, _, _, he => by
    have hread := Reads.quote (he (.string (some t)) _ rfl) (.nil limit _)
    rwa [List.append_nil] at hread
  | .array [], _, around, _, _, hdepth, he => by
    have hclose : step? limit (.first around) .endArray = some (deliver (.array []) around) := by
      rw [step?, close_of_lt (by simp [depth] at hdepth; omega)]
    exact .token rfl (he .beginArray _ rfl) (.token rfl hclose (.nil limit _))
  | .array (v :: vs), _, around, hp, hd, hdepth, he => by
    obtain ⟨hv, hvs⟩ := Bool.and_eq_true_iff.1 hp
    obtain ⟨hdv, hdvs⟩ := List.forall_mem_append.1 hd
    simp only [depth, depthOfItems] at hdepth
    have hfirst := reads_render hv hdv (by simp; omega) (expects_first limit around)
    have hrest : Reads limit (.item [v] around) (tail (renderItems vs) ']')
        (deliver (.array (v :: vs)) around) := reads_items [v] hvs hdvs (by omega)
    have htext : (Json.array (v :: vs)).render.toList =
        '[' :: (v.render.toList ++ tail (renderItems vs) ']') := toList_between rfl rfl _ _
    rw [htext]
    exact .token rfl (he .beginArray _ rfl) (hfirst.append (not_isWord_head?_tail ']' rfl _) hrest)
  | .object [], _, around, _, _, hdepth, he => by
    have hclose : step? limit (.name [] around) .endObject =
        some (deliver (.object []) around) := by
      rw [step?, close_of_lt (by simp [depth] at hdepth; omega)]
    exact .token rfl (he .beginObject _ rfl) (.token rfl hclose (.nil limit _))
  | .object ((k, v) :: ms), _, around, hp, hd, hdepth, he => by
    obtain ⟨hv, hms⟩ := Bool.and_eq_true_iff.1 hp
    obtain ⟨hdv, hdms⟩ := List.forall_mem_append.1 hd
    simp only [depth, depthOfMembers] at hdepth
    have hfirst := reads_render hv hdv (by simp; omega)
      (expects_value limit (.object [] (some k) :: around))
    have hrest : Reads limit (.member [(some k, v)] around) (tail (renderMembers ms) '\x7d')
        (deliver (.object ((k, v) :: ms)) around) :=
      reads_members [(k, v)] hms hdms (by omega) (by simp)
    have hname : step? limit (.name [] around) (.string (some k)) =
        some (.colon [] (some k) around) := rfl
    have hmembers := Reads.member hname hfirst (not_isWord_head?_tail '\x7d' rfl _) hrest
    have htext : (Json.object ((k, v) :: ms)).render.toList =
        '\x7b' :: ((Json.quote k ++ ":" ++ v.render).toList ++ tail (renderMembers ms) '\x7d') :=
      toList_between rfl rfl _ _
    rw [htext]
    exact .token rfl (he .beginObject _ rfl) hmembers
  | .invalid, _, _, hp, _, _, _ => absurd hp Bool.false_ne_true

/-- The other items of an array are read, and its end. -/
theorem reads_items : ∀ (items : List Json) {vs : List Json} {around : List Frame},
    areProper vs = true → (∀ d ∈ doublesOfItems vs, d.IsReadBack) →
    depthOfItems vs + (around.length + 1) ≤ limit →
    Reads limit (.item items.reverse around) (tail (renderItems vs) ']')
      (deliver (.array (items ++ vs)) around)
  | items, [], around, _, _, hdepth => by
    have hclose : step? limit (.item items.reverse around) .endArray =
        some (deliver (.array (items ++ [])) around) := by
      rw [step?, close_of_lt (by omega), List.reverse_reverse, List.append_nil]
    exact .token rfl hclose (.nil limit _)
  | items, v :: vs, around, hp, hd, hdepth => by
    obtain ⟨hv, hvs⟩ := Bool.and_eq_true_iff.1 hp
    obtain ⟨hdv, hdvs⟩ := List.forall_mem_append.1 hd
    rw [depthOfItems] at hdepth
    have hfirst := reads_render hv hdv (by simp; omega)
      (expects_value limit (.array items.reverse :: around))
    have hrest : Reads limit (.item (items ++ [v]).reverse around) (tail (renderItems vs) ']')
        (deliver (.array (items ++ [v] ++ vs)) around) :=
      reads_items (items ++ [v]) hvs hdvs (by omega)
    rw [List.reverse_append, List.append_assoc] at hrest
    rw [renderItems, tail_cons]
    exact .token rfl rfl (hfirst.append (not_isWord_head?_tail ']' rfl _) hrest)

/-- The other members of an object are read, and its end. -/
theorem reads_members : ∀ (done : List (String × Json)) {ms : List (String × Json)}
    {around : List Frame},
    areProperMembers ms = true → (∀ d ∈ doublesOfMembers ms, d.IsReadBack) →
    depthOfMembers ms + (around.length + 1) ≤ limit → done ≠ [] →
    Reads limit (.member (named done) around) (tail (renderMembers ms) '\x7d')
      (deliver (.object (done ++ ms)) around)
  | done, [], around, _, _, hdepth, _ => by
    have hclose : step? limit (.member (named done) around) .endObject =
        some (deliver (.object (done ++ [])) around) := by
      rw [step?, close_of_lt (by omega), object_named, List.append_nil]
    exact .token rfl hclose (.nil limit _)
  | done, (k, v) :: ms, around, hp, hd, hdepth, hne => by
    obtain ⟨hv, hms⟩ := Bool.and_eq_true_iff.1 hp
    obtain ⟨hdv, hdms⟩ := List.forall_mem_append.1 hd
    rw [depthOfMembers] at hdepth
    -- a comma is taken only behind a member
    have hnamed : named done ≠ [] := by simp [named, hne]
    have hcomma : step? limit (.member (named done) around) .comma =
        some (.name (named done) around) := by
      obtain ⟨m, rest, hm⟩ := List.exists_cons_of_ne_nil hnamed
      rw [hm]
      rfl
    have hname : step? limit (.name (named done) around) (.string (some k)) =
        some (.colon (named done) (some k) around) := by
      cases named done <;> rfl
    have hfirst := reads_render hv hdv (by simp; omega)
      (expects_value limit (.object (named done) (some k) :: around))
    have hrest : Reads limit (.member (named (done ++ [(k, v)])) around)
        (tail (renderMembers ms) '\x7d') (deliver (.object (done ++ [(k, v)] ++ ms)) around) :=
      reads_members (done ++ [(k, v)]) hms hdms (by omega) (by simp)
    rw [named_append_singleton, List.append_assoc] at hrest
    rw [renderMembers, tail_cons]
    exact .token rfl hcomma (.member hname hfirst (not_isWord_head?_tail '\x7d' rfl _) hrest)

end

end Reader

/-- **A value is read as it was written**, if its doubles are read back one by one and it does not
nest deeper than the reader allows. -/
theorem parseWithin?_render {limit : Nat} {v : Json} (hp : v.isProper = true)
    (hd : ∀ d ∈ v.doubles, d.IsReadBack) (hdepth : v.depth ≤ limit) :
    parseWithin? limit v.render = some v := by
  obtain ⟨st, hst, hsettles⟩ := Reader.reads_render hp hd hdepth (Reader.expects_value limit [])
  rw [parseWithin?, hst, Option.bind_some, hsettles.finish]
  rfl

/-! ### Values that are kept -/

mutual

theorem isValid_of_isProper : ∀ {v : Json}, v.isProper = true → v.isValid = true
  | .null, _ | .bool _, _ | .int _, _ | .double _, _ | .text _, _ => rfl
  | .array _, h => areValid_of_areProper h
  | .object _, h => areValidMembers_of_areProperMembers h
  | .invalid, h => h

theorem areValid_of_areProper : ∀ {vs : List Json}, areProper vs = true → areValid vs = true
  | [], _ => rfl
  | _ :: _, h => by
    obtain ⟨hv, hvs⟩ := Bool.and_eq_true_iff.1 h
    exact Bool.and_eq_true_iff.2 ⟨isValid_of_isProper hv, areValid_of_areProper hvs⟩

theorem areValidMembers_of_areProperMembers :
    ∀ {ms : List (String × Json)}, areProperMembers ms = true → areValidMembers ms = true
  | [], _ => rfl
  | (_, _) :: _, h => by
    obtain ⟨hv, hms⟩ := Bool.and_eq_true_iff.1 h
    exact Bool.and_eq_true_iff.2 ⟨isValid_of_isProper hv, areValidMembers_of_areProperMembers hms⟩

end

mutual

theorem isProper_of_isCanonical : ∀ {v : Json}, v.isCanonical = true → v.isProper = true
  | .null, _ | .bool _, _ | .double _, _ | .text _, _ => rfl
  | .int _, h => h
  | .array _, h => areProper_of_areCanonical h
  | .object _, h => areProperMembers_of_areCanonicalMembers (Bool.and_eq_true_iff.1 h).2
  | .invalid, h => h

theorem areProper_of_areCanonical :
    ∀ {vs : List Json}, areCanonical vs = true → areProper vs = true
  | [], _ => rfl
  | _ :: _, h => by
    obtain ⟨hv, hvs⟩ := Bool.and_eq_true_iff.1 h
    exact Bool.and_eq_true_iff.2 ⟨isProper_of_isCanonical hv, areProper_of_areCanonical hvs⟩

theorem areProperMembers_of_areCanonicalMembers :
    ∀ {ms : List (String × Json)}, areCanonicalMembers ms = true → areProperMembers ms = true
  | [], _ => rfl
  | (_, _) :: _, h => by
    obtain ⟨hv, hms⟩ := Bool.and_eq_true_iff.1 h
    exact Bool.and_eq_true_iff.2
      ⟨isProper_of_isCanonical hv, areProperMembers_of_areCanonicalMembers hms⟩

end

mutual

/-- **A canonical value stays as it is** when it is put in canonical order. -/
theorem canonical_eq_self : ∀ {v : Json}, v.isCanonical = true → v.canonical = v
  | .null, _ | .bool _, _ | .int _, _ | .double _, _ | .text _, _ | .invalid, _ => rfl
  | .array _, h => congrArg Json.array (canonicalItems_eq_self h)
  | .object members, h => by
    obtain ⟨hsorted, hmembers⟩ := Bool.and_eq_true_iff.1 h
    have hkept := SortedMap.ofList_entries ⟨members, of_decide_eq_true hsorted⟩
    rw [canonical, canonicalMembers_eq_self hmembers, hkept]

theorem canonicalItems_eq_self :
    ∀ {vs : List Json}, areCanonical vs = true → canonicalItems vs = vs
  | [], _ => rfl
  | _ :: _, h => by
    obtain ⟨hv, hvs⟩ := Bool.and_eq_true_iff.1 h
    rw [canonicalItems, canonical_eq_self hv, canonicalItems_eq_self hvs]

theorem canonicalMembers_eq_self :
    ∀ {ms : List (String × Json)}, areCanonicalMembers ms = true → canonicalMembers ms = ms
  | [], _ => rfl
  | (_, _) :: _, h => by
    obtain ⟨hv, hms⟩ := Bool.and_eq_true_iff.1 h
    rw [canonicalMembers, canonical_eq_self hv, canonicalMembers_eq_self hms]

end

end Json

end Bazaar
