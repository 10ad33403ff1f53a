import Bazaar.Proofs.Text
import Bazaar.Proofs.Wire.Field
import Bazaar.Wire.Content

/-!
What is written into the fields of a message is what is read from them. A field that may be left
out is read back by a start that holds its default, and a message within is read back if the
budget reaches as deep as it nests. Both together are `Reads`: with any budget, the fields of a
message are merged into what the message says if the budget is no less than the depth, and into
nothing otherwise.
-/

namespace Bazaar

/-- The double as it comes back from a field that is left out at zero: a zero has lost its
sign. -/
def Double.unsigned (d : Double) : Double := if d.isZero then .zero else d

namespace Wire

/-! ### Scalars -/

theorem text?_ofText (s : String) : (ofText s).text? = some s := Text.fromUTF8?_toByteArray s

theorem bool?_ofBool (b : Bool) : (ofBool b).bool? = some b := by cases b <;> rfl

theorem int?_ofInt (i : Int64) : (ofInt i).int? = some i := by
  simp [ofInt, Payload.int?]

/-- The lowest 32 bits of a code that was written with 64 are the code. -/
theorem toInt32_toUInt64 (c : Int32) : c.toInt64.toUInt64.toUInt32.toInt32 = c := by
  have hbits : c.toInt64.toUInt64.toUInt32.toInt32.toBitVec = c.toInt64.toBitVec.setWidth 32 :=
    UInt64.toBitVec_toUInt32 _
  have hint : c.toInt64.toBitVec.signExtend 32 = c.toBitVec :=
    congrArg Int32.toBitVec (Int32.toInt32_toInt64 c)
  refine Int32.toBitVec_inj.1 ?_
  rw [hbits, ← hint, BitVec.signExtend_eq_setWidth_of_le _ (by decide)]

theorem code?_ofCode (c : Int32) : (ofCode c).code? = some c := by
  rw [ofCode, ofInt, Payload.code?, toInt32_toUInt64]

/-! ### Lists -/

theorem readVarints?_write (ns : List UInt64) :
    readVarints? (ns.flatMap fun n => Varint.write n.toNat) = some ns := by
  induction ns with
  | nil =>
    rw [List.flatMap_nil, readVarints?]
    rfl
  | cons n ns ih =>
    have hr := Varint.read?_write n.toNat_lt (ns.flatMap fun n => Varint.write n.toNat)
    have hne := Varint.write_ne_nil n.toNat
    rw [List.flatMap_cons, readVarints?, if_neg (by simp [hne])]
    split
    · rename_i hn
      rw [hr] at hn
      cases hn
    · rename_i r h
      rw [hr] at h
      cases h
      simp [ih]

theorem readWords?_lowBytes (n : UInt64) (bs : List UInt8) :
    readWords? (lowBytes 8 n.toNat ++ bs) = (readWords? bs).map (n :: ·) := by
  have h : littleEndian (lowBytes 8 n.toNat) = n.toNat := littleEndian_lowBytes n.toNat_lt
  simp only [lowBytes] at h
  simp only [lowBytes, List.cons_append, List.nil_append, readWords?, h]
  simp

theorem readWords?_write (ns : List UInt64) :
    readWords? (ns.flatMap fun n => lowBytes 8 n.toNat) = some ns := by
  induction ns with
  | nil => rfl
  | cons n ns ih => rw [List.flatMap_cons, readWords?_lowBytes, ih, Option.map_some]

theorem doubles?_packWords (ds : List Double) :
    (packWords (ds.map Double.bits)).doubles? = some ds := by
  simp [packWords, Payload.doubles?, readWords?_write, Function.comp_def]

theorem ints?_packVarints (is : List Int64) :
    (packVarints (is.map Int64.toUInt64)).ints? = some is := by
  simp [packVarints, Payload.ints?, Payload.varints?, readVarints?_write, Function.comp_def]

theorem bools?_packVarints (bs : List Bool) :
    (packVarints (bs.map fun b => if b then 1 else 0)).bools? = some bs := by
  have h : ∀ b : Bool, ((if b then 1 else 0 : UInt64) != 0) = b := by decide
  simp [packVarints, Payload.bools?, Payload.varints?, readVarints?_write, Function.comp_def, h]

/-! ### Reading a message -/

/-- The depth of a message that holds messages of the given depths. -/
def deepest (depths : List Nat) : Nat := depths.foldr (fun d n => max (d + 1) n) 0

@[simp] theorem deepest_nil : deepest [] = 0 := rfl

@[simp] theorem deepest_cons (d : Nat) (ds : List Nat) :
    deepest (d :: ds) = max (d + 1) (deepest ds) := rfl

theorem deepest_le_iff {ds : List Nat} {n : Nat} : deepest ds ≤ n ↔ ∀ d ∈ ds, d < n := by
  induction ds with
  | nil => simp
  | cons d ds ih => simp only [deepest_cons, Nat.max_le, ih, List.forall_mem_cons, Nat.succ_le_iff]

/-- **Fields are read as a message**: merged into `start` they give `result` if the budget is at
least `depth`, and nothing otherwise. -/
structure Reads {α : Type} (step : Nat → α → Field → Option α) (start : α) (fs : List Field)
    (depth : Nat) (result : α) : Prop where
  plain : ArePlain fs
  fold : (writeFields fs).length < 2 ^ 64 → ∀ budget,
    fs.foldlM (step budget) start = if depth ≤ budget then some result else none

namespace Reads

variable {α : Type} {step : Nat → α → Field → Option α} {start middle result : α}
  {fs gs : List Field} {depth depth' : Nat}

theorem nil : Reads step start [] 0 start := ⟨arePlain_nil, fun _ _ => rfl⟩

theorem singleton {f : Field} (hf : f.IsPlain)
    (hstep : (writeFields [f]).length < 2 ^ 64 → ∀ budget,
      step budget start f = if depth ≤ budget then some result else none) :
    Reads step start [f] depth result where
  plain := by simpa using hf
  fold := by
    intro hs budget
    rw [List.foldlM_cons, hstep hs]
    cases (if depth ≤ budget then some result else none) <;> rfl

/-- Fields are read in turn, with the budget that the deeper of them asks for. -/
theorem append (h : Reads step start fs depth middle) (h' : Reads step middle gs depth' result) :
    Reads step start (fs ++ gs) (max depth depth') result where
  plain := arePlain_append.2 ⟨h.plain, h'.plain⟩
  fold := by
    intro hs budget
    rw [writeFields_append, List.length_append] at hs
    rw [List.foldlM_append, h.fold (by omega)]
    by_cases hd : depth ≤ budget
    · rw [if_pos hd]
      simp only [Option.bind_eq_bind, Option.bind_some, h'.fold (by omega), Nat.max_le, hd,
        true_and]
    · rw [if_neg hd, if_neg (by omega)]
      rfl

/-- Fields with no messages in them, and what comes after them. -/
theorem before (h : Reads step start fs 0 middle) (h' : Reads step middle gs depth result) :
    Reads step start (fs ++ gs) depth result := by
  have := h.append h'
  rwa [Nat.zero_max] at this

/-- Fields, and some with no messages in them after those. -/
theorem after (h : Reads step start fs depth middle) (h' : Reads step middle gs 0 result) :
    Reads step start (fs ++ gs) depth result := by
  have := h.append h'
  rwa [Nat.max_zero] at this

/-- The bytes of a message are read as the message. -/
theorem merge?_eq (h : Reads step start fs depth result) (hs : (writeFields fs).length < 2 ^ 64)
    (budget : Nat) :
    merge? budget (step budget) start (writeFields fs) =
      if depth ≤ budget then some result else none := by
  rw [merge?, readFields?_writeFields budget h.plain hs, Option.bind_some]
  exact h.fold hs budget

/-- A message within is read as the message, at the cost of one from the budget. -/
theorem mergeWithin?_eq (h : Reads step start fs depth result)
    (hs : (writeFields fs).length < 2 ^ 64) (number budget : Nat) :
    mergeWithin? budget step start (embed number fs).payload =
      if depth + 1 ≤ budget then some result else none := by
  cases budget with
  | zero => rfl
  | succ below =>
    rw [embed, mergeWithin?, h.merge?_eq hs]
    simp only [Nat.add_le_add_iff_right]

end Reads

/-! ### Scalars that may be left out -/

section Omitted

variable {α : Type} {step : Nat → α → Field → Option α} {a : α} {number : Nat}

theorem reads_scalar {p : Payload} {b : α} (hn : IsNumber number) (hp : p ≠ .group)
    (hstep : ∀ budget, step budget a ⟨number, p⟩ = some b) :
    Reads step a [⟨number, p⟩] 0 b := .singleton ⟨hn, hp⟩ fun _ budget => hstep budget

theorem reads_omitted {c : Prop} [Decidable c] {p : Payload} {b : α} (hn : IsNumber number)
    (hp : p ≠ .group) (hskip : c → b = a)
    (hstep : ¬ c → ∀ budget, step budget a ⟨number, p⟩ = some b) :
    Reads step a (if c then [] else [⟨number, p⟩]) 0 b := by
  split
  · rename_i h
    rw [hskip h]
    exact .nil
  · rename_i h
    exact reads_scalar hn hp (hstep h)

theorem reads_textField (g : String → α) (hn : IsNumber number) (hg : g "" = a)
    (hstep : ∀ budget s, step budget a ⟨number, ofText s⟩ = some (g s)) (s : String) :
    Reads step a (textField number s) 0 (g s) :=
  reads_omitted hn nofun (fun h => by rw [String.isEmpty_iff.1 h, hg])
    fun _ budget => hstep budget s

theorem reads_boolField (g : Bool → α) (hn : IsNumber number) (hg : g false = a)
    (hstep : ∀ budget b, step budget a ⟨number, ofBool b⟩ = some (g b)) (b : Bool) :
    Reads step a (boolField number b) 0 (g b) := by
  cases b with
  | false =>
    rw [hg]
    exact .nil
  | true => exact reads_scalar hn nofun fun budget => hstep budget true

theorem reads_intField (g : Int64 → α) (hn : IsNumber number) (hg : g 0 = a)
    (hstep : ∀ budget i, step budget a ⟨number, ofInt i⟩ = some (g i)) (i : Int64) :
    Reads step a (intField number i) 0 (g i) :=
  reads_omitted hn nofun (fun h => by rw [h, hg]) fun _ budget => hstep budget i

theorem reads_codeField (g : Int32 → α) (hn : IsNumber number) (hg : g 0 = a)
    (hstep : ∀ budget c, step budget a ⟨number, ofCode c⟩ = some (g c)) (c : Int32) :
    Reads step a (codeField number c) 0 (g c) :=
  reads_omitted hn nofun (fun h => by rw [h, hg]) fun _ budget => hstep budget c

theorem reads_doubleField (g : Double → α) (hn : IsNumber number) (hg : g .zero = a)
    (hstep : ∀ budget d, step budget a ⟨number, ofDouble d⟩ = some (g d)) (d : Double) :
    Reads step a (doubleField number d) 0 (g d.unsigned) := by
  refine reads_omitted hn nofun (fun h => ?_) fun h budget => ?_
  · rw [Double.unsigned, if_pos h, hg]
  · rw [Double.unsigned, if_neg h, hstep]

theorem reads_packedField {β : Type} {pack : List β → Payload} (g : List β → α)
    (hn : IsNumber number) (hp : ∀ bs, pack bs ≠ .group) (hg : g [] = a)
    (hstep : ∀ budget bs, step budget a ⟨number, pack bs⟩ = some (g bs)) (bs : List β) :
    Reads step a (packedField number pack bs) 0 (g bs) :=
  reads_omitted hn (hp bs) (fun h => by rw [List.isEmpty_iff.1 h, hg])
    fun _ budget => hstep budget bs

end Omitted

/-! ### Messages within -/

theorem map_if_some {α β : Type} {c : Prop} [Decidable c] (f : α → β) (a : α) :
    (if c then some a else none).map f = if c then some (f a) else none := by
  split <;> rfl

/-- A message within is shorter than the message around it. -/
theorem length_writeFields_le (number : Nat) (fs : List Field) :
    (writeFields fs).length ≤ (writeFields [embed number fs]).length := by
  rw [writeFields_cons, List.length_append]
  simp only [Field.write, embed, List.length_append]
  omega

section Within

variable {α β γ : Type} {step : Nat → α → Field → Option α} {inner : Nat → γ → Field → Option γ}
  {start : γ} {number : Nat}

/-- A field with a message within, if its step merges that message and makes `f` of it. -/
theorem reads_embed {fs : List Field} {depth : Nat} {a : α} {result : γ} (f : γ → α)
    (hn : IsNumber number)
    (hstep : ∀ budget, step budget a (embed number fs) =
      (mergeWithin? budget inner start (embed number fs).payload).map f)
    (h : Reads inner start fs depth result) :
    Reads step a [embed number fs] (depth + 1) (f result) := by
  refine .singleton ⟨hn, nofun⟩ fun hs budget => ?_
  have hle := length_writeFields_le number fs
  rw [hstep, h.mergeWithin?_eq (by omega), map_if_some]

variable {fields : β → List Field} {depth : β → Nat} {result : β → γ}

/-- A field with a message within, which may be missing. -/
theorem reads_embed? {a : α} (g : Option β → α) (hg : g none = a)
    (h : ∀ b, Reads step a [embed number (fields b)] (depth b + 1) (g (some b)))
    (b? : Option β) :
    Reads step a (b?.map fun b => embed number (fields b)).toList (deepest (b?.toList.map depth))
      (g b?) := by
  cases b? with
  | none =>
    subst hg
    exact .nil
  | some b => simpa using h b

/-- Messages within, one after the other, are read as a list. -/
theorem reads_embeds (g : List γ → α) (hn : IsNumber number)
    (hstep : ∀ budget b cs, step budget (g cs) (embed number (fields b)) =
      (mergeWithin? budget inner start (embed number (fields b)).payload).map
        fun c => g (cs ++ [c]))
    {bs : List β} (h : ∀ b ∈ bs, Reads inner start (fields b) (depth b) (result b))
    (cs : List γ) :
    Reads step (g cs) (bs.map fun b => embed number (fields b)) (deepest (bs.map depth))
      (g (cs ++ bs.map result)) := by
  induction bs generalizing cs with
  | nil => simpa using Reads.nil
  | cons b bs ih =>
    have hb := reads_embed (fun c => g (cs ++ [c])) hn (fun budget => hstep budget b cs)
      (h b List.mem_cons_self)
    have hbs := ih (fun b' hb' => h b' (List.mem_cons_of_mem _ hb')) (cs ++ [result b])
    have happend := hb.append hbs
    rw [List.append_assoc] at happend
    exact happend

end Within

end Wire

end Bazaar
