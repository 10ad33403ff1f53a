import Bazaar.Proofs.Agent.Sequences

/-!
Adjustments: amounts added to holdings of both kinds. They act on what is owned as a group would,
as far as the range of amounts allows. A sum is added in one step or in two, and what is taken back
leaves nothing behind but the keys that had to be made up, with a zero under each. Main statement:
adjustments compose, commute and are undone (`adjust_group`).
-/

namespace Bazaar

namespace Holdings

variable {h h₁ h₂ d e s : Holdings}

/-! ### Adding as a change -/

theorem exists_addAll_iff : (∃ h₁, h.addAll d = .ok h₁) ↔
    ∀ k, Amount.InRange ((h.held k).toInt + (d.held k).toInt) := exists_addEntries_iff d.sorted

/-- **Holdings are added** just if their change can be made. -/
theorem addAll_eq_ok_iff : h.addAll d = .ok h₁ ↔ h.Changes d.change h₁ := by
  refine ⟨changes_of_addAll, fun hchanges => ?_⟩
  obtain ⟨h', hadd⟩ := exists_addAll_iff.2 fun k => by
    have hk : (h₁.held k).toInt = (h.held k).toInt + (d.held k).toInt := hchanges.held k
    exact hk ▸ Amount.inRange_toInt (h₁.held k)
  rw [hchanges.unique (changes_of_addAll hadd)]
  exact hadd

theorem change_empty : change .empty = .none :=
  congrArg₂ Change.mk (funext fun _ => rfl) (funext fun k => by simp [SortedMap.mem_keys_iff])

/-- The change of a sum is the one change and then the other. -/
theorem change_of_changes (hs : d.Changes e.change s) : s.change = d.change.andThen e.change :=
  congrArg₂ Change.mk (funext hs.held) (funext fun k => propext (hs.keys k))

theorem Change.andThen_comm (c c' : Change) : c.andThen c' = c'.andThen c :=
  congrArg₂ Change.mk (funext fun _ => Int.add_comm _ _) (funext fun _ => propext or_comm)

/-- What is left of a change once its first part has been made. -/
theorem Changes.rest {c c' : Change} (hfirst : h.Changes c h₁) (hboth : h.Changes (c.andThen c') h₂) :
    h₁.Changes c' h₂ where
  held k := by
    rw [hboth.held, hfirst.held, Int.add_assoc]
    rfl
  keys k := by
    rw [hboth.keys, hfirst.keys, or_assoc]
    rfl

/-! ### Taking back -/

/-- The holdings with every amount negated. -/
def neg (d : Holdings) : Holdings := d.map fun a => -a

/-- Whether every amount has a negation. -/
def IsNegatable (d : Holdings) : Prop := ∀ k, d.get? k ≠ some Int64.minValue

instance (d : Holdings) : Decidable d.IsNegatable :=
  decidable_of_iff (∀ e ∈ d.entries, e.2 ≠ Int64.minValue)
    ⟨fun h k hk => h (k, _) (SortedMap.mem_entries_iff.2 hk) rfl,
      fun h e he hleast => h e.1 (SortedMap.mem_entries_iff.1 (hleast ▸ he))⟩

/-- **Holdings are padded**: a zero is put under each key of others that they do not have. -/
def Pads (h d h' : Holdings) : Prop := ∀ k, h'.get? k = (h.get? k).or ((d.get? k).map fun _ => 0)

theorem mem_keys_neg {k : String} : k ∈ d.neg.keys ↔ k ∈ d.keys := by
  rw [SortedMap.mem_keys_iff, SortedMap.mem_keys_iff, neg, SortedMap.get?_map, Option.isSome_map]

theorem toInt_neg {a : Amount} (ha : a ≠ Int64.minValue) : (-a).toInt = -a.toInt := by
  have hrange : Amount.InRange (-a.toInt) := by
    rw [ne_eq, ← Agent.Ownership.neg?_eq_none_iff] at ha
    exact not_not.1 fun hout => ha (Amount.ofInt?_eq_none_iff.2 hout)
  have hofInt := Amount.toInt_ofInt hrange
  rwa [Int64.ofInt_neg, Int64.ofInt_toInt] at hofInt

theorem held_neg (hd : d.IsNegatable) (k : String) : (d.neg.held k).toInt = -(d.held k).toInt := by
  unfold held SortedMap.getD neg
  rw [SortedMap.get?_map]
  cases hk : d.get? k with
  | none => rfl
  | some a => exact toInt_neg fun ha => hd k (ha ▸ hk)

/-- What is taken back is held as before, and no key that was added is lost again. -/
theorem Changes.neg (hd : d.IsNegatable) (hadd : h.Changes d.change h₁) :
    ∃ h₂, h₁.Changes d.neg.change h₂ ∧ (∀ k, h₂.held k = h.held k) ∧
      ∀ k, k ∈ h₂.keys ↔ k ∈ h.keys ∨ k ∈ d.keys := by
  have hback : ∀ k, (h₁.held k).toInt + (d.neg.held k).toInt = (h.held k).toInt := fun k => by
    have hk : (h₁.held k).toInt = (h.held k).toInt + (d.held k).toInt := hadd.held k
    rw [held_neg hd]
    omega
  obtain ⟨h₂, hsub⟩ := (exists_addAll_iff (h := h₁) (d := d.neg)).2 fun k => by
    rw [hback]
    exact Amount.inRange_toInt _
  have hsub := changes_of_addAll hsub
  refine ⟨h₂, hsub, fun k => ?_, fun k => ?_⟩
  · exact Int64.toInt_inj.1 ((hsub.held k).trans (hback k))
  · rw [hsub.keys, hadd.keys]
    change (k ∈ h.keys ∨ k ∈ d.keys) ∨ k ∈ d.neg.keys ↔ k ∈ h.keys ∨ k ∈ d.keys
    rw [mem_keys_neg, or_assoc, or_self]

theorem pads_of_held (hheld : ∀ k, h₂.held k = h.held k)
    (hkeys : ∀ k, k ∈ h₂.keys ↔ k ∈ h.keys ∨ k ∈ d.keys) : h.Pads d h₂ := by
  intro k
  rw [get?_eq_ite, get?_eq_ite h, get?_eq_ite d, hheld]
  have hk := hkeys k
  by_cases hmem : k ∈ h.keys
  · rw [if_pos (hk.2 (.inl hmem)), if_pos hmem]
    rfl
  · rw [if_neg hmem, held_eq_zero hmem]
    by_cases hd : k ∈ d.keys
    · rw [if_pos (hk.2 (.inr hd)), if_pos hd]
      rfl
    · rw [if_neg fun hmem' => (hk.1 hmem').elim hmem hd, if_neg hd]
      rfl

/-- Where every key is there already, padding adds nothing. -/
theorem Pads.eq (hpads : h.Pads d h₂) (hkeys : ∀ k ∈ d.keys, k ∈ h.keys) : h₂ = h := by
  refine SortedMap.ext_get? fun k => ?_
  rw [hpads k, get?_eq_ite h, get?_eq_ite d]
  by_cases hmem : k ∈ h.keys
  · rw [if_pos hmem]
    rfl
  · rw [if_neg hmem, if_neg fun hd => hmem (hkeys k hd)]
    rfl

end Holdings

namespace Agent

/-! ### Adjustments -/

/-- Amounts to be added to what is owned. -/
structure Adjustment where
  amounts : Holdings
  goods : Holdings
deriving DecidableEq

namespace Adjustment

variable (d e s : Adjustment)

/-- Nothing to be added. -/
def none : Adjustment := ⟨.empty, .empty⟩

/-- The adjustment with every amount negated. -/
def neg : Adjustment := ⟨d.amounts.neg, d.goods.neg⟩

def IsNegatable : Prop := d.amounts.IsNegatable ∧ d.goods.IsNegatable

instance : Decidable d.IsNegatable := by unfold IsNegatable; infer_instance

/-- Whether the sums of two adjustments are all amounts. -/
def Fits : Prop :=
  (∀ c, Amount.InRange ((d.amounts.held c).toInt + (e.amounts.held c).toInt)) ∧
  ∀ g, Amount.InRange ((d.goods.held g).toInt + (e.goods.held g).toInt)

/-- **The sum of two adjustments** holds the exact sum under every key of either. -/
def IsSum : Prop :=
  d.amounts.Changes e.amounts.change s.amounts ∧ d.goods.Changes e.goods.change s.goods

variable {d e s}

theorem exists_isSum (h : d.Fits e) : ∃ s, d.IsSum e s := by
  obtain ⟨a, ha⟩ := Holdings.exists_addAll_iff.2 h.1
  obtain ⟨g, hg⟩ := Holdings.exists_addAll_iff.2 h.2
  exact ⟨⟨a, g⟩, Holdings.changes_of_addAll ha, Holdings.changes_of_addAll hg⟩

end Adjustment

namespace Ownership

variable {o o₁ o₂ : Ownership} {d e s : Adjustment}

/-- What is owned after an adjustment. -/
def adjust (o : Ownership) (d : Adjustment) : Except Fault Ownership :=
  o.applyDeltas d.amounts d.goods

/-- What is owned with both holdings padded. -/
def Pads (o : Ownership) (d : Adjustment) (o' : Ownership) : Prop :=
  ∃ a g a' g', o = .ofHoldings a g ∧ o' = .ofHoldings a' g' ∧ a.Pads d.amounts a' ∧
    g.Pads d.goods g'

/-- Whether every key of an adjustment is there already. -/
def HasKeys (o : Ownership) (d : Adjustment) : Prop :=
  ∃ a g, o = .ofHoldings a g ∧ (∀ c ∈ d.amounts.keys, c ∈ a.keys) ∧ ∀ k ∈ d.goods.keys, k ∈ g.keys

theorem adjust_eq_ok_iff :
    o.adjust d = .ok o₁ ↔ o.Changes d.amounts.change d.goods.change o₁ := by
  refine ⟨changes_of_applyDeltas, ?_⟩
  rintro ⟨a, g, a', g', rfl, rfl, ha, hg⟩
  exact applyDeltas_eq_ok_iff.2 ⟨a, g, a', g', rfl, Holdings.addAll_eq_ok_iff.2 ha,
    Holdings.addAll_eq_ok_iff.2 hg, rfl⟩

theorem adjust_none (a g : Holdings) : (ofHoldings a g).adjust .none = .ok (ofHoldings a g) := by
  refine adjust_eq_ok_iff.2 ?_
  rw [Adjustment.none, Holdings.change_empty]
  exact .refl a g

/-- **A sum is added** as its one part and then the other. -/
theorem adjust_of_isSum (hs : d.IsSum e s) (hd : o.adjust d = .ok o₁) :
    o₁.adjust e = .ok o₂ ↔ o.adjust s = .ok o₂ := by
  rw [adjust_eq_ok_iff, adjust_eq_ok_iff, Holdings.change_of_changes hs.1,
    Holdings.change_of_changes hs.2]
  refine ⟨(adjust_eq_ok_iff.1 hd).trans, fun hboth => ?_⟩
  obtain ⟨a, g, a₁, g₁, rfl, rfl, ha, hg⟩ := adjust_eq_ok_iff.1 hd
  obtain ⟨b, k, b₂, k₂, heq, rfl, hb, hk⟩ := hboth
  cases heq
  exact ⟨a₁, g₁, b₂, k₂, rfl, rfl, ha.rest hb, hg.rest hk⟩

/-- **Adjustments commute** if both orders can be made. -/
theorem adjust_comm {o₁' o₂' : Ownership} (hd : o.adjust d = .ok o₁) (he : o₁.adjust e = .ok o₂)
    (he' : o.adjust e = .ok o₁') (hd' : o₁'.adjust d = .ok o₂') : o₂ = o₂' := by
  have hforth := (adjust_eq_ok_iff.1 hd).trans (adjust_eq_ok_iff.1 he)
  have hback := (adjust_eq_ok_iff.1 he').trans (adjust_eq_ok_iff.1 hd')
  rw [Holdings.Change.andThen_comm, Holdings.Change.andThen_comm e.goods.change] at hback
  exact hforth.unique hback

/-- **An adjustment is undone** by its negation, but for the keys it made up. -/
theorem adjust_neg (hneg : d.IsNegatable) (hd : o.adjust d = .ok o₁) :
    ∃ o₂, o₁.adjust d.neg = .ok o₂ ∧ o.Pads d o₂ ∧ (o.HasKeys d → o₂ = o) := by
  obtain ⟨a, g, a₁, g₁, rfl, rfl, ha, hg⟩ := adjust_eq_ok_iff.1 hd
  obtain ⟨a₂, ha₂, haheld, hakeys⟩ := ha.neg hneg.1
  obtain ⟨g₂, hg₂, hgheld, hgkeys⟩ := hg.neg hneg.2
  have hapads := Holdings.pads_of_held haheld hakeys
  have hgpads := Holdings.pads_of_held hgheld hgkeys
  refine ⟨ofHoldings a₂ g₂, adjust_eq_ok_iff.2 ⟨a₁, g₁, a₂, g₂, rfl, rfl, ha₂, hg₂⟩,
    ⟨a, g, a₂, g₂, rfl, rfl, hapads, hgpads⟩, ?_⟩
  rintro ⟨b, k, heq, hb, hk⟩
  cases heq
  rw [hapads.eq hb, hgpads.eq hk]

/-- **Adjustments act as a group.** On holdings of both kinds: the empty adjustment changes nothing.
If the sums of two adjustments are amounts, then after the one the other gives just what their sum
gives in one step. Two orders that both succeed agree. An adjustment whose amounts have negations
can always be undone, and then every key it made up holds zero and nothing else is changed. -/
theorem adjust_group (o : Ownership) (ho : o.isInitialized = true) :
    o.adjust .none = .ok o ∧
    (∀ d e o₁, o.adjust d = .ok o₁ → d.Fits e →
      ∃ s, d.IsSum e s ∧ ∀ o₂, o₁.adjust e = .ok o₂ ↔ o.adjust s = .ok o₂) ∧
    (∀ d e o₁ o₂ o₁' o₂', o.adjust d = .ok o₁ → o₁.adjust e = .ok o₂ → o.adjust e = .ok o₁' →
      o₁'.adjust d = .ok o₂' → o₂ = o₂') ∧
    ∀ d o₁, d.IsNegatable → o.adjust d = .ok o₁ →
      ∃ o₂, o₁.adjust d.neg = .ok o₂ ∧ o.Pads d o₂ ∧ (o.HasKeys d → o₂ = o) := by
  obtain ⟨a, g, rfl⟩ := exists_of_isInitialized ho
  refine ⟨adjust_none a g, fun d e o₁ hd hfits => ?_, fun d e o₁ o₂ o₁' o₂' => adjust_comm,
    fun d o₁ => adjust_neg⟩
  obtain ⟨s, hs⟩ := Adjustment.exists_isSum hfits
  exact ⟨s, hs, fun o₂ => adjust_of_isSum hs hd⟩

/-- Near the largest amount, 12 can be added once 10 have been given away, but not before. The pears
that came with the 10 leave their key when they are taken back. -/
theorem adjust_group_pears :
    let o := ofHoldings (.ofList [("FET", Amount.greatest - 5)]) (.ofList [("apple", 3)])
    let d : Adjustment := ⟨.ofList [("FET", -10)], .ofList [("pear", 4)]⟩
    let e : Adjustment := ⟨.ofList [("FET", 12)], .empty⟩
    ∃ o₁ o₂ s, (o.isInitialized = true ∧ d.Fits e ∧ d.IsNegatable) ∧
      (o.adjust d = .ok o₁ ∧ o₁.adjust e = .ok o₂ ∧ d.IsSum e s ∧ o.adjust s = .ok o₂) ∧
      o.adjust e = .error (.overflow (.holding "FET")) ∧
      ∃ o₃, o₁.adjust d.neg = .ok o₃ ∧ o.Pads d o₃ ∧ o₃ = ofHoldings
        (.ofList [("FET", Amount.greatest - 5)]) (.ofList [("apple", 3), ("pear", 0)]) := by
  intro o d e
  let o₁ := ofHoldings (.ofList [("FET", Amount.greatest - 15)]) (.ofList [("apple", 3), ("pear", 4)])
  let o₂ := ofHoldings (.ofList [("FET", Amount.greatest - 3)]) (.ofList [("apple", 3), ("pear", 4)])
  let o₃ := ofHoldings (.ofList [("FET", Amount.greatest - 5)]) (.ofList [("apple", 3), ("pear", 0)])
  have ho : o.isInitialized = true := rfl
  have hfits : d.Fits e := ⟨Holdings.exists_addAll_iff.1 ⟨.ofList [("FET", 2)], by decide +kernel⟩,
    Holdings.exists_addAll_iff.1 ⟨.ofList [("pear", 4)], by decide +kernel⟩⟩
  have hneg : d.IsNegatable := by decide +kernel
  have hd : o.adjust d = .ok o₁ := by decide +kernel
  have he : o₁.adjust e = .ok o₂ := by decide +kernel
  have hback : o₁.adjust d.neg = .ok o₃ := by decide +kernel
  obtain ⟨-, hsums, -, hundone⟩ := adjust_group o ho
  obtain ⟨s, hs, hsum⟩ := hsums d e o₁ hd hfits
  obtain ⟨o₃', hback', hpads, -⟩ := hundone d o₁ hneg hd
  obtain rfl : o₃ = o₃' := Except.ok.inj (hback.symm.trans hback')
  exact ⟨o₁, o₂, s, ⟨ho, hfits, hneg⟩, ⟨hd, he, hs, (hsum o₂).1 he⟩, by decide +kernel, o₃, hback,
    hpads, rfl⟩

end Ownership

end Agent

end Bazaar
