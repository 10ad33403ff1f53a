import Bazaar.Agent.Ownership
import Bazaar.Proofs.Amount
import Bazaar.Proofs.Except

/-!
Adding to holdings. A list of entries with ascending keys is added in whole or not at all. Main
statements: it is added exactly if no sum leaves the range of amounts (`exists_addEntries_iff`),
and then every key holds its sum and no key is lost or made up (`adds_of_addEntries`). What a
transaction adds to its currency follows from the sender's role (`currencyHeld_of_update`).
-/

namespace Bazaar

namespace Agent

@[simp] theorem figure_eq_ok_iff {f : Figure} {a? : Option Amount} {a : Amount} :
    figure f a? = .ok a ↔ a? = some a := by
  cases a? <;> simp [figure]

theorem part_eq_ok_iff {α : Type} {p : Part} {a? : Option α} {a : α} :
    part p a? = .ok a ↔ a? = some a := by
  cases a? <;> simp [part]

end Agent

namespace SortedMap

@[simp] theorem heldIn_nil (k : String) : heldIn k [] = 0 := heldIn_eq_zero rfl

theorem heldIn_cons (k l : String) (v : Amount) (es : List (String × Amount)) :
    heldIn k ((l, v) :: es) = if k = l then v.toInt else heldIn k es := by
  simp only [heldIn, find]
  split <;> rfl

end SortedMap

namespace Holdings

open SortedMap (find heldIn heldIn_nil heldIn_cons)

variable {h h' : Holdings} {es : List (String × Amount)}

theorem held_eq_heldIn (h : Holdings) (k : String) : (h.held k).toInt = heldIn k h.entries := rfl

/-- What is under a key, told by the keys and by what is held. -/
theorem get?_eq_ite (h : Holdings) (k : String) :
    h.get? k = if k ∈ h.keys then some (h.held k) else none := by
  have hmem : k ∈ h.keys ↔ (h.get? k).isSome := SortedMap.mem_keys_iff
  cases hget : h.get? k with
  | none => rw [if_neg (by simp [hmem, hget])]
  | some a => rw [if_pos (by simp [hmem, hget]), held, SortedMap.getD, hget, Option.getD_some]

theorem held_eq_zero {k : String} (hk : ¬ k ∈ h.keys) : h.held k = 0 := by
  rw [held, SortedMap.getD, get?_eq_ite, if_neg hk, Option.getD_none]

theorem held_insert (h : Holdings) (k l : String) (a : Amount) :
    held (h.insert k a) l = if l = k then a else h.held l := by
  simp only [held, SortedMap.getD, SortedMap.get?_insert]
  split <;> rfl

theorem add_eq_ok_iff {k : String} {delta : Amount} :
    h.add k delta = .ok h' ↔
      ∃ a : Amount, a.toInt = (h.held k).toInt + delta.toInt ∧ h' = h.insert k a := by
  simp only [add, bind_eq_ok_iff, Agent.figure_eq_ok_iff, Amount.add?_eq_some_iff, pure,
    Except.pure, Except.ok.injEq, eq_comm (a := h')]

/-- **Entries are added to holdings**: every key holds its sum, and the keys are those of the
holdings and those of the entries. -/
structure Adds (h : Holdings) (es : List (String × Amount)) (h' : Holdings) : Prop where
  held : ∀ k, (h'.held k).toInt = (h.held k).toInt + heldIn k es
  keys : ∀ k, k ∈ h'.keys ↔ k ∈ h.keys ∨ k ∈ es.map (·.1)

theorem mem_keys_insert {k l : String} {a : Amount} :
    l ∈ (h.insert k a).keys ↔ l ∈ h.keys ∨ l = k := by
  rw [SortedMap.keys, ← SortedMap.isSome_find_iff, SortedMap.keys, ← SortedMap.isSome_find_iff]
  simp only [SortedMap.insert, SortedMap.find_put]
  by_cases hl : l = k <;> simp [hl]

/-- An entry added in front of others, none of which has its key. -/
theorem Adds.cons {k : String} {v a : Amount} (hfresh : find k es = none)
    (ha : a.toInt = (h.held k).toInt + v.toInt) (hadds : Adds (h.insert k a) es h') :
    Adds h ((k, v) :: es) h' where
  held l := by
    have hl := hadds.held l
    rw [held_insert] at hl
    rw [hl, heldIn_cons]
    split
    · rename_i he
      rw [he, SortedMap.heldIn_eq_zero hfresh, ha, Int.add_zero]
    · rfl
  keys l := by
    rw [hadds.keys, mem_keys_insert, List.map_cons, List.mem_cons, or_assoc]

theorem find_eq_none_of_pairwise {k : String} {v : Amount}
    (hs : ((k, v) :: es).Pairwise (fun p q => p.1 < q.1)) : find k es = none :=
  SortedMap.find_eq_none_of_lt (List.pairwise_cons.1 hs).1

theorem adds_of_addEntries (hs : es.Pairwise (fun p q => p.1 < q.1))
    (he : h.addEntries es = .ok h') : Adds h es h' := by
  induction es generalizing h with
  | nil =>
    cases he
    exact ⟨fun k => by simp, fun k => by simp⟩
  | cons e es ih =>
    obtain ⟨h₁, h₁', he⟩ := bind_eq_ok_iff.1 he
    obtain ⟨a, ha, rfl⟩ := add_eq_ok_iff.1 h₁'
    exact .cons (find_eq_none_of_pairwise hs) ha (ih (List.pairwise_cons.1 hs).2 he)

/-- **Entries can be added** exactly if no sum leaves the range of amounts. -/
theorem exists_addEntries_iff (hs : es.Pairwise (fun p q => p.1 < q.1)) :
    (∃ h', h.addEntries es = .ok h') ↔
      ∀ k, Amount.InRange ((h.held k).toInt + heldIn k es) := by
  constructor
  · rintro ⟨h', he⟩ k
    rw [← (adds_of_addEntries hs he).held k]
    exact Amount.inRange_toInt _
  · intro hrange
    induction es generalizing h with
    | nil => exact ⟨h, rfl⟩
    | cons e es ih =>
      obtain ⟨k, v⟩ := e
      have hfresh := find_eq_none_of_pairwise hs
      have hk := hrange k
      rw [heldIn_cons, if_pos rfl] at hk
      let a : Amount := Int64.ofInt ((h.held k).toInt + v.toInt)
      have ha : a.toInt = (h.held k).toInt + v.toInt := Amount.toInt_ofInt hk
      obtain ⟨h', he⟩ := ih (h := h.insert k a) (List.pairwise_cons.1 hs).2 fun l => by
        rw [held_insert]
        split
        · rename_i hl
          rw [hl, SortedMap.heldIn_eq_zero hfresh, Int.add_zero]
          exact Amount.inRange_toInt a
        · rename_i hl
          have hl' := hrange l
          rwa [heldIn_cons, if_neg hl] at hl'
      exact ⟨h', bind_eq_ok_iff.2 ⟨_, add_eq_ok_iff.2 ⟨a, ha, rfl⟩, he⟩⟩

end Holdings

namespace Agent.Ownership

/-- Amounts are added to holdings of both kinds, or not at all. -/
theorem applyDeltas_eq_ok_iff {o o' : Ownership} {amounts goods : Holdings} :
    o.applyDeltas amounts goods = .ok o' ↔ ∃ a g a' g', o = .ofHoldings a g ∧
      a.addAll amounts = .ok a' ∧ g.addAll goods = .ok g' ∧ o' = .ofHoldings a' g' := by
  obtain ⟨amounts?, goods?⟩ := o
  simp only [applyDeltas, bind_eq_ok_iff, Ownership.amounts, Ownership.goods, part_eq_ok_iff,
    ofHoldings, mk.injEq]
  constructor
  · rintro ⟨a, ha, a', ha', g, hg, g', hg', he⟩
    cases he
    exact ⟨a, g, a', g', ⟨ha, hg⟩, ha', hg', rfl⟩
  · rintro ⟨a, g, a', g', ⟨ha, hg⟩, ha', hg', rfl⟩
    exact ⟨a, ha, a', ha', g, hg, g', hg', rfl⟩

end Agent.Ownership

/-! ### Transactions -/

/-- What a transaction changes of its sender's holding of the currency: a buyer pays the amount and
its fee, a seller gets the amount less its fee. -/
def Transaction.currencyChange (t : Transaction) : Int :=
  if t.senderBuys then -(t.amount.toInt + t.senderFee.toInt)
  else t.amount.toInt - t.senderFee.toInt

namespace Agent.Ownership

variable {o o' : Ownership} {t : Transaction}

theorem toInt_of_currencyDelta {delta : Amount} (h : currencyDelta t = .ok delta) :
    delta.toInt = t.currencyChange := by
  unfold currencyDelta at h
  unfold Transaction.currencyChange
  split at h
  · rename_i hbuys
    rw [if_pos hbuys]
    obtain ⟨due, hdue, hneg⟩ := Option.bind_eq_some_iff.1 (figure_eq_ok_iff.1 h)
    rw [← Amount.add?_eq_some_iff.1 hdue]
    exact Amount.ofInt?_eq_some_iff.1 hneg
  · rename_i hsells
    rw [if_neg hsells]
    exact Amount.sub?_eq_some_iff.1 (figure_eq_ok_iff.1 h)

/-- A transaction changes holdings of both kinds, or neither. -/
theorem update_eq_ok_iff : o.update t = .ok o' ↔ ∃ delta deltas a g a' g',
    currencyDelta t = .ok delta ∧ goodDeltas t = .ok deltas ∧ o = .ofHoldings a g ∧
      a.add t.currency delta = .ok a' ∧ g.addEntries deltas = .ok g' ∧
      o' = .ofHoldings a' g' := by
  obtain ⟨amounts?, goods?⟩ := o
  simp only [update, bind_eq_ok_iff, Ownership.amounts, Ownership.goods, part_eq_ok_iff,
    ofHoldings, mk.injEq]
  constructor
  · rintro ⟨delta, hdelta, deltas, hdeltas, a, ha, a', ha', g, hg, g', hg', he⟩
    cases he
    exact ⟨delta, deltas, a, g, a', g', hdelta, hdeltas, ⟨ha, hg⟩, ha', hg', rfl⟩
  · rintro ⟨delta, deltas, a, g, a', g', hdelta, hdeltas, ⟨ha, hg⟩, ha', hg', rfl⟩
    exact ⟨delta, hdelta, deltas, hdeltas, a, ha, a', ha', g, hg, g', hg', rfl⟩

/-- What is held of a currency, zero if nothing is said of it. -/
def currencyHeld (o : Ownership) (c : CurrencyId) : Int := ((o.amounts?.getD .empty).held c).toInt

/-- **A transaction changes the holding of its currency** by just what the sender's role says. -/
theorem currencyHeld_of_update (h : o.update t = .ok o') :
    o'.currencyHeld t.currency = o.currencyHeld t.currency + t.currencyChange := by
  obtain ⟨delta, deltas, a, g, a', g', hdelta, -, rfl, ha', -, rfl⟩ := update_eq_ok_iff.1 h
  obtain ⟨b, hb, rfl⟩ := Holdings.add_eq_ok_iff.1 ha'
  simp only [currencyHeld, ofHoldings, Option.getD_some, Holdings.held_insert, if_true]
  rw [hb, toInt_of_currencyDelta hdelta]

end Agent.Ownership

end Bazaar
