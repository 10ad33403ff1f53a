import Mathlib.Data.Set.Card
import Bazaar.Proofs.Search.Equality
import Bazaar.Search.Directory

/-!
The directory of services as a map from addresses to sets of descriptions. A call revises the
descriptions of its own address and is answered from them (`Call.revise`, `Call.reply`); an address
without descriptions is not in the map. Main statement: after any calls a directory is such a map
(`isMap_after`).
-/

namespace Bazaar.Search.Directory

/-! ### Calls -/

/-- What is asked of a directory. -/
inductive Call where
  | register (a : Address) (d : Description)
  | withdraw (a : Address) (d : Description)
  | withdrawAll (a : Address)

/-- What a directory answers: whether something was done, or how often. -/
inductive Reply where
  | done (b : Bool)
  | count (n : Nat)

namespace Call

/-- The address whose descriptions a call is about. -/
def address : Call → Address
  | .register a _ | .withdraw a _ | .withdrawAll a => a

/-- The directory after a call, and the answer. -/
def serve (r : Directory) : Call → Directory × Reply
  | .register a d => ((r.register a d).1, .done (r.register a d).2)
  | .withdraw a d => ((r.withdraw a d).1, .done (r.withdraw a d).2)
  | .withdrawAll a => ((r.withdrawAll a).1, .count (r.withdrawAll a).2)

/-- The descriptions of its address that a call leaves. -/
def revise (ds : List Description) : Call → List Description
  | .register _ d => if ds.any (·.equal d) then ds else ds ++ [d]
  | .withdraw _ d => ds.filter (!·.equal d)
  | .withdrawAll _ => []

/-- The answer to a call, from the descriptions of its address. -/
def reply (ds : List Description) : Call → Reply
  | .register _ d => .done (!ds.any (·.equal d))
  | .withdraw _ d => .done (ds.any (·.equal d))
  | .withdrawAll _ => .count ds.length

end Call

/-- The directory after a list of calls. -/
def after (r : Directory) (cs : List Call) : Directory := cs.foldl (fun r c => (c.serve r).1) r

/-! ### What a call does -/

/-- What stands in the map for a list of descriptions: nothing for none. -/
def listing? : List Description → Option (List Description)
  | [] => none
  | d :: ds => some (d :: ds)

variable {r : Directory} {c : Call}

theorem getD_listing? (ds : List Description) : (listing? ds).getD [] = ds := by
  cases ds <;> rfl

theorem listing?_of_ne {ds : List Description} (h : ds ≠ []) : listing? ds = some ds := by
  cases ds with
  | nil => exact absurd rfl h
  | cons d ds => rfl

theorem ne_nil_of_listing? {ds es : List Description} (h : listing? ds = some es) : es ≠ [] := by
  cases ds with
  | nil => cases h
  | cons d ds =>
    rw [← Option.some.inj h]
    exact List.cons_ne_nil d ds

theorem eq_of_get? {r s : Directory} (h : ∀ a, r.listings.get? a = s.listings.get? a) : r = s :=
  congrArg Directory.mk (SortedMap.ext_get? h)

theorem descriptions_eq (r : Directory) (a : Address) :
    r.descriptions a = (r.listings.get? a).getD [] := rfl

theorem get?_eq_of_descriptions_ne {a : Address} (h : r.descriptions a ≠ []) :
    r.listings.get? a = some (r.descriptions a) := by
  rw [descriptions_eq] at h ⊢
  cases hg : r.listings.get? a with
  | none => simp [hg] at h
  | some ds => rfl

theorem get?_register (r : Directory) (a b : Address) (d : Description) :
    (r.register a d).1.listings.get? b =
      if b = a then listing? (Call.revise (r.descriptions a) (.register a d))
      else r.listings.get? b := by
  simp only [register, Call.revise]
  by_cases hany : (r.descriptions a).any (·.equal d) = true
  · have hne : r.descriptions a ≠ [] := by
      intro h
      simp [h] at hany
    rw [if_pos hany, if_pos hany, listing?_of_ne hne, ← get?_eq_of_descriptions_ne hne]
    split
    · rename_i hb
      rw [hb]
    · rfl
  · rw [if_neg hany, if_neg hany, listing?_of_ne (List.concat_ne_nil _ _)]
    exact SortedMap.get?_insert ..

theorem get?_withdraw (r : Directory) (a b : Address) (d : Description) :
    (r.withdraw a d).1.listings.get? b =
      if b = a then listing? (Call.revise (r.descriptions a) (.withdraw a d))
      else r.listings.get? b := by
  simp only [withdraw, Call.revise]
  generalize (r.descriptions a).filter (!·.equal d) = kept
  cases kept with
  | nil => exact SortedMap.get?_erase ..
  | cons e es => exact SortedMap.get?_insert ..

/-- **A call revises the entry of its own address** and no other. -/
theorem get?_serve (r : Directory) (c : Call) (b : Address) :
    (c.serve r).1.listings.get? b =
      if b = c.address then listing? (c.revise (r.descriptions c.address))
      else r.listings.get? b := by
  cases c with
  | register a d => exact get?_register r a b d
  | withdraw a d => exact get?_withdraw r a b d
  | withdrawAll a => exact SortedMap.get?_erase ..

theorem descriptions_serve_self (r : Directory) (c : Call) :
    (c.serve r).1.descriptions c.address = c.revise (r.descriptions c.address) := by
  rw [descriptions_eq, get?_serve, if_pos rfl, getD_listing?]

theorem descriptions_serve_other (r : Directory) {c : Call} {b : Address} (h : b ≠ c.address) :
    (c.serve r).1.descriptions b = r.descriptions b := by
  rw [descriptions_eq, get?_serve, if_neg h, descriptions_eq]

theorem register_snd (r : Directory) (a : Address) (d : Description) :
    (r.register a d).2 = !(r.descriptions a).any (·.equal d) := by
  simp only [register]
  cases (r.descriptions a).any (·.equal d) <;> rfl

theorem withdraw_snd (r : Directory) (a : Address) (d : Description) :
    (r.withdraw a d).2 = (r.descriptions a).any (·.equal d) := by
  unfold withdraw
  rw [Bool.eq_iff_iff, decide_eq_true_iff, List.length_filter_lt_length_iff_exists,
    List.any_eq_true]
  simp

/-- **A call is answered from the descriptions of its own address.** -/
theorem serve_snd (r : Directory) (c : Call) :
    (c.serve r).2 = c.reply (r.descriptions c.address) := by
  cases c with
  | register a d => exact congrArg Reply.done (r.register_snd a d)
  | withdraw a d => exact congrArg Reply.done (r.withdraw_snd a d)
  | withdrawAll a => rfl

/-- Calls about different addresses can be made in either order. -/
theorem serve_comm (r : Directory) {c e : Call} (h : c.address ≠ e.address) :
    (e.serve (c.serve r).1).1 = (c.serve (e.serve r).1).1 ∧
      (e.serve (c.serve r).1).2 = (e.serve r).2 ∧ (c.serve (e.serve r).1).2 = (c.serve r).2 := by
  have hc : (c.serve r).1.descriptions e.address = r.descriptions e.address := by
    rw [descriptions_serve_other r h.symm]
  have he : (e.serve r).1.descriptions c.address = r.descriptions c.address := by
    rw [descriptions_serve_other r h]
  refine ⟨eq_of_get? fun b => ?_, ?_, ?_⟩
  · rw [get?_serve, get?_serve, get?_serve, get?_serve, hc, he]
    by_cases hb : b = c.address
    · have hbe : b ≠ e.address := hb ▸ h
      rw [if_pos hb, if_neg hbe, if_pos hb]
    · rw [if_neg hb, if_neg hb]
  · rw [serve_snd, serve_snd, hc]
  · rw [serve_snd, serve_snd, he]

/-! ### The map -/

/-- **A directory is a map to sets**: whatever is in it stands for some descriptions, no two of
which are equal. -/
structure IsMap (r : Directory) : Prop where
  nonempty : ∀ {a ds}, r.listings.get? a = some ds → ds ≠ []
  distinct : ∀ a, (r.descriptions a).Pairwise fun d e => d.equal e = false

theorem isMap_empty : empty.IsMap where
  nonempty := by simp [empty]
  distinct := fun _ => .nil

theorem pairwise_revise {ds : List Description} (h : ds.Pairwise fun d e => d.equal e = false)
    (c : Call) : (c.revise ds).Pairwise fun d e => d.equal e = false := by
  cases c with
  | register a d =>
    simp only [Call.revise]
    split
    · exact h
    · rename_i hany
      refine List.pairwise_append.2 ⟨h, List.pairwise_singleton _ _, fun e he f hf => ?_⟩
      rw [List.mem_singleton.1 hf]
      simpa using List.any_eq_false.1 (Bool.eq_false_iff.2 hany) e he
  | withdraw a d => exact h.filter _
  | withdrawAll a => exact .nil

/-- **Each call keeps the directory a map to sets.** -/
theorem IsMap.serve {r : Directory} (h : r.IsMap) (c : Call) : (c.serve r).1.IsMap where
  nonempty := by
    intro a ds hds
    rw [get?_serve] at hds
    split at hds
    · exact ne_nil_of_listing? hds
    · exact h.nonempty hds
  distinct := by
    intro a
    by_cases ha : a = c.address
    · rw [ha, descriptions_serve_self]
      exact pairwise_revise (h.distinct c.address) c
    · rw [descriptions_serve_other r ha]
      exact h.distinct a

theorem isMap_after {r : Directory} (h : r.IsMap) (cs : List Call) : (r.after cs).IsMap := by
  induction cs generalizing r with
  | nil => exact h
  | cons c cs ih => exact ih (h.serve c)

/-! ### Searches and size -/

theorem mem_search_iff [Trigonometry] {r : Directory} {q : Query} {a : Address} :
    a ∈ r.search q ↔ ∃ d ∈ r.descriptions a, q.holds d = true := by
  unfold search
  rw [List.mem_map]
  constructor
  · rintro ⟨⟨b, ds⟩, he, rfl⟩
    obtain ⟨hmem, hany⟩ := List.mem_filter.1 he
    rw [descriptions_eq, SortedMap.mem_entries_iff.1 hmem]
    exact List.any_eq_true.1 hany
  · rintro ⟨d, hd, hq⟩
    have hget := get?_eq_of_descriptions_ne (List.ne_nil_of_mem hd)
    exact ⟨(a, r.descriptions a), List.mem_filter.2
      ⟨SortedMap.mem_entries_iff.2 hget, List.any_eq_true.2 ⟨d, hd, hq⟩⟩, rfl⟩

theorem pairwise_search [Trigonometry] (r : Directory) (q : Query) :
    (r.search q).Pairwise (· < ·) :=
  List.pairwise_map.2 (r.listings.sorted.filter _)

theorem IsMap.encard_eq_size {r : Directory} (h : r.IsMap) :
    {a | r.descriptions a ≠ []}.encard = r.size := by
  have hset : {a | r.descriptions a ≠ []} = (r.listings.keys.toFinset : Set Address) := by
    ext a
    rw [Set.mem_ofPred_eq, List.coe_toFinset, Set.mem_ofPred_eq, SortedMap.mem_keys_iff]
    constructor
    · intro hne
      rw [get?_eq_of_descriptions_ne hne, Option.isSome_some]
    · intro hsome
      obtain ⟨ds, hds⟩ := Option.isSome_iff_exists.1 hsome
      rw [descriptions_eq, hds]
      exact h.nonempty hds
  rw [hset, Set.encard_coe_eq_coe_finsetCard, List.toFinset_card_of_nodup (SortedMap.nodup_keys _)]
  simp [size, SortedMap.size, SortedMap.keys]

/-- **The directory is a map from addresses to sets of descriptions.** After any calls no address
stands there without descriptions, and no two descriptions of one address are equal. A description
is registered just if the address has no equal one, and else nothing changes; what is withdrawn is
all that is equal to it, or all that there is. No call touches another address, so calls about two
addresses may change places. The size is the number of addresses with a description, and a search
finds, in ascending order, those of them with a description that meets the query. -/
theorem serves_as_map [Trigonometry] (cs : List Call) :
    let r := empty.after cs
    (∀ a ds, r.listings.get? a = some ds → ds ≠ []) ∧
    (∀ a, (r.descriptions a).Pairwise fun d e => d.equal e = false ∧ e.equal d = false) ∧
    (∀ a d, ((r.register a d).2 = true ↔ ∀ e ∈ r.descriptions a, e.equal d = false) ∧
      ((r.register a d).2 = true → (r.register a d).1.descriptions a = r.descriptions a ++ [d]) ∧
      ((r.register a d).2 = false → (r.register a d).1 = r)) ∧
    (∀ a d, ((r.withdraw a d).2 = true ↔ ∃ e ∈ r.descriptions a, e.equal d = true) ∧
      (r.withdraw a d).1.descriptions a = (r.descriptions a).filter (!·.equal d)) ∧
    (∀ a, (r.withdrawAll a).2 = (r.descriptions a).length ∧
      (r.withdrawAll a).1.listings.get? a = none) ∧
    (∀ (c : Call) b, b ≠ c.address → (c.serve r).1.listings.get? b = r.listings.get? b) ∧
    (∀ c e : Call, c.address ≠ e.address → (e.serve (c.serve r).1).1 = (c.serve (e.serve r).1).1 ∧
      (e.serve (c.serve r).1).2 = (e.serve r).2 ∧ (c.serve (e.serve r).1).2 = (c.serve r).2) ∧
    {a | r.descriptions a ≠ []}.encard = r.size ∧
    ∀ q, (r.search q).Pairwise (· < ·) ∧
      ∀ a, a ∈ r.search q ↔ ∃ d ∈ r.descriptions a, q.holds d = true := by
  intro r
  have h : r.IsMap := isMap_after isMap_empty cs
  refine ⟨fun a ds => h.nonempty, fun a => ?_, fun a d => ⟨?_, fun hnew => ?_, fun hold => ?_⟩,
    fun a d => ⟨?_, ?_⟩, fun a => ⟨rfl, ?_⟩, fun c b hb => ?_, fun c e hce => r.serve_comm hce,
    h.encard_eq_size, fun q => ⟨r.pairwise_search q, fun a => mem_search_iff⟩⟩
  · exact (h.distinct a).imp fun {d e} hde => ⟨hde, Description.equal_comm d e ▸ hde⟩
  · rw [register_snd, Bool.not_eq_true', List.any_eq_false]
    simp only [Bool.not_eq_true]
  · rw [register_snd, Bool.not_eq_true'] at hnew
    exact (descriptions_serve_self r (.register a d)).trans (if_neg (Bool.eq_false_iff.1 hnew))
  · rw [register_snd, Bool.not_eq_false'] at hold
    rw [register, if_pos hold]
  · rw [withdraw_snd, List.any_eq_true]
  · exact descriptions_serve_self r (.withdraw a d)
  · exact (r.listings.get?_erase a a).trans (if_pos rfl)
  · rw [get?_serve, if_neg hb]

end Bazaar.Search.Directory
