import Bazaar.Agent.Preferences
import Bazaar.Proofs.Agent.Holdings
import Bazaar.Proofs.Float

/-!
What a key that is missing counts in a score. Sums and tests read it as zero, but a score adds up
only the keys that are there. For a currency this is the same, as an amount of zero counts zero. A
good of which there is none counts its utility at zero, though only where it is listed. Main
statement: a good may be left out of scores exactly if none of it counts zero
(`scores_alike_iff_neutral`).
-/

namespace Bazaar

open Machine

namespace SortedMap

variable {α : Type}

/-- The map with just the entries that pass a test. -/
def filter (p : String → α → Bool) (m : SortedMap α) : SortedMap α :=
  ⟨m.entries.filter fun e => p e.1 e.2, m.sorted.filter _⟩

theorem get?_filter_eq_some_iff {p : String → α → Bool} {m : SortedMap α} {k : String} {v : α} :
    (m.filter p).get? k = some v ↔ m.get? k = some v ∧ p k v = true := by
  rw [← mem_entries_iff, ← mem_entries_iff]
  exact List.mem_filter

end SortedMap

namespace Holdings

variable {free : String → Prop} {h h' : Holdings}

/-! ### Holdings that say the same -/

/-- **Holdings say the same** of every key, where a key that is missing reads as zero. Only of free
keys one of them may say nothing. -/
structure SameBut (free : String → Prop) (h h' : Holdings) : Prop where
  held : ∀ k, h.held k = h'.held k
  keys : ∀ k, ¬ free k → (k ∈ h.keys ↔ k ∈ h'.keys)

theorem SameBut.symm (hsame : h.SameBut free h') : h'.SameBut free h where
  held k := (hsame.held k).symm
  keys k hk := (hsame.keys k hk).symm

theorem SameBut.refl (h : Holdings) : h.SameBut free h := ⟨fun _ => rfl, fun _ _ => .rfl⟩

/-- What is there is there in both, or it is a zero under a free key. -/
theorem SameBut.get?_eq_some (hsame : h.SameBut free h') {k : String} {a : Amount}
    (hget : h.get? k = some a) : h'.get? k = some a ∨ free k ∧ a = 0 := by
  rw [get?_eq_ite] at hget ⊢
  split at hget
  · rename_i hmem
    cases hget
    rw [← hsame.held]
    by_cases hmem' : k ∈ h'.keys
    · exact .inl (if_pos hmem')
    · refine .inr ⟨not_not.1 fun hk => hmem' ((hsame.keys k hk).1 hmem), ?_⟩
      rw [hsame.held, held_eq_zero hmem']
  · cases hget

theorem sameBut_insert_zero {k : String} (hk : free k) (hget : h.get? k = none) :
    h.SameBut free (h.insert k 0) where
  held l := by
    rw [held_insert]
    split
    · rename_i hl
      rw [hl, held, SortedMap.getD, hget, Option.getD_none]
    · rfl
  keys l hl := by
    rw [mem_keys_insert]
    exact (or_iff_left fun hlk : l = k => hl (hlk ▸ hk)).symm

theorem SameBut.insert (hsame : h.SameBut free h') (k : String) (a : Amount) :
    SameBut free (h.insert k a) (h'.insert k a) where
  held l := by rw [held_insert, held_insert, hsame.held]
  keys l hl := by rw [mem_keys_insert, mem_keys_insert, hsame.keys l hl]

theorem SameBut.add (hsame : h.SameBut free h') (k : String) (delta : Amount) :
    SameOutcome (SameBut free) (h.add k delta) (h'.add k delta) := by
  unfold Holdings.add
  rw [hsame.held]
  exact sameOutcome_bind fun a => .ok (hsame.insert k a)

theorem SameBut.addEntries (hsame : h.SameBut free h') (es : List (String × Amount)) :
    SameOutcome (SameBut free) (h.addEntries es) (h'.addEntries es) := by
  induction es generalizing h h' with
  | nil => exact .ok hsame
  | cons e es ih => exact (hsame.add e.1 e.2).bind ih

end Holdings

namespace Agent

open Holdings (SameBut)

/-! ### Sums -/

section Sums

variable {value : String → Amount → Float} {h h' : Holdings}

/-- Entries that count zero make no difference to a sum. -/
theorem alike_foldl_filter (es : List (String × Amount)) {x x' : Float} (hx : Alike x x') :
    Alike (es.foldl (fun x e => x + value e.1 e.2) x)
      ((es.filter fun e => !(value e.1 e.2 == 0)).foldl (fun x e => x + value e.1 e.2) x') := by
  induction es generalizing x x' with
  | nil => exact hx
  | cons e es ih =>
    by_cases hzero : (value e.1 e.2 == 0) = true
    · rw [List.filter_cons_of_neg (by simp [hzero])]
      exact ih ((Machine.add_zero hzero).trans hx)
    · rw [List.filter_cons_of_pos (by simp [hzero])]
      exact ih (hx.add (.refl _))

/-- Two bundles sum up to the same if each entry of either is in the other or counts zero. -/
theorem alike_sumUtility
    (hforth : ∀ k a, h.get? k = some a → h'.get? k = some a ∨ (value k a == 0) = true)
    (hback : ∀ k a, h'.get? k = some a → h.get? k = some a ∨ (value k a == 0) = true) :
    Alike (sumUtility value h) (sumUtility value h') := by
  have hcount : h.filter (fun k a => !(value k a == 0)) =
      h'.filter (fun k a => !(value k a == 0)) := by
    refine SortedMap.ext_get? fun k => Option.ext fun a => ?_
    rw [SortedMap.get?_filter_eq_some_iff, SortedMap.get?_filter_eq_some_iff, Bool.not_eq_true']
    refine and_congr_left fun hvalue => ⟨fun hget => ?_, fun hget => ?_⟩
    · exact (hforth k a hget).resolve_right (by simp [hvalue])
    · exact (hback k a hget).resolve_right (by simp [hvalue])
  have hsum := congrArg (fun m => m.entries.foldl (fun x e => x + value e.1 e.2) 0) hcount
  exact (alike_foldl_filter h.entries (.refl 0)).trans
    (.trans (.inl hsum) (alike_foldl_filter h'.entries (.refl 0)).symm)

theorem alike_of_sameBut {free : String → Prop} (hsame : h.SameBut free h')
    (hfree : ∀ k, free k → (value k 0 == 0) = true) :
    Alike (sumUtility value h) (sumUtility value h') := by
  refine alike_sumUtility (fun k a hget => ?_) fun k a hget => ?_
  · refine (hsame.get?_eq_some hget).imp_right ?_
    rintro ⟨hk, rfl⟩
    exact hfree k hk
  · refine (hsame.symm.get?_eq_some hget).imp_right ?_
    rintro ⟨hk, rfl⟩
    exact hfree k hk

end Sums

/-! ### Weights and goods -/

/-- Whether every weight is a finite number. -/
def IsFinite (w : Weights) : Prop := ∀ e ∈ w.entries, e.2.isFinite = true

instance (w : Weights) : Decidable (IsFinite w) := by unfold IsFinite; infer_instance

theorem isFinite_weight {w : Weights} (hw : IsFinite w) (k : String) :
    (weight w k).isFinite = true := by
  unfold weight SortedMap.getD
  refine Double.isFinite_toFloat ?_
  cases hk : w.get? k with
  | none => rfl
  | some d => exact hw (k, d) (SortedMap.mem_entries_iff.2 hk)

/-- What none of a good counts: the weight times the logarithm of the shift. -/
theorem goodUtility_zero (x : Float) (shift : Amount) :
    goodUtility x 0 shift = if 0 < shift then x * shift.toFloat.log else floorUtility := by
  have hadd : Amount.add? 0 shift = some shift :=
    Amount.add?_eq_some_iff.2 (by rw [Int64.toInt_zero, Int.zero_add])
  unfold goodUtility
  rw [hadd]

namespace Preferences

variable {p : Preferences}

/-- Whether the weights of the currencies and the goods are finite numbers. -/
def HasFiniteWeights (p : Preferences) : Prop :=
  IsFinite (p.exchange?.getD .empty) ∧ IsFinite (p.utility?.getD .empty)

instance : Decidable p.HasFiniteWeights := by unfold HasFiniteWeights; infer_instance

/-- What none of a good counts where it is listed. -/
def noneCounts (p : Preferences) (g : GoodId) : Float :=
  goodUtility (weight (p.utility?.getD .empty) g) 0 p.shift

/-- **A good is neutral** if none of it counts zero. -/
def IsNeutral (p : Preferences) (g : GoodId) : Prop := (p.noneCounts g == 0) = true

instance (g : GoodId) : Decidable (p.IsNeutral g) := by unfold IsNeutral; infer_instance

theorem isNeutral_iff {g : GoodId} : p.IsNeutral g ↔ 0 < p.shift ∧
    (weight (p.utility?.getD .empty) g * p.shift.toFloat.log == 0) = true := by
  unfold IsNeutral noneCounts
  rw [goodUtility_zero]
  split
  · rename_i hshift
    exact (and_iff_right hshift).symm
  · rename_i hshift
    exact iff_of_false (by decide +kernel) fun h => hshift h.1

end Preferences

/-! ### What is owned -/

theorem sameOutcome_part {α : Type} {r : α → α → Prop} {a? b? : Option α} (p : Part)
    (h : Option.Rel r a? b?) : SameOutcome r (part p a?) (part p b?) := by
  cases h with
  | some h => exact .ok h
  | none => exact .error _

namespace Ownership

variable {free : GoodId → Prop} {o o' : Ownership}

/-- What is owned is the same, but for currencies and free goods of which there is none. -/
structure SameBut (free : GoodId → Prop) (o o' : Ownership) : Prop where
  amounts : Option.Rel (Holdings.SameBut fun _ => True) o.amounts? o'.amounts?
  goods : Option.Rel (Holdings.SameBut free) o.goods? o'.goods?

theorem SameBut.update (hsame : o.SameBut free o') (t : Transaction) :
    SameOutcome (SameBut free) (o.update t) (o'.update t) := by
  refine sameOutcome_bind fun delta => sameOutcome_bind fun deltas => ?_
  refine (sameOutcome_part _ hsame.amounts).bind fun ha => ?_
  refine (ha.add _ _).bind fun ha' => ?_
  refine (sameOutcome_part _ hsame.goods).bind fun hg => ?_
  exact (hg.addEntries _).bind fun hg' => .ok ⟨.some ha', .some hg'⟩

theorem SameBut.apply (hsame : o.SameBut free o') (ts : List Transaction) :
    SameOutcome (SameBut free) (o.apply ts) (o'.apply ts) := by
  induction ts generalizing o o' with
  | nil => exact .ok hsame
  | cons t ts ih => exact (hsame.update t).bind ih

end Ownership

/-! ### Scores -/

namespace Preferences

variable {p : Preferences} {goods goods' amounts amounts' : Holdings} {o o' : Ownership}

theorem alike_score (hp : p.HasFiniteWeights) (hgoods : goods.SameBut p.IsNeutral goods')
    (hamounts : amounts.SameBut (fun _ => True) amounts') :
    SameOutcome Alike (p.score goods amounts) (p.score goods' amounts') := by
  obtain ⟨_ | e, _ | u, fees, shift⟩ := p
  · exact .error _
  · exact .error _
  · exact .error _
  · refine .ok (.add (alike_of_sameBut hgoods fun g hg => hg) (alike_of_sameBut hamounts ?_))
    exact fun c _ => Machine.mul_zero (isFinite_weight hp.1 c) Amount.toFloat_zero

theorem alike_scoreChange (hp : p.HasFiniteWeights) (hsame : o.SameBut p.IsNeutral o')
    (t : Transaction) : SameOutcome Alike (p.scoreChange o t) (p.scoreChange o' t) := by
  refine (sameOutcome_part _ hsame.goods).bind fun hg => ?_
  refine (sameOutcome_part _ hsame.amounts).bind fun ha => ?_
  refine (alike_score hp hg ha).bind fun hbefore => ?_
  refine (hsame.apply [t]).bind fun hnext => ?_
  refine (sameOutcome_part _ hnext.goods).bind fun hg' => ?_
  refine (sameOutcome_part _ hnext.amounts).bind fun ha' => ?_
  exact (alike_score hp hg' ha').bind fun hafter => .ok (hafter.sub hbefore)

theorem exists_of_isInitialized (hp : p.isInitialized = true) :
    ∃ e u fees shift, p = ⟨some e, some u, some fees, shift⟩ := by
  obtain ⟨_ | e, _ | u, _ | fees, shift⟩ := p
  case some.some.some => exact ⟨e, u, fees, shift, rfl⟩
  all_goals cases hp

/-- A good is neutral if it may be left out where nothing else is held. -/
theorem isNeutral_of_alike {g : GoodId} (hp : p.isInitialized = true)
    (h : SameOutcome Alike (p.score .empty .empty) (p.score (SortedMap.empty.insert g 0) .empty)) :
    p.IsNeutral g := by
  obtain ⟨e, u, fees, shift, rfl⟩ := exists_of_isInitialized hp
  let x := noneCounts ⟨some e, some u, some fees, shift⟩ g
  have hscores : Alike (0 + 0) (0 + x + 0) := sameOutcome_ok_iff.1 h
  have hx : Alike (0 + x + 0) x := (Machine.add_zero rfl).trans (Machine.zero_add rfl)
  exact (hscores.trans hx).symm.beq_zero rfl

end Preferences

end Agent

/-! ### Trading none of a good -/

/-- Whether a transaction is over none of a single good, for nothing. -/
structure Transaction.TradesNone (t : Transaction) (g : GoodId) : Prop where
  amount : t.amount = 0
  fee : t.senderFee = 0
  quantities : t.quantities = .ofList [(g, 0)]

theorem Holdings.add_zero (h : Holdings) (k : String) : h.add k 0 = .ok (h.insert k (h.held k)) :=
  add_eq_ok_iff.2 ⟨h.held k, by rw [Int64.toInt_zero, Int.add_zero], rfl⟩

theorem Holdings.sameBut_insert_held (h : Holdings) (k : String) :
    SameBut (fun _ => True) (h.insert k (h.held k)) h where
  held l := by
    rw [held_insert]
    split
    · rename_i hl
      rw [hl]
    · rfl
  keys _ hfree := absurd trivial hfree

namespace Agent

/-- Trading none of a good only lists it, and the currency. -/
theorem Ownership.update_of_tradesNone {t : Transaction} {g : GoodId} (ht : t.TradesNone g)
    (a goods : Holdings) : (ofHoldings a goods).update t =
      .ok (ofHoldings (a.insert t.currency (a.held t.currency)) (goods.insert g (goods.held g))) := by
  have hdelta : currencyDelta t = .ok 0 := by
    unfold currencyDelta
    rw [ht.amount, ht.fee]
    split
    · rfl
    · rfl
  have hdeltas : goodDeltas t = .ok [(g, 0)] := by
    unfold goodDeltas
    rw [ht.quantities]
    change List.mapM _ [(g, 0)] = _
    unfold goodDelta
    cases t.senderBuys with
    | true => rfl
    | false => rfl
  have hgoods : goods.addEntries [(g, 0)] = .ok (goods.insert g (goods.held g)) :=
    bind_eq_ok_iff.2 ⟨_, goods.add_zero g, rfl⟩
  exact update_eq_ok_iff.2
    ⟨0, [(g, 0)], a, goods, _, _, hdelta, hdeltas, rfl, a.add_zero _, hgoods, rfl⟩

namespace Preferences

variable {p : Preferences}

theorem scoreChange_of_tradesNone {t : Transaction} {g : GoodId} (hp : p.isInitialized = true)
    (hfinite : p.HasFiniteWeights) (ht : t.TradesNone g) (a goods : Holdings) :
    SameOutcome Alike (p.scoreChange (.ofHoldings a goods) t)
      (do return (← p.score (goods.insert g (goods.held g)) a) - (← p.score goods a)) := by
  have hupdate := Ownership.update_of_tradesNone ht a goods
  have hscore := alike_score hfinite (.refl (goods.insert g (goods.held g)))
    (a.sameBut_insert_held t.currency)
  obtain ⟨e, u, fees, shift, rfl⟩ := exists_of_isInitialized hp
  unfold scoreChange
  simp only [Ownership.apply, hupdate]
  exact .ok ((sameOutcome_ok_iff.1 hscore).sub (.refl _))

/-- **A good that is missing scores like none of it just where none of it counts zero.** With finite
weights, a good is neutral exactly if no score tells whether it is missing or listed. Holdings that
say the same, but for currencies and neutral goods of which there is none, have the same score, and
every transaction changes their scores by the same. A transaction over none of a good, for nothing,
changes the score as listing the good does. -/
theorem scores_alike_iff_neutral (p : Preferences) (hp : p.isInitialized = true)
    (hfinite : p.HasFiniteWeights) :
    (∀ g, p.IsNeutral g ↔ ∀ goods amounts, goods.get? g = none →
      SameOutcome Alike (p.score goods amounts) (p.score (goods.insert g 0) amounts)) ∧
    (∀ goods goods' amounts amounts', goods.SameBut p.IsNeutral goods' →
      amounts.SameBut (fun _ => True) amounts' →
      SameOutcome Alike (p.score goods amounts) (p.score goods' amounts')) ∧
    (∀ o o' t, o.SameBut p.IsNeutral o' →
      SameOutcome Alike (p.scoreChange o t) (p.scoreChange o' t)) ∧
    ∀ amounts goods t g, t.TradesNone g →
      SameOutcome Alike (p.scoreChange (.ofHoldings amounts goods) t)
        (do return (← p.score (goods.insert g (goods.held g)) amounts) - (← p.score goods amounts)) := by
  refine ⟨fun g => ⟨fun hneutral goods amounts hget => ?_, fun h => ?_⟩,
    fun goods goods' amounts amounts' => alike_score hfinite,
    fun o o' t hsame => alike_scoreChange hfinite hsame t,
    fun amounts goods t g ht => scoreChange_of_tradesNone hp hfinite ht amounts goods⟩
  · exact alike_score hfinite (Holdings.sameBut_insert_zero hneutral hget) (.refl amounts)
  · exact isNeutral_of_alike hp (h .empty .empty rfl)

/-- Preferences that count none of any good at the floor, as nothing is added to its quantity. -/
def steep : Preferences :=
  ⟨some (.ofList [("FET", ⟨0x3ff8000000000000⟩)]), some (.ofList [("apple", ⟨0x4034000000000000⟩)]),
    some ⟨1, 1⟩, 0⟩

theorem scores_alike_iff_neutral_steep :
    (steep.isInitialized = true ∧ steep.HasFiniteWeights) ∧
      SameOutcome Alike (steep.score (.ofList [("apple", 5)]) (.ofList [("FET", 10)]))
        (steep.score (.ofList [("apple", 5)]) (.ofList [("BTC", 0), ("FET", 10)])) ∧
      ¬ steep.IsNeutral "apple" ∧
      ∃ goods amounts, goods.get? "apple" = none ∧
        ¬ SameOutcome Alike (steep.score goods amounts)
          (steep.score (goods.insert "apple" 0) amounts) := by
  have hp : steep.isInitialized = true := rfl
  have hfinite : steep.HasFiniteWeights := by decide +kernel
  have happle : ¬ steep.IsNeutral "apple" := fun h => absurd (isNeutral_iff.1 h).1 (by decide)
  obtain ⟨hneutral, hscore, -⟩ := scores_alike_iff_neutral steep hp hfinite
  refine ⟨⟨hp, hfinite⟩, hscore _ _ _ _ (.refl _) ?_, happle, ?_⟩
  · exact Holdings.sameBut_insert_zero trivial (h := .ofList [("FET", 10)]) (k := "BTC") rfl
  · simpa only [hneutral, not_forall, exists_prop] using happle

/-- A currency at par and a good of some weight, with the usual shift. -/
def moderate : Preferences :=
  ⟨some (.ofList [("FET", ⟨0x3ff0000000000000⟩)]), some (.ofList [("apple", ⟨0x4034000000000000⟩)]),
    some ⟨1, 1⟩, unset.shift⟩

/-- The offer to pay for no apples. -/
def noApples (amount fee : Amount) : Transaction :=
  ⟨.propose, "tx0", "agent", "peer", true, "FET", amount, fee, 0, .ofList [("apple", 0)],
    "off_chain", .empty, none⟩

/-- Not every good that is missing scores like none of it: to be offered none of a good can change
the score, and whether it does may depend on the good being listed. With the usual shift, whose
logarithm is 4.6, it pays to buy no apples for 11 just if none are listed. -/
theorem not_forall_scores_alike :
    (¬ ∀ (p : Preferences) (goods goods' amounts amounts' : Holdings), p.isInitialized = true →
      p.HasFiniteWeights → goods.SameBut (fun _ => True) goods' →
      amounts.SameBut (fun _ => True) amounts' →
      SameOutcome Alike (p.score goods amounts) (p.score goods' amounts')) ∧
    (¬ ∀ (p : Preferences) (o o' : Ownership) (t : Transaction), p.isInitialized = true →
      p.HasFiniteWeights → o.SameBut (fun _ => True) o' →
      SameOutcome Alike (p.scoreChange o t) (p.scoreChange o' t)) ∧
    ((100.0 : Float).log = 4.605170185988092 →
      let o (goods : Holdings) : Ownership := .ofHoldings (.ofList [("FET", 100)]) goods
      ∃ x y : Float, moderate.scoreChange (o .empty) (noApples 10 1) = .ok x ∧ 0 < x ∧
        moderate.scoreChange (o (.ofList [("apple", 0)])) (noApples 10 1) = .ok y ∧ y < 0) := by
  have hfinite : steep.HasFiniteWeights := by decide +kernel
  have hsame : Holdings.SameBut (fun _ => True) .empty (.ofList [("apple", 0)]) :=
    Holdings.sameBut_insert_zero trivial (h := .empty) (k := "apple") rfl
  refine ⟨fun h => ?_, fun h => ?_, fun hlog => ?_⟩
  · have hscores :=
      h steep .empty (.ofList [("apple", 0)]) .empty .empty rfl hfinite hsame (.refl _)
    exact absurd hscores (by decide +kernel)
  · have hchanges := h steep (.ofHoldings .empty .empty)
      (.ofHoldings .empty (.ofList [("apple", 0)])) (noApples 0 0) rfl hfinite
      ⟨.some (.refl _), .some hsame⟩
    exact absurd hchanges (by decide +kernel)
  · let x := 20.0 * (100.0 : Float).log
    have hx : x = 92.10340371976184 := by
      unfold x
      rw [hlog]
      decide +kernel
    refine ⟨0 + x + 89.0 - 100.0, 0 + x + 89.0 - (0 + x + 100.0), rfl, ?_, rfl, ?_⟩
    · rw [hx]
      decide +kernel
    · rw [hx]
      decide +kernel

end Preferences

end Agent

end Bazaar
