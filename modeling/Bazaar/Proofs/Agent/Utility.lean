import Bazaar.Proofs.Agent.Scores

/-!
What a good is due to count in the logarithmic utility: nothing without a weight, and with one the
weight times the logarithm of its exact shifted quantity, or the floor where that is not positive.
What it does count is told from the shifted quantity first, so the floor is charged for goods
without a weight, and for quantities that are too large to be shifted. Main statement: which goods
count what they are due (`countsAsDue_iff`), and what follows for sums and for goods that are taken
out of them.
-/

namespace Bazaar.Agent

open Machine

variable {w : Weights} {g : GoodId} {quantity shift : Amount} {goods : Holdings}

/-! ### What a good counts -/

/-- The exact shifted quantity. -/
def shifted (quantity shift : Amount) : Int := quantity.toInt + shift.toInt

/-- The logarithm of a positive integer, taken of the machine number nearest to it. -/
def logarithm (n : Int) : Float := n.natAbs.toUInt64.toFloat.log

/-- Whether the logarithm of the shifted quantity is taken: if it is positive and an amount. -/
def HasLogarithm (quantity shift : Amount) : Prop :=
  0 < shifted quantity shift ∧ Amount.InRange (shifted quantity shift)

instance : Decidable (HasLogarithm quantity shift) := by unfold HasLogarithm; infer_instance

/-- **What a good is due to count**: nothing without a weight. With one, the weight times the
logarithm of the shifted quantity, or the floor if that is not positive. -/
def dueUtility (w : Weights) (g : GoodId) (quantity shift : Amount) : Float :=
  match w.get? g with
  | none => 0
  | some d =>
    if 0 < shifted quantity shift then d.toFloat * logarithm (shifted quantity shift)
    else floorUtility

theorem log_toFloat {a : Amount} (ha : 0 < a) : a.toFloat.log = logarithm a.toInt := by
  have hneg : ¬ a < 0 := by
    rw [Amount.lt_iff, Int64.toInt_zero] at *
    omega
  unfold Amount.toFloat logarithm
  rw [if_neg hneg]

/-- **What a good counts** depends on its shifted quantity first, and then on its weight. -/
theorem goodUtility_eq (x : Float) (quantity shift : Amount) :
    goodUtility x quantity shift =
      if HasLogarithm quantity shift then x * logarithm (shifted quantity shift)
      else floorUtility := by
  unfold goodUtility
  cases hadd : Amount.add? quantity shift with
  | none =>
    have hout : ¬ Amount.InRange (shifted quantity shift) := Amount.ofInt?_eq_none_iff.1 hadd
    rw [if_neg fun h => hout h.2]
  | some a =>
    have ha : a.toInt = shifted quantity shift := Amount.add?_eq_some_iff.1 hadd
    have hpositive : HasLogarithm quantity shift ↔ 0 < a := by
      unfold HasLogarithm
      rw [← ha, Amount.lt_iff, Int64.toInt_zero]
      exact and_iff_left (Amount.inRange_toInt a)
    simp only [hpositive, ← ha]
    split
    · rename_i hlt
      rw [log_toFloat hlt]
    · rfl

/-! ### What a good is due -/

/-- **A good counts as due** if what it counts is like what it is due to count. -/
def CountsAsDue (w : Weights) (g : GoodId) (quantity shift : Amount) : Prop :=
  Alike (goodUtility (weight w g) quantity shift) (dueUtility w g quantity shift)

theorem weight_of_get? {d : Double} (hd : w.get? g = some d) : weight w g = d.toFloat := by
  rw [weight, SortedMap.getD, hd, Option.getD_some]

theorem beq_zero_weight (hnone : w.get? g = none) : (weight w g == 0) = true := by
  rw [weight, SortedMap.getD, hnone, Option.getD_none]
  rfl

theorem dueUtility_of_none (hnone : w.get? g = none) : dueUtility w g quantity shift = 0 := by
  rw [dueUtility, hnone]

theorem dueUtility_of_some {d : Double} (hd : w.get? g = some d) :
    dueUtility w g quantity shift =
      if 0 < shifted quantity shift then d.toFloat * logarithm (shifted quantity shift)
      else floorUtility := by
  rw [dueUtility, hd]

/-- A good with a weight counts what it is due unless its quantity is too large to be shifted. -/
theorem goodUtility_eq_due {d : Double} (hd : w.get? g = some d)
    (hrange : 0 < shifted quantity shift → Amount.InRange (shifted quantity shift)) :
    goodUtility (weight w g) quantity shift = dueUtility w g quantity shift := by
  rw [goodUtility_eq, dueUtility_of_some hd, weight_of_get? hd]
  have hcases : HasLogarithm quantity shift ↔ 0 < shifted quantity shift :=
    ⟨And.left, fun hpositive => ⟨hpositive, hrange hpositive⟩⟩
  simp only [hcases]

/-- A good without a weight counts the floor unless its shifted quantity has a logarithm, and then
nothing, as long as that is a finite number. -/
theorem countsAsDue_iff_of_none (hnone : w.get? g = none) : CountsAsDue w g quantity shift ↔
    HasLogarithm quantity shift ∧ (logarithm (shifted quantity shift)).isFinite = true := by
  unfold CountsAsDue
  rw [goodUtility_eq, dueUtility_of_none hnone]
  split
  · rename_i hlog
    rw [and_iff_right hlog, ← zero_mul_iff (beq_zero_weight hnone)]
    exact ⟨fun halike => halike.beq_zero rfl, fun hzero => .inr hzero⟩
  · rename_i hlog
    exact iff_of_false (by decide +kernel) fun h => hlog h.1

/-- The floor is nothing that a zero makes of any number. -/
theorem not_alike_floorUtility {z x : Float} (hz : (z == 0) = true) :
    ¬ Alike floorUtility (z * x) := by
  intro halike
  cases hx : x.isFinite with
  | true => exact absurd (halike.beq_zero (Machine.zero_mul hz hx)) (by decide +kernel)
  | false =>
    rw [zero_mul_eq_nan hz hx] at halike
    exact absurd halike (by decide +kernel)

/-! ### Sums -/

theorem alike_foldl {value value' : String → Amount → Float} {es : List (String × Amount)}
    (hvalue : ∀ e ∈ es, Alike (value e.1 e.2) (value' e.1 e.2)) {x x' : Float} (hx : Alike x x') :
    Alike (es.foldl (fun x e => x + value e.1 e.2) x)
      (es.foldl (fun x e => x + value' e.1 e.2) x') := by
  induction es generalizing x x' with
  | nil => exact hx
  | cons e es ih =>
    obtain ⟨he, hes⟩ := List.forall_mem_cons.1 hvalue
    exact ih hes (hx.add he)

/-- Sums are alike if their terms are, key by key. -/
theorem alike_sumUtility_of_alike {value value' : String → Amount → Float} {h : Holdings}
    (hvalue : ∀ k a, h.get? k = some a → Alike (value k a) (value' k a)) :
    Alike (sumUtility value h) (sumUtility value' h) := by
  have hentries : ∀ e ∈ h.entries, Alike (value e.1 e.2) (value' e.1 e.2) := fun e he =>
    hvalue e.1 e.2 (SortedMap.mem_entries_iff.1 he)
  exact alike_foldl hentries (.refl 0)

/-- A good that counts zero may be taken out. -/
theorem alike_logUtility_erase
    (hzero : ∀ q, goods.get? g = some q → (goodUtility (weight w g) q shift == 0) = true) :
    Alike (logUtility w (goods.erase g) shift) (logUtility w goods shift) := by
  refine alike_sumUtility (fun k a hget => ?_) fun k a hget => ?_
  · rw [SortedMap.get?_erase] at hget
    split at hget
    · cases hget
    · exact .inl hget
  · rw [SortedMap.get?_erase]
    split
    · rename_i hk
      subst hk
      exact .inr (hzero a hget)
    · exact .inl hget

/-- **A good without a weight may be taken out** of whatever holdings exactly if it counts as
due. -/
theorem forall_alike_erase_iff (hnone : w.get? g = none) :
    (∀ goods, goods.get? g = some quantity →
      Alike (logUtility w (goods.erase g) shift) (logUtility w goods shift)) ↔
    CountsAsDue w g quantity shift := by
  unfold CountsAsDue
  rw [dueUtility_of_none hnone]
  constructor
  · intro h
    -- where nothing else is held, the sum is what the good counts
    have hsingle := h (SortedMap.empty.insert g quantity) (by rw [SortedMap.get?_insert, if_pos rfl])
    have hrest : logUtility w ((SortedMap.empty.insert g quantity).erase g) shift = 0 := by
      have hempty : (SortedMap.empty.insert g quantity).erase g = .empty := by
        refine SortedMap.ext_get? fun k => ?_
        rw [SortedMap.get?_erase, SortedMap.get?_insert, SortedMap.get?_empty]
        split
        · rfl
        · rfl
      rw [hempty]
      rfl
    rw [hrest] at hsingle
    exact (hsingle.trans (Machine.zero_add rfl)).symm
  · intro hdue goods hget
    refine alike_logUtility_erase fun q hq => ?_
    rw [hget] at hq
    cases hq
    exact hdue.beq_zero rfl

/-- **Which goods count what they are due.** The logarithmic utility sums up, over the goods that
are held, the weight times the logarithm of the shifted quantity where that is positive and an
amount, and the floor for every other good. So a good with a weight counts what it is due unless its
shifted quantity is positive but no amount: then the floor stands for the logarithm. A good without
a weight is due nothing, and it counts nothing exactly if its shifted quantity has a logarithm,
which is finite. If all goods count as due, their sum is what is due; and a good without a weight
may be taken out of whatever holdings exactly if it counts as due. -/
theorem countsAsDue_iff (w : Weights) (shift : Amount) :
    (∀ goods, logUtility w goods shift = sumUtility (fun g q =>
      if HasLogarithm q shift then weight w g * logarithm (shifted q shift) else floorUtility)
        goods) ∧
    (∀ g q d, w.get? g = some d →
      ((0 < shifted q shift → Amount.InRange (shifted q shift)) → CountsAsDue w g q shift) ∧
      (0 < shifted q shift → ¬ Amount.InRange (shifted q shift) →
        goodUtility (weight w g) q shift = floorUtility ∧
        dueUtility w g q shift = d.toFloat * logarithm (shifted q shift))) ∧
    (∀ g q, w.get? g = none → (CountsAsDue w g q shift ↔
      HasLogarithm q shift ∧ (logarithm (shifted q shift)).isFinite = true)) ∧
    (∀ goods, (∀ g q, goods.get? g = some q → CountsAsDue w g q shift) →
      Alike (logUtility w goods shift) (sumUtility (fun g q => dueUtility w g q shift) goods)) ∧
    ∀ g q, w.get? g = none → ((∀ goods, goods.get? g = some q →
      Alike (logUtility w (goods.erase g) shift) (logUtility w goods shift)) ↔
        CountsAsDue w g q shift) := by
  refine ⟨fun goods => ?_, fun g q d hd => ⟨fun hrange => ?_, fun hpositive hout => ⟨?_, ?_⟩⟩,
    fun g q => countsAsDue_iff_of_none, fun goods => alike_sumUtility_of_alike,
    fun g q => forall_alike_erase_iff⟩
  · unfold logUtility
    simp only [goodUtility_eq]
  · exact .inl (goodUtility_eq_due hd hrange)
  · rw [goodUtility_eq, if_neg fun hlog => hout hlog.2]
  · rw [dueUtility_of_some hd, if_pos hpositive]

/-- A weight for apples, and none for pears. -/
def applesOnly : Weights := .ofList [("apple", ⟨0x4034000000000000⟩)]

/-- With 100 to be added to every quantity, a debt of 100 counts the floor, for apples as for pears,
though a pear is due nothing. -/
theorem countsAsDue_iff_debt :
    CountsAsDue applesOnly "apple" (-100) 100 ∧ ¬ CountsAsDue applesOnly "pear" (-100) 100 ∧
    Alike (logUtility applesOnly (.ofList [("apple", -100)]) 100)
      (sumUtility (fun g q => dueUtility applesOnly g q 100) (.ofList [("apple", -100)])) ∧
    ∃ goods, goods.get? "pear" = some (-100) ∧
      ¬ Alike (logUtility applesOnly (goods.erase "pear") 100) (logUtility applesOnly goods 100) := by
  obtain ⟨-, hweighed, hpears, hsum, herase⟩ := countsAsDue_iff applesOnly 100
  have happle : CountsAsDue applesOnly "apple" (-100) 100 :=
    (hweighed "apple" (-100) ⟨0x4034000000000000⟩ rfl).1 (by decide)
  have hpear : ¬ CountsAsDue applesOnly "pear" (-100) 100 := by
    rw [hpears "pear" (-100) rfl]
    exact fun h => absurd h.1 (by decide)
  refine ⟨happle, hpear, hsum _ fun g q hget => ?_, ?_⟩
  · have hmem : (g, q) ∈ [("apple", -100)] := SortedMap.mem_entries_iff.2 hget
    cases List.mem_singleton.1 hmem
    exact happle
  · rw [← herase "pear" (-100) rfl] at hpear
    simpa only [not_forall, exists_prop] using hpear

/-- Not every good counts what it is due. The floor is charged for goods without a weight, so that
these cannot be left out, and for positive shifted quantities that are no amounts. -/
theorem not_forall_countsAsDue :
    (¬ ∀ w g q shift, w.get? g = none → CountsAsDue w g q shift) ∧
    (¬ ∀ w goods g shift, w.get? g = none →
      Alike (logUtility w (goods.erase g) shift) (logUtility w goods shift)) ∧
    ¬ ∀ w g q shift, w.get? g ≠ none → 0 < shifted q shift → CountsAsDue w g q shift := by
  refine ⟨fun h => ?_, fun h => ?_, fun h => ?_⟩
  · have hpear := h .empty "pear" (-100) 100 rfl
    exact absurd (countsAsDue_iff_of_none rfl |>.1 hpear).1 (by decide)
  · have hpears := h .empty (.ofList [("pear", -100)]) "pear" 100 rfl
    exact absurd hpears (by decide +kernel)
  · let w : Weights := .ofList [("apple", .zero)]
    have happle := h w "apple" .greatest 1 (Option.some_ne_none _) (by decide)
    unfold CountsAsDue at happle
    rw [goodUtility_eq, dueUtility_of_some (d := .zero) rfl, if_neg (by decide), if_pos (by decide)]
      at happle
    exact not_alike_floorUtility rfl happle

end Bazaar.Agent
