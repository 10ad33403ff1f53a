import Bazaar.Agent.Preferences
import Bazaar.Proofs.Agent.Updates
import Mathlib.Data.Rat.Floor

/-!
How a fee is divided between buyer and seller. Only the first product of a share can leave the range
of amounts (`share_eq_ok_iff`, `share_eq_error_iff`): everything after it is smaller. Main
statement: the two shares are the halves of the fee, rounded up and rounded down (`split_exact`).
-/

namespace Bazaar.Agent.Fees

variable {fee percent : Amount} {e : Fault}

/-! ### Shares -/

/-- A hundredth of an integer, rounded up. -/
def hundredthUp (n : Int) : Int := (n + 99) / 100

theorem inRange_hundredthUp {n : Int} (h : Amount.InRange n) : Amount.InRange (hundredthUp n) := by
  unfold Amount.InRange at *
  unfold hundredthUp
  omega

/-- A share is found if the product with the percentage is. -/
theorem share_of_mul? {scaled : Amount} (h : Amount.mul? fee percent = some scaled) :
    share fee percent = .ok (Int64.ofInt (hundredthUp scaled.toInt)) := by
  have hscaled := Amount.inRange_toInt scaled
  obtain ⟨quotient, hquotient⟩ : ∃ q : Amount, q.toInt = scaled.toInt / 100 := by
    refine ⟨_, Amount.toInt_ofInt (n := scaled.toInt / 100) ?_⟩
    unfold Amount.InRange at *
    omega
  have hdiv : Amount.ofInt? (scaled.toInt / 100) = some quotient :=
    Amount.ofInt?_eq_some_iff.2 hquotient
  have hup := Amount.toInt_ofInt (inRange_hundredthUp hscaled)
  have hshare : share fee percent =
      if scaled.toInt % 100 = 0 then .ok quotient
      else figure .feeShare (Amount.add? quotient 1) := by
    simp only [share, h, hdiv, figure, bind, Except.bind, pure, Except.pure]
  rw [hshare]
  unfold hundredthUp at *
  split
  · -- a multiple of a hundred is not rounded
    refine congrArg Except.ok (Int64.toInt_inj.1 ?_)
    rw [hup, hquotient]
    omega
  · refine figure_eq_ok_iff.2 (Amount.add?_eq_some_iff.2 ?_)
    rw [hup, hquotient, Int64.toInt_one]
    omega

theorem share_of_mul?_eq_none (h : Amount.mul? fee percent = none) :
    share fee percent = .error (.overflow .feeShare) := by
  unfold share
  rw [h]
  rfl

/-- **A share of a fee** is its percentage rounded up. -/
theorem share_eq_ok_iff {a : Amount} : share fee percent = .ok a ↔
    Amount.InRange (fee.toInt * percent.toInt) ∧
      a.toInt = hundredthUp (fee.toInt * percent.toInt) := by
  cases h : Amount.mul? fee percent with
  | none =>
    rw [share_of_mul?_eq_none h]
    refine iff_of_false nofun fun hin => ?_
    exact Amount.ofInt?_eq_none_iff.1 h hin.1
  | some scaled =>
    have hscaled : scaled.toInt = fee.toInt * percent.toInt := Amount.ofInt?_eq_some_iff.1 h
    have hin := Amount.inRange_toInt scaled
    rw [share_of_mul? h, ← hscaled, Except.ok.injEq, ← Int64.toInt_inj,
      Amount.toInt_ofInt (inRange_hundredthUp hin), eq_comm (a := hundredthUp _)]
    exact (and_iff_right hin).symm

theorem share_eq_error_iff : share fee percent = .error e ↔
    ¬ Amount.InRange (fee.toInt * percent.toInt) ∧ e = .overflow .feeShare := by
  cases h : Amount.mul? fee percent with
  | none =>
    rw [share_of_mul?_eq_none h, Except.error.injEq, eq_comm]
    exact (and_iff_right (Amount.ofInt?_eq_none_iff.1 h)).symm
  | some scaled =>
    rw [share_of_mul? h, ← Amount.ofInt?_eq_some_iff.1 h]
    exact iff_of_false nofun fun hout => hout.1 (Amount.inRange_toInt scaled)

/-! ### Both shares -/

theorem hundredthUp_half (n : Int) : hundredthUp (n * 50) = (n + 1) / 2 := by
  unfold hundredthUp
  omega

/-- Either party is asked for the same share, before the seller's is corrected. -/
theorem share_half (h : Amount.InRange (50 * fee.toInt)) :
    ∃ half : Amount, half.toInt = (fee.toInt + 1) / 2 ∧ share fee buyerPercent = .ok half ∧
      share fee (100 - buyerPercent) = .ok half := by
  have hbuyer : buyerPercent.toInt = 50 := rfl
  have hseller : (100 - buyerPercent).toInt = 50 := rfl
  have hin : Amount.InRange (fee.toInt * 50) := Int.mul_comm 50 _ ▸ h
  have hhalf := Amount.toInt_ofInt (inRange_hundredthUp hin)
  refine ⟨Int64.ofInt (hundredthUp (fee.toInt * 50)), ?_, share_eq_ok_iff.2 ?_,
    share_eq_ok_iff.2 ?_⟩
  · rw [hhalf, hundredthUp_half]
  · rw [hbuyer]
    exact ⟨hin, hhalf⟩
  · rw [hseller]
    exact ⟨hin, hhalf⟩

/-- **The halves of a fee**: the buyer's is rounded up and the seller's is rounded down. -/
theorem split_of_inRange (h : Amount.InRange (50 * fee.toInt)) :
    ∃ f, split fee = .ok f ∧ f.buyer.toInt = (fee.toInt + 1) / 2 ∧ f.seller.toInt = fee.toInt / 2 := by
  obtain ⟨half, hhalf, hbuyer, hseller⟩ := share_half h
  unfold Amount.InRange at h
  obtain ⟨total, htotal⟩ : ∃ total, Amount.add? half half = some total := by
    refine ⟨_, Amount.add?_eq_some_iff.2 (Amount.toInt_ofInt ?_)⟩
    unfold Amount.InRange
    omega
  have hsum := Amount.add?_eq_some_iff.1 htotal
  unfold split
  rw [hbuyer, hseller]
  simp only [bind, Except.bind, htotal, figure]
  split
  · -- an odd fee: the halves exceed it by one
    rename_i hless
    rw [Amount.lt_iff] at hless
    obtain ⟨less, hseller'⟩ : ∃ less, Amount.sub? half 1 = some less := by
      refine ⟨_, Amount.sub?_eq_some_iff.2 (Amount.toInt_ofInt ?_)⟩
      rw [Int64.toInt_one]
      unfold Amount.InRange
      omega
    have hless' := Amount.sub?_eq_some_iff.1 hseller'
    rw [Int64.toInt_one] at hless'
    refine ⟨⟨half, less⟩, by rw [hseller']; rfl, hhalf, ?_⟩
    change less.toInt = fee.toInt / 2
    omega
  · rename_i hless
    rw [Amount.lt_iff] at hless
    refine ⟨⟨half, half⟩, rfl, hhalf, ?_⟩
    change half.toInt = fee.toInt / 2
    omega

theorem split_of_not_inRange (h : ¬ Amount.InRange (50 * fee.toInt)) :
    split fee = .error (.overflow .feeShare) := by
  refine bind_eq_error_iff.2 (.inl (share_eq_error_iff.2 ⟨?_, rfl⟩))
  rwa [show buyerPercent.toInt = 50 from rfl, Int.mul_comm]

theorem floor_half (n : Int) : ⌊(n : ℚ) / 2⌋ = n / 2 := Rat.floor_intCast_div_natCast n 2

theorem ceil_half (n : Int) : ⌈(n : ℚ) / 2⌉ = (n + 1) / 2 := by
  have h : ⌈(n : ℚ) / 2⌉ = -(-n / 2) := Rat.ceil_intCast_div_natCast n 2
  omega

/-- **A fee is divided exactly**, whatever its sign. It can be divided just if its fiftyfold is an
amount; the shares then make up the fee, the buyer's being its half rounded up and the seller's its
half rounded down. If it cannot be divided, this is for the first product alone, and nothing that is
computed after it ever fails. -/
theorem split_exact (fee : Amount) :
    ((∃ f, split fee = .ok f) ↔ Amount.InRange (50 * fee.toInt)) ∧
    (∀ f, split fee = .ok f → f.buyer.toInt + f.seller.toInt = fee.toInt ∧
      f.buyer.toInt = ⌈(fee.toInt : ℚ) / 2⌉ ∧ f.seller.toInt = ⌊(fee.toInt : ℚ) / 2⌋ ∧
      (f.buyer.toInt - f.seller.toInt = 0 ∨ f.buyer.toInt - f.seller.toInt = 1) ∧
      (0 ≤ fee.toInt → 0 ≤ f.buyer.toInt ∧ 0 ≤ f.seller.toInt)) ∧
    ∀ e, split fee = .error e ↔ Amount.mul? fee buyerPercent = none ∧ e = .overflow .feeShare := by
  have hproduct : Amount.mul? fee buyerPercent = none ↔ ¬ Amount.InRange (50 * fee.toInt) := by
    rw [Amount.mul?, Amount.ofInt?_eq_none_iff, show buyerPercent.toInt = 50 from rfl, Int.mul_comm]
  by_cases h : Amount.InRange (50 * fee.toInt)
  · obtain ⟨f, hf, hbuyer, hseller⟩ := split_of_inRange h
    refine ⟨⟨fun _ => h, fun _ => ⟨f, hf⟩⟩, fun f' hf' => ?_, fun e => ?_⟩
    · obtain rfl : f = f' := Except.ok.inj (hf.symm.trans hf')
      refine ⟨?_, ?_, ?_, ?_, ?_⟩
      · omega
      · rw [ceil_half, hbuyer]
      · rw [floor_half, hseller]
      · omega
      · omega
    · rw [hf, hproduct]
      exact iff_of_false nofun fun hout => hout.1 h
  · have hsplit := split_of_not_inRange h
    refine ⟨iff_of_false (fun ⟨f, hf⟩ => ?_) h, fun f hf => ?_, fun e => ?_⟩
    · cases hsplit.symm.trans hf
    · cases hsplit.symm.trans hf
    · rw [hsplit, hproduct, Except.error.injEq, eq_comm]
      exact (and_iff_right h).symm

/-- The odd unit of a negative fee falls to the seller; the second fee is the least that can be
divided. -/
example : split (-3) = .ok ⟨-1, -2⟩ ∧
    split (-184467440737095516) = .ok ⟨-92233720368547758, -92233720368547758⟩ ∧
    split (-184467440737095517) = .error (.overflow .feeShare) := by decide +kernel

end Bazaar.Agent.Fees
