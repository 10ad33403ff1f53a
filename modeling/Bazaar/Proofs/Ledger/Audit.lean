import Bazaar.Ledger.Audit
import Bazaar.Proofs.Amount

/-!
What an audit finds. It adds up in the range of amounts, so a sum can be lost on the way to a total
that is an amount again; books are never passed for that reason, but they can be refused, and then
the figures of the finding are not the sums. Main statements: books that pass are exactly balanced,
and books without debts pass if they are (`audit_exact`), and which figures of an anomaly are the
sums brought into range (`audit_reports`).
-/

namespace Bazaar

namespace Amount

/-- The amount nearest to an integer: the integer itself if it is one, and else the end of the range
on its side. -/
def saturate (n : Int) : Amount :=
  if InRange n then Int64.ofInt n else if n < 0 then Int64.minValue else greatest

theorem toInt_saturate {n : Int} (h : InRange n) : (saturate n).toInt = n := by
  rw [saturate, if_pos h]
  exact toInt_ofInt h

theorem saturate_eq_greatest_iff {n : Int} : saturate n = greatest ↔ greatest.toInt ≤ n := by
  have hgreatest : greatest.toInt = 2 ^ 63 - 1 := rfl
  by_cases h : InRange n
  · rw [← Int64.toInt_inj, toInt_saturate h]
    unfold InRange at h
    omega
  · rw [saturate, if_neg h]
    unfold InRange at h
    split
    · exact iff_of_false (by decide) (by omega)
    · exact iff_of_true rfl (by omega)

theorem IsSummable.inRange {as : List Amount} (h : IsSummable as) : InRange (total as) :=
  h as (List.prefix_refl as)

/-- **What an audit reports as the sum of a list**: the sum, if the partial sums leave the range
nowhere, and else the largest amount. -/
structure Reports (r : Amount) (as : List Amount) : Prop where
  exact : IsSummable as → r.toInt = total as
  lost : ¬ IsSummable as → r = greatest

theorem reports_getD (as : List Amount) : Reports ((sum? as).getD greatest) as := by
  cases h : sum? as with
  | some s =>
    obtain ⟨hsum, hs⟩ := sum?_eq_some_iff.1 h
    exact ⟨fun _ => hs, fun hnot => absurd hsum hnot⟩
  | none =>
    refine ⟨fun hsum => ?_, fun _ => rfl⟩
    have hsome : sum? as = some (Int64.ofInt (total as)) :=
      sum?_eq_some_iff.2 ⟨hsum, toInt_ofInt hsum.inRange⟩
    cases h.symm.trans hsome

/-- The largest amount stands for a sum that was lost, which is right just for the sums that are
not below it. -/
theorem Reports.eq_saturate_iff {r : Amount} {as : List Amount} (h : r.Reports as) :
    r = saturate (total as) ↔ IsSummable as ∨ greatest.toInt ≤ total as := by
  by_cases hsum : IsSummable as
  · rw [← Int64.toInt_inj, toInt_saturate hsum.inRange]
    exact iff_of_true (h.exact hsum) (.inl hsum)
  · rw [h.lost hsum, eq_comm, saturate_eq_greatest_iff]
    exact ⟨.inr, fun h' => h'.resolve_left hsum⟩

end Amount

namespace Ledger

open Amount (IsSummable total saturate)

variable {minted : Amount} {balances fees : List Amount}

/-- Books pass just if both sums stay in range throughout and add up to what was minted. -/
theorem audit_eq_balanced_iff : audit minted balances fees = .balanced ↔
    IsSummable balances ∧ IsSummable fees ∧ minted.toInt = total balances + total fees := by
  have hif : audit minted balances fees = .balanced ↔
      ((Amount.sum? balances).bind fun c => (Amount.sum? fees).bind fun b => Amount.add? c b) =
        some minted := by
    simp only [audit]
    split
    · rename_i h
      exact iff_of_true rfl h
    · rename_i h
      exact iff_of_false nofun h
  rw [hif]
  simp only [Option.bind_eq_some_iff, Amount.sum?_eq_some_iff, Amount.add?_eq_some_iff]
  constructor
  · rintro ⟨c, ⟨hbalances, hc⟩, b, ⟨hfees, hb⟩, hminted⟩
    exact ⟨hbalances, hfees, by omega⟩
  · rintro ⟨hbalances, hfees, hminted⟩
    have hc := Amount.toInt_ofInt hbalances.inRange
    have hb := Amount.toInt_ofInt hfees.inRange
    exact ⟨_, ⟨hbalances, hc⟩, _, ⟨hfees, hb⟩, by omega⟩

/-- **Books without debts pass** if they add up: no partial sum exceeds what was minted. -/
theorem audit_eq_balanced_of_nonneg (hbalances : ∀ b ∈ balances, 0 ≤ b.toInt)
    (hfees : ∀ f ∈ fees, 0 ≤ f.toInt) (h : minted.toInt = total balances + total fees) :
    audit minted balances fees = .balanced := by
  have hb := Amount.total_nonneg hbalances
  have hf := Amount.total_nonneg hfees
  exact audit_eq_balanced_iff.2 ⟨Amount.isSummable_of_nonneg (n := minted) hbalances (by omega),
    Amount.isSummable_of_nonneg (n := minted) hfees (by omega), h⟩

/-- **An audit never passes wrong books.** Whatever was minted, whatever is on the accounts, debts
included, and whatever was logged: books that pass add up exactly among the integers, and books
that do and have neither debts nor negative fees pass. -/
theorem audit_exact (minted : Amount) (balances : Holdings) (log : List Transfer) :
    (audit minted balances.values (log.map (·.fee)) = .balanced →
      minted.toInt = total balances.values + total (log.map (·.fee))) ∧
    ((∀ b ∈ balances.values, 0 ≤ b) → (∀ t ∈ log, 0 ≤ t.fee) →
      minted.toInt = total balances.values + total (log.map (·.fee)) →
      audit minted balances.values (log.map (·.fee)) = .balanced) := by
  refine ⟨fun h => (audit_eq_balanced_iff.1 h).2.2, fun hbalances hfees h => ?_⟩
  refine audit_eq_balanced_of_nonneg (fun b hb => Amount.nonneg_iff.1 (hbalances b hb)) ?_ h
  intro f hf
  obtain ⟨t, ht, rfl⟩ := List.mem_map.1 hf
  exact Amount.nonneg_iff.1 (hfees t ht)

/-- **The figures of an anomaly**: what was minted, and the sums of the balances and of the fees. A
sum is reported exactly if its partial sums stay in range and as the largest amount if they do not,
so it is the exact sum brought into range just in the first case and for sums that are no smaller
than the largest amount. -/
theorem audit_reports {minted m c b : Amount} {balances : Holdings} {log : List Transfer}
    (h : audit minted balances.values (log.map (·.fee)) = .anomaly m c b) :
    m = minted ∧ c.Reports balances.values ∧ b.Reports (log.map (·.fee)) ∧
    (c = saturate (total balances.values) ↔
      IsSummable balances.values ∨ Amount.greatest.toInt ≤ total balances.values) ∧
    (b = saturate (total (log.map (·.fee))) ↔
      IsSummable (log.map (·.fee)) ∨ Amount.greatest.toInt ≤ total (log.map (·.fee))) := by
  simp only [audit] at h
  split at h
  · cases h
  · cases h
    have hc := Amount.reports_getD balances.values
    have hb := Amount.reports_getD (log.map (·.fee))
    exact ⟨rfl, hc, hb, hc.eq_saturate_iff, hb.eq_saturate_iff⟩

/-- Accounts that owe more together than an amount can say. -/
def debts : Holdings := .ofList [("amy", Int64.minValue), ("bob", -1)]

/-- The sum of the debts is reported as the largest amount. -/
theorem audit_reports_debts :
    audit 0 debts.values [] = .anomaly 0 Amount.greatest 0 ∧
      Amount.Reports Amount.greatest debts.values ∧
      Amount.greatest ≠ saturate (total debts.values) := by
  have h : audit 0 debts.values (([] : List Transfer).map (·.fee)) =
      .anomaly 0 Amount.greatest 0 := by decide
  exact ⟨h, (audit_reports h).2.1, by decide⟩

/-- The figures of an anomaly are not always the sums brought into range. -/
theorem not_forall_audit_saturates :
    ¬ ∀ (minted : Amount) (balances : Holdings) (log : List Transfer) (m c b : Amount),
      audit minted balances.values (log.map (·.fee)) = .anomaly m c b →
        c = saturate (total balances.values) ∧ b = saturate (total (log.map (·.fee))) := by
  intro h
  have hdebts := (h 0 debts [] 0 Amount.greatest 0 (by decide)).1
  exact absurd hdebts (by decide)

end Ledger

end Bazaar
