import Bazaar.Proofs.Agent.Settlement
import Bazaar.Proofs.Ledger.Supply

/-!
The account of an address, told from the history of a ledger. A request is either carried out, and
then it enters just itself into the books, or it leaves them as they are; so the books are those of
the requests that were carried out (`Explains`). Main statement: the log and the mints explain every
balance (`log_explains_balances`).
-/

namespace Bazaar.Ledger

-- sums are those of the core library, as in `Amount.total`
attribute [local instance (high)] Zero.ofOfNat0

/-! ### What an address gets and pays -/

/-- What an address receives by a list of transfers. -/
def received (ts : List Transfer) (a : Address) : Int :=
  Amount.total ((ts.filter (·.payee = a)).map (·.amount))

/-- What an address pays for a list of transfers, fees included. -/
def paid (ts : List Transfer) (a : Address) : Int :=
  ((ts.filter (·.payer = a)).map fun t => t.amount.toInt + t.fee.toInt).sum

theorem received_append_singleton (ts : List Transfer) (t : Transfer) (a : Address) :
    received (ts ++ [t]) a = received ts a + t.credit a := by
  unfold received Transfer.credit
  rw [List.filter_append, List.map_append, Amount.total_append]
  by_cases h : t.payee = a
  · rw [List.filter_cons_of_pos (by simp [h]), if_pos h.symm]
    simp
  · rw [List.filter_cons_of_neg (by simp [h]), if_neg (Ne.symm h)]
    simp

theorem paid_append_singleton (ts : List Transfer) (t : Transfer) (a : Address) :
    paid (ts ++ [t]) a = paid ts a + t.debit a := by
  unfold paid Transfer.debit
  rw [List.filter_append, List.map_append, List.sum_append]
  by_cases h : t.payer = a
  · rw [List.filter_cons_of_pos (by simp [h]), if_pos h.symm]
    simp
  · rw [List.filter_cons_of_neg (by simp [h]), if_neg (Ne.symm h)]
    simp

/-! ### What a mint and a transfer do to the accounts -/

section Accounts

variable {l l' : Ledger} {a c : Address}

theorem isSome_balance?_mint_iff {amount b : Amount} (h : l.mint a amount = .ok (l', b)) :
    (l'.balance? c).isSome ↔ (l.balance? c).isSome ∨ c = a := by
  obtain ⟨-, -, minted, -, rfl⟩ := mint_eq_ok_iff.1 h
  by_cases hc : c = a <;> simp [balance?, hc]

theorem held_mint {amount b : Amount} (h : l.mint a amount = .ok (l', b)) :
    l'.held c = l.held c + if c = a then amount.toInt else 0 := by
  obtain ⟨-, hb, minted, -, rfl⟩ := mint_eq_ok_iff.1 h
  by_cases hc : c = a
  · rw [if_pos hc, hc, ← hb]
    simp [held, balance?]
  · rw [if_neg hc]
    simp [held, balance?, hc]

theorem Posts.isSome_balance?_iff {t : Transfer} (h : l.Posts t l') :
    (l'.balance? a).isSome ↔ (l.balance? a).isSome ∨ t.payer = a ∨ t.payee = a := by
  by_cases hp : a = t.payer
  · obtain ⟨payer, payee, -, -, rfl⟩ := h.books
    simp [balance?, withPosted, hp, h.distinct]
  · by_cases hq : a = t.payee
    · obtain ⟨payer, payee, -, -, rfl⟩ := h.books
      simp [balance?, withPosted, hq]
    · rw [h.balance?_other hp hq]
      simp [Ne.symm hp, Ne.symm hq]

end Accounts

/-! ### Requests that are carried out -/

namespace Request

/-- The amount that a request mints to an address, if it does. -/
def minted? (a : Address) : Request → Option Amount
  | .mint b amount => if b = a then some amount else none
  | .transfer .. => none

/-- The transfer that a request asks for, if it does, by the digest that it gets. -/
def transfer? : Request → Option (Digest → Transfer)
  | .mint .. => none
  | .transfer id payer payee amount fee => some (⟨·, id, payer.address, payee, amount, fee⟩)

end Request

/-- Whether a ledger carries a request out. -/
def grants (l : Ledger) : Request → Bool
  | .mint a amount => (l.mint a amount).isOk
  | .transfer id payer payee amount fee => (l.transfer id payer payee amount fee).isOk

/-- Those of a list of requests, served in order, that are carried out. -/
def granted (l : Ledger) : List Request → List Request
  | [] => []
  | r :: rs => (if l.grants r then [r] else []) ++ (l.serve r).granted rs

/-- What is minted to an address by requests that are carried out. -/
def mintedTo (rs : List Request) (a : Address) : Int := Amount.total (rs.filterMap (·.minted? a))

theorem mintedTo_append_singleton (rs : List Request) (r : Request) (a : Address) :
    mintedTo (rs ++ [r]) a = mintedTo rs a + ((r.minted? a).getD 0).toInt := by
  unfold mintedTo
  rw [List.filterMap_append, Amount.total_append]
  cases h : r.minted? a with
  | none => simp [h]
  | some amount => simp [h]

/-- A request is refused and changes nothing, or it is carried out: then it mints, or it posts the
transfer that it asks for under the next digest. -/
theorem serve_cases (l : Ledger) (r : Request) :
    (l.grants r = false ∧ l.serve r = l) ∨
    (l.grants r = true ∧ ∃ a amount b, r = .mint a amount ∧
      l.mint a amount = .ok (l.serve r, b)) ∨
    (l.grants r = true ∧ ∃ t, r.transfer? = some t ∧ l.Posts (t l.nextDigest) (l.serve r)) := by
  cases r with
  | mint a amount =>
    simp only [grants, serve]
    cases h : l.mint a amount with
    | error _ => exact .inl ⟨rfl, rfl⟩
    | ok res => exact .inr (.inl ⟨rfl, a, amount, res.2, rfl, h⟩)
  | transfer id payer payee amount fee =>
    simp only [grants, serve]
    cases h : l.transfer id payer payee amount fee with
    | error _ => exact .inl ⟨rfl, rfl⟩
    | ok res => exact .inr (.inr ⟨rfl, _, rfl, (transfer_eq_ok_iff.1 h).2.2.1⟩)

/-! ### The log -/

theorem log_mint {l l' : Ledger} {a : Address} {amount b : Amount}
    (h : l.mint a amount = .ok (l', b)) : l'.log = l.log := by
  obtain ⟨-, -, minted, -, rfl⟩ := mint_eq_ok_iff.1 h
  rfl

theorem drawn_serve (l : Ledger) (r : Request) : (l.serve r).drawn = l.drawn := by
  rcases l.serve_cases r with ⟨-, hl⟩ | ⟨-, a, amount, b, -, hm⟩ | ⟨-, t, -, hp⟩
  · rw [hl]
  · obtain ⟨-, -, minted, -, hl⟩ := mint_eq_ok_iff.1 hm
    rw [hl]
  · exact hp.drawn_eq

/-- A request adds to the log the transfer that it asks for, if it is carried out, and nothing
else. -/
theorem log_serve (l : Ledger) (r : Request) : (l.serve r).log =
    l.log ++ if l.grants r then (r.transfer?.map (· l.nextDigest)).toList else [] := by
  rcases l.serve_cases r with ⟨hr, hl⟩ | ⟨hr, a, amount, b, rfl, hm⟩ | ⟨hr, t, ht, hp⟩
  · simp [hr, hl]
  · simp [hr, log_mint hm, Request.transfer?]
  · simp [hr, hp.log_eq, ht]

/-- The transfers that are asked for, under the digests that are drawn from the next one on. -/
def posted (l : Ledger) (ts : List (Digest → Transfer)) : List Transfer :=
  ts.mapIdx fun k t => t (l.drawn (l.log.length + k))

theorem posted_cons (l : Ledger) (t : Digest → Transfer) (ts : List (Digest → Transfer))
    {l' : Ledger} (hdrawn : l'.drawn = l.drawn) (hlog : l'.log = l.log ++ [t l.nextDigest]) :
    l.posted (t :: ts) = t l.nextDigest :: l'.posted ts := by
  rw [posted, posted, List.mapIdx_cons, hdrawn, hlog, List.length_append, List.length_singleton]
  simp only [Nat.add_assoc, Nat.add_comm 1]
  rfl

theorem posted_new (id : LedgerId) (drawn : Nat → Digest) (ts : List (Digest → Transfer)) :
    (Ledger.new id drawn).posted ts = ts.mapIdx fun k t => t (drawn k) := by
  simp [posted, Ledger.new]

theorem log_serveAll (l : Ledger) (rs : List Request) :
    (l.serveAll rs).log = l.log ++ l.posted ((l.granted rs).filterMap (·.transfer?)) := by
  induction rs generalizing l with
  | nil => exact (List.append_nil _).symm
  | cons r rs ih =>
    have hrun : l.serveAll (r :: rs) = (l.serve r).serveAll rs := rfl
    rw [hrun, ih, granted]
    rcases l.serve_cases r with ⟨hr, hl⟩ | ⟨hr, a, amount, b, rfl, hm⟩ | ⟨hr, t, ht, hp⟩
    · rw [hr, hl]
      rfl
    · have hposted : (l.serve (.mint a amount)).posted = l.posted := by
        unfold posted
        rw [drawn_serve, log_mint hm]
      rw [hr, hposted, log_mint hm]
      rfl
    · rw [hr, if_pos rfl, List.singleton_append, List.filterMap_cons_some ht,
        l.posted_cons t _ (l.drawn_serve r) hp.log_eq, hp.log_eq, List.append_assoc,
        List.singleton_append]

/-! ### The history explains the accounts -/

/-- **Requests explain the accounts** of a ledger: there is one for each address that was minted to
or that the log names, and it holds what was minted to it and received, less what it paid. -/
structure Explains (rs : List Request) (l : Ledger) : Prop where
  account : ∀ a, (l.balance? a).isSome ↔
    (∃ amount, .mint a amount ∈ rs) ∨ ∃ t ∈ l.log, t.payer = a ∨ t.payee = a
  held : ∀ a, l.held a = mintedTo rs a + received l.log a - paid l.log a

namespace Explains

variable {rs : List Request} {l l' : Ledger}

theorem new (id : LedgerId) (drawn : Nat → Digest) : Explains [] (Ledger.new id drawn) where
  account := by simp [Ledger.new, balance?]
  held := by simp [Ledger.new, Ledger.held, balance?, mintedTo, received, paid]

theorem mint (h : Explains rs l) {a : Address} {amount b : Amount}
    (hm : l.mint a amount = .ok (l', b)) : Explains (rs ++ [.mint a amount]) l' := by
  refine ⟨fun c => ?_, fun c => ?_⟩
  · rw [isSome_balance?_mint_iff hm, h.account c, log_mint hm]
    simp only [List.mem_append, List.mem_singleton, Request.mint.injEq, exists_or, exists_and_left,
      exists_eq, and_true]
    exact or_right_comm
  · rw [held_mint hm, h.held c, mintedTo_append_singleton, log_mint hm]
    by_cases hc : c = a
    · simp only [Request.minted?, hc, if_true, Option.getD_some]
      omega
    · simp only [Request.minted?, if_neg hc, if_neg (Ne.symm hc), Option.getD_none,
        Int64.toInt_zero]
      omega

theorem posts (h : Explains rs l) {r : Request} {o : Digest → Transfer} {t : Transfer}
    (hr : r.transfer? = some o) (hp : l.Posts t l') : Explains (rs ++ [r]) l' := by
  -- what asks for a transfer mints nothing
  cases r with
  | mint => simp [Request.transfer?] at hr
  | transfer id payer payee amount fee =>
    refine ⟨fun a => ?_, fun a => ?_⟩
    · rw [hp.isSome_balance?_iff, h.account a, hp.log_eq]
      simp [or_assoc, or_and_right, exists_or]
    · rw [hp.held_eq a, h.held a, mintedTo_append_singleton, hp.log_eq,
        received_append_singleton, paid_append_singleton]
      simp only [Request.minted?, Option.getD_none, Int64.toInt_zero]
      omega

/-- **A request keeps the accounts explained** by what is carried out. -/
theorem serve (h : Explains rs l) (r : Request) :
    Explains (rs ++ if l.grants r then [r] else []) (l.serve r) := by
  rcases l.serve_cases r with ⟨hr, hl⟩ | ⟨hr, a, amount, b, rfl, hm⟩ | ⟨hr, t, ht, hp⟩
  · simpa [hr, hl] using h
  · simpa [hr] using h.mint hm
  · simpa [hr] using h.posts ht hp

theorem serveAll (h : Explains rs l) (qs : List Request) :
    Explains (rs ++ l.granted qs) (l.serveAll qs) := by
  induction qs generalizing rs l with
  | nil =>
    rw [granted, List.append_nil]
    exact h
  | cons q qs ih =>
    rw [granted, ← List.append_assoc]
    exact ih (h.serve q)

end Explains

/-- **The log explains every balance.** Whatever is asked of a new ledger, with whatever outcome,
and whatever digests are drawn: the log only grows, by the transfers that are carried out, each with
the figures and parties that were asked for and with the digest that is drawn for it. An address has
an account just if something was minted to it or a logged transfer names it, and then it holds the
sum of what was minted to it and of the amounts it received, less the amounts and fees it paid. -/
theorem log_explains_balances (id : LedgerId) (drawn : Nat → Digest) (rs : List Request) :
    let l := (Ledger.new id drawn).serveAll rs
    let done := (Ledger.new id drawn).granted rs
    l.log = (done.filterMap (·.transfer?)).mapIdx (fun k t => t (drawn k)) ∧
    (∀ qs, l.log <+: (l.serveAll qs).log) ∧
    (∀ a amount, (l.serve (.mint a amount)).log = l.log) ∧
    (∀ on payer payee amount fee, (l.serve (.transfer on payer payee amount fee)).log =
      if (l.transfer on payer payee amount fee).isOk
      then l.log ++ [⟨l.nextDigest, on, payer.address, payee, amount, fee⟩] else l.log) ∧
    ∀ a, ((l.balance? a).isSome ↔
        (∃ amount, .mint a amount ∈ done) ∨ ∃ t ∈ l.log, t.payer = a ∨ t.payee = a) ∧
      ∀ b, l.balance? a = some b →
        b.toInt = mintedTo done a + received l.log a - paid l.log a := by
  intro l done
  have h : Explains done l := (Explains.new id drawn).serveAll rs
  refine ⟨?_, fun qs => ?_, fun a amount => ?_, fun on payer payee amount fee => ?_, fun a => ?_⟩
  · exact (log_serveAll (Ledger.new id drawn) rs).trans (posted_new id drawn _)
  · exact ⟨_, (log_serveAll l qs).symm⟩
  · rw [log_serve]
    simp [Request.transfer?]
  · change _ = if l.grants (.transfer on payer payee amount fee) then _ else _
    rw [log_serve]
    cases l.grants (.transfer on payer payee amount fee) with
    | true => rfl
    | false => exact List.append_nil _
  · refine ⟨h.account a, fun b hb => ?_⟩
    rw [← held_of_balance? hb]
    exact h.held a

end Bazaar.Ledger
