import Bazaar.Proofs.Agent.Acceptance
import Bazaar.Proofs.Agent.Batching
import Bazaar.Proofs.Json.Record

/-!
The identities of a wallet. An agent looks up its identity under the ledger that a transaction
names, and pays on the ledger that the identity names. Main statement: the two ledgers are one
exactly if the identity stands under its own ledger, as it does in a wallet that was built, but
need not in one that was read (`settles_as_named_iff`).
-/

namespace Bazaar

namespace Wallet

variable {w : Wallet}

/-- What stands under a ledger is an identity on it. -/
def IsKeyedAt (w : Wallet) (l : LedgerId) : Prop := ∀ i, w.identity? l = some i → i.ledger = l

/-- Every identity stands under its own ledger. -/
def IsKeyed (w : Wallet) : Prop := ∀ l, w.IsKeyedAt l

theorem isKeyed_empty : IsKeyed .empty := fun _ _ h => by cases h

theorem IsKeyed.add (h : w.IsKeyed) (i : Identity) : (w.add i).IsKeyed := by
  intro l j hj
  rw [identity?, Wallet.add, SortedMap.get?_insert] at hj
  split at hj
  · rename_i hl
    rw [hl, ← Option.some.inj hj]
  · exact h l j hj

/-- **A wallet that is built is keyed.** -/
theorem isKeyed_ofIdentities (is : List Identity) : (ofIdentities is).IsKeyed := by
  have hfold : ∀ w : Wallet, w.IsKeyed → (is.foldl Wallet.add w).IsKeyed := by
    induction is with
    | nil => exact fun _ h => h
    | cons i is ih => exact fun _ h => ih _ (h.add i)
  exact hfold _ isKeyed_empty

/-- **A wallet that was written is read as it was**, keyed or not. -/
theorem ofJson?_toJson (w : Wallet) : ofJson? w.toJson = some w := by
  let f (i : Identity) : Json :=
    .object [("identifier", .text i.ledger), ("address", .text i.address)]
  have hmembers : w.toJson.members? ["crypto_objects"] = some [("crypto_objects", .ofMap f w)] :=
    Json.members?_object rfl (by decide)
  rw [ofJson?, hmembers]
  exact Json.map?_ofMap (f := f) (fun _ => rfl) w

end Wallet

namespace Agent

/-- A record is on the ledger that the transaction names if the identity stands there. -/
theorem Records.ledger_eq_iff {w : Wallet} {t : Transaction} {r : Ledger.Transfer}
    (h : Records w t r) : r.ledger = t.ledger ↔ w.IsKeyedAt t.ledger := by
  obtain ⟨i, hi, hledger, -⟩ := h.payer
  rw [hledger]
  constructor
  · intro hname j hj
    rwa [← Option.some.inj (hi.symm.trans hj)]
  · exact fun hkeyed => hkeyed i hi

theorem isSettlement_iff {a : Transaction} :
    isSettlement a = true ↔ a.performative = .accept ∧ a.ledger ≠ offChain := by
  simp [isSettlement, Transaction.isOffChain]

/-- Records are on the ledgers that their transactions name if all the identities stand there. -/
theorem map_ledger_eq_iff {w : Wallet} {ts : List Transaction} {rs : List Ledger.Transfer}
    (h : List.Forall₂ (Records w) ts rs) :
    rs.map (·.ledger) = ts.map (·.ledger) ↔ ∀ t ∈ ts, w.IsKeyedAt t.ledger := by
  induction h with
  | nil => simp
  | cons hr _ ih =>
    rw [List.map_cons, List.map_cons, List.cons.injEq, List.forall_mem_cons, hr.ledger_eq_iff, ih]

namespace DecisionMaker

/-- The transfers that a run adds to the log. -/
def logged (d : DecisionMaker) (ms : List Move) : List Ledger.Transfer :=
  (d.run ms).1.state.ledger.log.drop d.state.ledger.log.length

/-- The transactions that a run accepts on a ledger. -/
def settled (d : DecisionMaker) (ms : List Move) : List Transaction :=
  ((d.run ms).2.flatMap (·.2)).filter isSettlement

/-- **The settlements of a run** are recorded one for one and in order. -/
theorem records_run (d : DecisionMaker) (ms : List Move) :
    (d.run ms).1.state.ledger.log = d.state.ledger.log ++ d.logged ms ∧
      List.Forall₂ (Records d.wallet) (d.settled ms) (d.logged ms) := by
  obtain ⟨es, -, hstate, -, hanswers⟩ := d.exists_handled ms
  obtain ⟨rs, hlog, hrs, -⟩ := (State.handleAll_effects d.wallet d.state es).exists_transfers
  rw [← hstate] at hlog
  have hlogged : d.logged ms = rs := by rw [logged, hlog, List.drop_left]
  rw [hlogged, settled, hanswers]
  exact ⟨hlog, hrs.imp fun _ _ hr => hr.toRecords⟩

/-! ### An identity under another ledger -/

/-- A payment of one on a ledger. -/
def payment (payer payee : Address) (l : LedgerId) : Transaction :=
  ⟨.propose, "1", payer, payee, true, "FET", 1, 0, 0, .empty, l, .empty, none⟩

/-- A transaction is proposed, and handled. -/
def proposing (t : Transaction) : List Move := [.send (.ofBody (.transaction t)), .execute]

/-- An identity can have an account with one on its own ledger. -/
theorem exists_ledger_holding (i : Identity) :
    ∃ l : Ledger, l.Sound ∧ l.id = i.ledger ∧ l.balance? i.address = some 1 := by
  have hmint : (Ledger.new i.ledger .ofNumber).mint i.address 1 =
      .ok (⟨i.ledger, .ofNumber, .insert .empty i.address 1, 1, []⟩, 1) :=
    Ledger.mint_eq_ok_iff.2 ⟨by decide, rfl, 1, rfl, rfl⟩
  exact ⟨_, (Ledger.Sound.new i.ledger .ofNumber).mint hmint, rfl, by simp [Ledger.balance?]⟩

section Payment

variable {w : Wallet} {l : Ledger} {i : Identity} {k : LedgerId} {payee : Address}

theorem payment_accept (hl : l.Sound) (hid : l.id = i.ledger)
    (hb : l.balance? i.address = some 1) (hi : w.identity? k = some i)
    (hp : payee ≠ i.address) :
    ((State.new l).decide w (payment i.address payee k)).2.performative = .accept := by
  have hc : (payment i.address payee k).inconsistency? = none := by
    simp only [Transaction.inconsistency?, payment, if_neg hp.symm]
    decide
  have hdue : (1 : Amount).toInt + (0 : Amount).toInt ≤ (1 : Amount).toInt := by decide
  have hfee : (0 : Amount).toInt ≤ (1 : Amount).toInt := by decide
  exact (State.decide_accept_iff_canPay hl).2
    ⟨hc, .inl rfl, .inr ⟨i, 1, hi, hid.symm, hb, hdue, hfee, hp⟩⟩

/-- **An identity pays for what names the ledger under which it stands**, be it its own or not. -/
theorem settled_payment (hl : l.Sound) (hid : l.id = i.ledger)
    (hb : l.balance? i.address = some 1) (hk : k ≠ offChain) (hi : w.identity? k = some i)
    (hp : payee ≠ i.address) :
    ∃ a, a.ledger = k ∧
      (new "payer" w 0 l).settled (proposing (payment i.address payee k)) = [a] := by
  let t := payment i.address payee k
  have ha : ((State.new l).decide w t).2.performative = .accept := payment_accept hl hid hb hi hp
  have hledger : ((State.new l).decide w t).2.ledger = k := by
    obtain h | ⟨d, h⟩ := State.decide_snd w (.new l) t <;> rw [h] <;> rfl
  have hsettled : (new "payer" w 0 l).settled (proposing t) =
      [((State.new l).decide w t).2].filter isSettlement := rfl
  have hon := isSettlement_iff.2 ⟨ha, hledger ▸ hk⟩
  refine ⟨_, hledger, hsettled.trans ?_⟩
  rw [List.filter_cons_of_pos hon, List.filter_nil]

end Payment

/-- **On which ledger a transaction is settled.** The transfers that a run logs record the
transactions that it accepts on a ledger, and each is on the ledger that its transaction names
exactly if the identity under that ledger is one on it. So the wallets that always settle as named
are those that are keyed, where what stands under `offChain` does not matter. A wallet that is
built is keyed, and a wallet that was written is read as it was. -/
theorem settles_as_named_iff (w : Wallet) :
    (∀ name n queue s ms,
      let d : DecisionMaker := ⟨name, w, n, queue, s⟩
      (d.run ms).1.state.ledger.log = s.ledger.log ++ d.logged ms ∧
      List.Forall₂ (fun a r => Records w a r ∧ (r.ledger = a.ledger ↔ w.IsKeyedAt a.ledger))
        (d.settled ms) (d.logged ms)) ∧
    ((∀ name n l ms, ((new name w n l).logged ms).map (·.ledger) =
        ((new name w n l).settled ms).map (·.ledger)) ↔
      ∀ k, k ≠ offChain → w.IsKeyedAt k) ∧
    (∀ is, (Wallet.ofIdentities is).IsKeyed) ∧ (∀ i, w.IsKeyed → (w.add i).IsKeyed) ∧
    Wallet.ofJson? w.toJson = some w := by
  refine ⟨fun name n queue s ms => ?_, ⟨fun h k hk i hi => ?_, fun h name n l ms => ?_⟩,
    Wallet.isKeyed_ofIdentities, fun i h => h.add i, Wallet.ofJson?_toJson w⟩
  · obtain ⟨hlog, hrs⟩ := records_run ⟨name, w, n, queue, s⟩ ms
    exact ⟨hlog, hrs.imp fun _ _ hr => ⟨hr, hr.ledger_eq_iff⟩⟩
  · -- an identity that can be paid from has to stand under its own ledger
    obtain ⟨l, hl, hid, hb⟩ := exists_ledger_holding i
    have hnontrivial : Nontrivial Address := ⟨"a", "b", by decide⟩
    obtain ⟨payee, hp⟩ := exists_ne i.address
    obtain ⟨a, ha, hsettled⟩ := settled_payment hl hid hb hk hi hp
    obtain ⟨-, hrs⟩ := (new "payer" w 0 l).records_run (proposing (payment i.address payee k))
    have hkeyed := (map_ledger_eq_iff hrs).1 (h "payer" 0 l (proposing _))
    rw [hsettled] at hkeyed
    exact ha ▸ hkeyed a (List.mem_singleton_self a) i (ha ▸ hi)
  · obtain ⟨-, hrs⟩ := (new name w n l).records_run ms
    refine (map_ledger_eq_iff hrs).2 fun a ha => ?_
    have hon := isSettlement_iff.1 (List.mem_filter.1 ha).2
    exact h a.ledger hon.2

theorem settles_as_named_iff_built :
    let w := (Wallet.ofIdentities [⟨"l", "a"⟩]).add ⟨"m", "c"⟩
    let d := new "buyer" w 0 (Ledger.serveAll (.new "l" .ofNumber) [.mint "a" 1])
    let ms := proposing (payment "a" "b" "l")
    (w.IsKeyed ∧ "l" ≠ offChain) ∧
      (d.settled ms).map (·.ledger) = ["l"] ∧ (d.logged ms).map (·.ledger) = ["l"] := by
  intro w d ms
  obtain ⟨-, -, hbuilt, hadd, -⟩ := settles_as_named_iff (.ofIdentities [⟨"l", "a"⟩])
  have hw : w.IsKeyed := hadd ⟨"m", "c"⟩ (hbuilt [⟨"l", "a"⟩])
  obtain ⟨-, hnamed, -⟩ := settles_as_named_iff w
  have hsettled : (d.settled ms).map (·.ledger) = ["l"] := by decide +kernel
  have hlogged : (d.logged ms).map (·.ledger) = (d.settled ms).map (·.ledger) :=
    hnamed.2 (fun k _ => hw k) "buyer" 0 _ ms
  exact ⟨⟨hw, by decide⟩, hsettled, hlogged.trans hsettled⟩

/-- A wallet as it may be written by hand, with an identity under another ledger. -/
def misplaced : Json :=
  .object [("crypto_objects", .object [("fetchai",
    .object [("identifier", .text "cosmos"), ("address", .text "a")])])]

/-- It is not so that every wallet settles transactions on the ledgers that they name: with one that
was read, a payment that names another ledger can be made on the one that the agent is at. -/
theorem not_forall_settles_as_named :
    ¬ ∀ (v : Json) (w : Wallet), Wallet.ofJson? v = some w →
      ∀ (name : String) (n : Nat) (id : LedgerId) (drawn : Nat → Digest)
          (rs : List Ledger.Request) (ms : List Move),
        let d := new name w n (Ledger.serveAll (.new id drawn) rs)
        (d.logged ms).map (·.ledger) = (d.settled ms).map (·.ledger) := by
  intro h
  have hnamed := h misplaced (.ofList [("fetchai", ⟨"cosmos", "a"⟩)]) rfl "buyer" 0 "cosmos"
    .ofNumber [.mint "a" 1] (proposing (payment "a" "b" "fetchai"))
  exact absurd hnamed (by decide +kernel)

end DecisionMaker

end Agent

end Bazaar
