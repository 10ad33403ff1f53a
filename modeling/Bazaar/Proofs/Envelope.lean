import Bazaar.Engine
import Bazaar.Proofs.Json.Record

/-!
Envelopes are read as they were written. The kind of a body and the performative of an update or a
transaction are tags in one and the same object, so each reader has to find its own and leave the
rest as it was put. Main statement: the line of an envelope is that envelope again, whatever its
texts and amounts, if its doubles are read back (`envelope?_render`).
-/

namespace Bazaar

/-! ### Parts of a body -/

theorem amount?_toInt (a : Amount) : (Json.int a.toInt).amount? = some a := Amount.ofInt?_toInt a

theorem Holdings.ofJson?_toJson (h : Holdings) : Holdings.ofJson? (Holdings.toJson h) = some h :=
  Json.map?_ofMap amount?_toInt h

theorem Weights.ofJson?_toJson (w : Weights) : Weights.ofJson? (Weights.toJson w) = some w :=
  Json.map?_ofMap (f := Json.double) (fun _ => rfl) w

theorem Info.ofJson?_toJson (i : Info) : Info.ofJson? i.toJson = some i := by
  obtain ⟨ms, h⟩ := i
  obtain ⟨hsorted, hms⟩ := Bool.and_eq_true_iff.1 h
  have hkept : (SortedMap.ofList (Json.canonicalMembers ms)).entries = ms := by
    rw [Json.canonicalMembers_eq_self hms,
      SortedMap.ofList_entries ⟨ms, of_decide_eq_true hsorted⟩]
  rw [toJson, ofJson?, ofMembers?]
  simp only [hkept]
  exact dif_pos h

theorem Performative.ofJson?_name (isEmpty : Json → Bool) (p : Performative) :
    Performative.ofJson? isEmpty (.text p.name) = some p := by
  cases p <;> rfl

theorem nullable?_digestToJson (d : Option Digest) :
    (Transaction.digestToJson d).nullable? Json.text? = some d := by
  cases d <;> rfl

/-! ### Bodies -/

/-- **A transaction is read back**: every member is found under its own name. -/
theorem Transaction.ofJson?_toJson (isEmpty : Json → Bool) (t : Transaction) :
    Transaction.ofJson? isEmpty t.toJson = some t := by
  have hmembers : t.toJson.members? memberNames = some t.toMembers :=
    Json.members?_object rfl (by decide)
  have hperformative : t.toMembers.required? "performative" (Performative.ofJson? isEmpty) =
      some t.performative := Performative.ofJson?_name isEmpty t.performative
  have hamount : t.toMembers.required? "amount" Json.amount? = some t.amount :=
    amount?_toInt t.amount
  have hsender : t.toMembers.required? "sender_tx_fee" Json.amount? = some t.senderFee :=
    amount?_toInt t.senderFee
  have hcounterparty : t.toMembers.required? "counterparty_tx_fee" Json.amount? =
      some t.counterpartyFee := amount?_toInt t.counterpartyFee
  have hquantities : t.toMembers.default? "quantities_by_good_id" Holdings.ofJson? .empty =
      some t.quantities := Holdings.ofJson?_toJson t.quantities
  have hinfo : t.toMembers.default? "info" Info.ofJson? .empty = some t.info :=
    t.info.ofJson?_toJson
  have hdigest : t.toMembers.default? "transaction_digest" (Json.nullable? Json.text?) none =
      some t.digest := nullable?_digestToJson t.digest
  -- the other members are texts and a truth value, which are read as they stand
  rw [ofJson?, hmembers, Option.bind_eq_bind, Option.bind_some, hperformative, hamount, hsender,
    hcounterparty, hquantities, hinfo, hdigest]
  rfl

/-- **An update is read back** from behind its tag. -/
theorem StateUpdate.ofJson?_tagged (u : StateUpdate) : StateUpdate.ofJson?
    (.object (("performative", .text u.kind.name) :: u.toMembers)) = some u := by
  have htag : (Json.object (("performative", .text u.kind.name) :: u.toMembers)).tagged?
      "performative" = some (.text u.kind.name, .object u.toMembers) :=
    Json.tagged?_cons (by cases u <;> simp [toMembers])
  have hkind : Kind.ofTag? (.text u.kind.name) = some u.kind := by cases u <;> rfl
  rw [ofJson?, htag]
  change (Kind.ofTag? (.text u.kind.name)).bind _ = _
  rw [hkind, Option.bind_some]
  cases u with
  | endow amounts goods exchange utility fee =>
    let ms := toMembers (.endow amounts goods exchange utility fee)
    have hmembers : (Json.object ms).members? endowNames = some ms :=
      Json.members?_object rfl (by decide)
    have hamounts : ms.required? "amount_by_currency" Holdings.ofJson? = some amounts :=
      Holdings.ofJson?_toJson amounts
    have hgoods : ms.required? "quantities_by_good_id" Holdings.ofJson? = some goods :=
      Holdings.ofJson?_toJson goods
    have hexchange : ms.required? "exchange_params_by_currency" Weights.ofJson? = some exchange :=
      Weights.ofJson?_toJson exchange
    have hutility : ms.required? "utility_params_by_good_id" Weights.ofJson? = some utility :=
      Weights.ofJson?_toJson utility
    have hfee : ms.required? "tx_fee" Json.amount? = some fee := amount?_toInt fee
    change ((Json.object ms).members? endowNames).bind _ = _
    rw [hmembers, Option.bind_some, hamounts, hgoods, hexchange, hutility, hfee]
    rfl
  | apply amounts goods =>
    let ms := toMembers (.apply amounts goods)
    have hmembers : (Json.object ms).members? applyNames = some ms :=
      Json.members?_object rfl (by decide)
    have hamounts : ms.required? "amount_by_currency" Holdings.ofJson? = some amounts :=
      Holdings.ofJson?_toJson amounts
    have hgoods : ms.required? "quantities_by_good_id" Holdings.ofJson? = some goods :=
      Holdings.ofJson?_toJson goods
    change ((Json.object ms).members? applyNames).bind _ = _
    rw [hmembers, Option.bind_some, hamounts, hgoods]
    rfl

/-! ### Parts that are proper -/

theorem isProper_amount (a : Amount) : (Json.int a.toInt).isProper = true := by
  have hrange := Amount.inRange_toInt a
  refine decide_eq_true ?_
  unfold Amount.InRange at hrange
  unfold Json.IntRange
  omega

theorem Holdings.isProper_toJson (h : Holdings) : (Holdings.toJson h).isProper = true :=
  Json.isProper_ofMap isProper_amount h

theorem Weights.isProper_toJson (w : Weights) : (Weights.toJson w).isProper = true :=
  Json.isProper_ofMap (f := Json.double) (fun _ => rfl) w

theorem Info.isProper_toJson (i : Info) : i.toJson.isProper = true :=
  Json.isProper_of_isCanonical i.canonical

theorem Transaction.areProperMembers_toMembers (t : Transaction) :
    Json.areProperMembers t.toMembers = true := by
  have hdigest : (digestToJson t.digest).isProper = true := by
    cases t.digest <;> rfl
  simp only [toMembers, Json.areProperMembers, Bool.and_eq_true]
  exact ⟨rfl, rfl, rfl, rfl, rfl, rfl, isProper_amount _, isProper_amount _, isProper_amount _,
    Holdings.isProper_toJson _, rfl, t.info.isProper_toJson, hdigest, trivial⟩

theorem StateUpdate.areProperMembers_toMembers (u : StateUpdate) :
    Json.areProperMembers u.toMembers = true := by
  cases u with
  | endow amounts goods exchange utility fee =>
    simp only [toMembers, Json.areProperMembers, Bool.and_eq_true]
    exact ⟨Holdings.isProper_toJson _, Holdings.isProper_toJson _, Weights.isProper_toJson _,
      Weights.isProper_toJson _, isProper_amount _, trivial⟩
  | apply amounts goods =>
    simp only [toMembers, Json.areProperMembers, Bool.and_eq_true]
    exact ⟨Holdings.isProper_toJson _, Holdings.isProper_toJson _, trivial⟩

theorem Body.isProper_toJson (b : Body) : b.toJson.isProper = true := by
  cases b with
  | transaction t => exact t.areProperMembers_toMembers
  | stateUpdate u => exact u.areProperMembers_toMembers
  | unknown => rfl

/-! ### Envelopes -/

/-- **A body is read back**, of whatever kind. -/
theorem Body.ofJson?_toJson (b : Body) : Body.ofJson? b.toJson = some b := by
  rw [ofJson?, if_pos (Json.isValid_of_isProper b.isProper_toJson)]
  cases b with
  | transaction t =>
    have htag : (toJson (.transaction t)).tagged? "kind" =
        some (.text "transaction", t.toJson) :=
      Json.tagged?_cons (by simp [Transaction.toMembers])
    have hread := t.ofJson?_toJson Json.isVoid
    simp only [htag, Json.text?, Option.bind_eq_bind, Option.bind_some, hread, Option.map_some]
  | stateUpdate u =>
    have htag : (toJson (.stateUpdate u)).tagged? "kind" = some (.text "state_update",
        .object (("performative", .text u.kind.name) :: u.toMembers)) :=
      Json.tagged?_cons (by cases u <;> simp [StateUpdate.toMembers])
    have hread := u.ofJson?_tagged
    simp only [htag, Json.text?, Option.bind_eq_bind, Option.bind_some, hread, Option.map_some]
  | unknown => rfl

theorem Envelope.ofJson?_toJson (e : Envelope) : Envelope.ofJson? e.toJson = some e := by
  let ms : Json.Members := [("protocol_id", .text e.protocol), ("body", e.body.toJson)]
  have hmembers : e.toJson.members? ["protocol_id", "body"] = some ms :=
    Json.members?_object rfl (by decide)
  have hbody : ms.required? "body" Body.ofJson? = some e.body := e.body.ofJson?_toJson
  rw [ofJson?, hmembers, Option.bind_eq_bind, Option.bind_some, hbody]
  rfl

namespace Engine

/-- **An envelope is read as it was written.** Whatever its protocol, its body, its texts and its
amounts: if the doubles in it are read back one by one, and no more arrays and objects stand in one
another than the reader allows, the line of an envelope is read as that very envelope. -/
theorem envelope?_render (e : Envelope) (hd : ∀ d ∈ e.toJson.doubles, d.IsReadBack)
    (hdepth : e.toJson.depth ≤ Json.maxOpen) : envelope? e.toJson.render = some e := by
  have hproper : e.toJson.isProper = true := by
    simp only [Envelope.toJson, Json.isProper, Json.areProperMembers, Bool.and_eq_true]
    exact ⟨trivial, e.body.isProper_toJson, trivial⟩
  have hread : Json.parse? e.toJson.render = some e.toJson :=
    Json.parseWithin?_render hproper hd hdepth
  rw [envelope?, hread]
  exact e.ofJson?_toJson

/-- A transaction that has the names of tags and members for its texts, the ends of the range for
its amounts, and a double deep in its information. -/
def mimic : Transaction where
  performative := .accept
  id := "performative"
  sender := "kind"
  counterparty := "state_update"
  senderBuys := false
  currency := "\"\x00"
  amount := Int64.minValue
  senderFee := Int64.maxValue
  counterpartyFee := -1
  quantities := .ofList [("kind", Int64.minValue), ("", 0)]
  ledger := "null"
  info := ⟨[("kind", .array [.text "unknown", .object [("performative", .int 7)]]),
    ("rate", .double ⟨0x3fb999999999999a⟩)], by decide⟩
  digest := some "propose"

theorem envelope?_render_mimic :
    let e : Envelope := ⟨"body", .transaction mimic⟩
    (e.toJson.doubles = [⟨0x3fb999999999999a⟩] ∧ (∀ d ∈ e.toJson.doubles, d.IsReadBack) ∧
      e.toJson.depth = 5) ∧ envelope? e.toJson.render = some e := by
  intro e
  have hdoubles : e.toJson.doubles = [⟨0x3fb999999999999a⟩] := by decide +kernel
  have hd : ∀ d ∈ e.toJson.doubles, d.IsReadBack := by decide +kernel
  have hdepth : e.toJson.depth = 5 := by decide +kernel
  exact ⟨⟨hdoubles, hd, hdepth⟩, envelope?_render e hd (hdepth ▸ by decide)⟩

end Engine

end Bazaar
