import Bazaar.Proofs.Agent.Batching
import Bazaar.Proofs.Envelope
import Bazaar.Proofs.Json.Members

/-!
Envelopes of other dialects. What is read of a body is said by its tags, which may stand anywhere in
it, so a writer is free to put the members in any order and to add members that the reader does not
know; and a body of a kind that the reader does not know is dropped. Main statement: redrafted
envelopes are read alike, and envelopes of a new kind are read and dropped (`dialects_tolerated`).
-/

namespace Bazaar

open Json (Alike IgnoresOrder Once Rearranged Reordered Respects)

/-! ### Values in which the order is no matter -/

theorem ignoresOrder_text? : IgnoresOrder Json.text? := Json.ignoresOrder_of_none fun _ => rfl

theorem ignoresOrder_bool? : IgnoresOrder Json.bool? := Json.ignoresOrder_of_none fun _ => rfl

theorem ignoresOrder_amount? : IgnoresOrder Json.amount? := Json.ignoresOrder_of_none fun _ => rfl

theorem ignoresOrder_digest? : IgnoresOrder (Json.nullable? Json.text?) :=
  Json.ignoresOrder_nullable? fun _ => rfl

theorem Holdings.ignoresOrder_ofJson? : IgnoresOrder Holdings.ofJson? := Json.ignoresOrder_map? _

theorem Weights.ignoresOrder_ofJson? : IgnoresOrder Weights.ofJson? := Json.ignoresOrder_map? _

theorem Performative.ignoresOrder_ofJson? (isEmpty : Json → Bool) :
    IgnoresOrder (Performative.ofJson? isEmpty) := fun v w hvw hv hw =>
  congrArg (·.bind ofName?) (Json.ignoresOrder_variant? isEmpty v w hvw hv hw)

theorem Json.canonicalMembers_eq_map (ms : List (String × Json)) :
    canonicalMembers ms = ms.map fun m => (m.1, m.2.canonical) := by
  induction ms with
  | nil => rfl
  | cons m ms ih => rw [canonicalMembers, ih, List.map_cons]

theorem Info.ignoresOrder_ofJson? : IgnoresOrder Info.ofJson? := by
  refine Json.ignoresOrder_of_object fun ms ns hperm hms => ?_
  have hnames : (ms.map fun m => (m.1, m.2.canonical)).map (·.1) = ms.map (·.1) := List.map_map
  have hkept : SortedMap.ofList (Json.canonicalMembers ms) =
      SortedMap.ofList (Json.canonicalMembers ns) := by
    rw [Json.canonicalMembers_eq_map, Json.canonicalMembers_eq_map]
    refine SortedMap.ofList_eq_of_perm (hperm.map _) ?_
    rw [hnames]
    exact Json.nodup_of_isPlain hms
  change ofMembers? ms = ofMembers? ns
  rw [ofMembers?, ofMembers?]
  simp only [hkept]

/-! ### Transactions and updates -/

/-- Members that are alike but for the order of what stands in each of them. -/
abbrev Json.AlikeInOrder : List String → List (String × Json) → List (String × Json) → Prop :=
  Alike fun _ => Reordered

theorem Transaction.ofJson?_eq_of_alike (isEmpty : Json → Bool) {ms ns : List (String × Json)}
    (h : Json.AlikeInOrder memberNames ms ns) :
    ofJson? isEmpty (.object ms) = ofJson? isEmpty (.object ns) := by
  rw [ofJson?, ofJson?, Option.bind_eq_bind, Option.bind_eq_bind]
  refine h.bind_members? fun ms ns h => ?_
  have htext (name : String) (hname : name ∈ memberNames) :
      Json.Members.required? ms name Json.text? = Json.Members.required? ns name Json.text? :=
    h.required? ignoresOrder_text? hname
  have hamount (name : String) (hname : name ∈ memberNames) :
      Json.Members.required? ms name Json.amount? = Json.Members.required? ns name Json.amount? :=
    h.required? ignoresOrder_amount? hname
  rw [h.required? (Performative.ignoresOrder_ofJson? isEmpty) (by decide),
    htext "transaction_id" (by decide), htext "sender" (by decide),
    htext "counterparty" (by decide), h.required? ignoresOrder_bool? (by decide),
    htext "currency_id" (by decide), hamount "amount" (by decide),
    hamount "sender_tx_fee" (by decide), hamount "counterparty_tx_fee" (by decide),
    h.default? Holdings.ignoresOrder_ofJson? (by decide), htext "ledger_id" (by decide),
    h.default? Info.ignoresOrder_ofJson? (by decide), h.default? ignoresOrder_digest? (by decide)]

namespace StateUpdate

/-- The names of the members of an update of a kind. -/
def Kind.memberNames : Kind → List String
  | .endow => endowNames
  | .apply => applyNames

/-- The names that matter in an update: that of its tag, and those of the members that the tag asks
for. -/
def names (ms : List (String × Json)) : List String :=
  "performative" :: ((ms.lookup "performative").bind Kind.ofTag?).elim [] Kind.memberNames

theorem kind_not_mem_names (ms : List (String × Json)) : "kind" ∉ names ms := by
  rw [names]
  rcases (ms.lookup "performative").bind Kind.ofTag? with _ | _ | _ <;> decide

/-- An update may stand in an object with a tag of its own. -/
theorem names_rest (ms : List (String × Json)) : names (ms.filter (·.1 != "kind")) = names ms := by
  have htag : (ms.filter (·.1 != "kind")).lookup "performative" = ms.lookup "performative" :=
    lookup_filter (p := (· != "kind")) rfl ms
  rw [names, htag, names]

theorem ofJson?_eq_of_alike {ms ns : List (String × Json)}
    (h : Json.AlikeInOrder (names ms) ms ns) : ofJson? (.object ms) = ofJson? (.object ns) := by
  rw [ofJson?, ofJson?, Option.bind_eq_bind, Option.bind_eq_bind]
  refine h.bind_tagged? List.mem_cons_self fun tag tag' htag hrel => ?_
  -- an object is no tag, so tags are not reordered
  have hkind : Kind.ofTag? tag = Kind.ofTag? tag' := by
    cases hrel <;> rfl
  change (Kind.ofTag? tag).bind _ = (Kind.ofTag? tag').bind _
  rw [← hkind]
  cases hof : Kind.ofTag? tag with
  | none => rfl
  | some kind =>
    have hnames : names ms = "performative" :: kind.memberNames := by
      rw [names, htag, Option.bind_some, hof]
      rfl
    have hrest : Json.AlikeInOrder kind.memberNames (ms.filter (·.1 != "performative"))
        (ns.filter (·.1 != "performative")) :=
      (h.mono (hnames ▸ List.subset_cons_self _ _)).filter (· != "performative")
        (by cases kind <;> decide)
    rw [Option.bind_some, Option.bind_some]
    cases kind with
    | endow =>
      refine hrest.bind_members? fun ms ns h => ?_
      rw [h.required? Holdings.ignoresOrder_ofJson? (by decide),
        h.required? Holdings.ignoresOrder_ofJson? (by decide),
        h.required? Weights.ignoresOrder_ofJson? (by decide),
        h.required? Weights.ignoresOrder_ofJson? (by decide),
        h.required? ignoresOrder_amount? (by decide)]
    | apply =>
      refine hrest.bind_members? fun ms ns h => ?_
      rw [h.required? Holdings.ignoresOrder_ofJson? (by decide),
        h.required? Holdings.ignoresOrder_ofJson? (by decide)]

end StateUpdate

/-! ### Bodies -/

namespace Body

/-- The names that matter in a body: that of its tag, and those that the tag asks for. -/
def names (ms : List (String × Json)) : List String :=
  "kind" :: match ms.lookup "kind" with
    | some (.text "transaction") => Transaction.memberNames
    | some (.text "state_update") => StateUpdate.names ms
    | _ => []

/-- A body of a new kind is read as such, whatever else it holds. -/
theorem ofJson?_eq_unknown {ms : List (String × Json)} {kind : String}
    (hvalid : (Json.object ms).isValid = true) (honce : Once ["kind"] ms)
    (hkind : ms.lookup "kind" = some (.text kind)) (htransaction : kind ≠ "transaction")
    (hupdate : kind ≠ "state_update") : ofJson? (.object ms) = some .unknown := by
  rw [ofJson?, if_pos hvalid, honce.tagged? List.mem_cons_self, hkind]
  simp only [Option.map_some, Option.bind_eq_bind, Option.bind_some, Json.text?]
  rfl

/-- **Bodies are read alike** if they are under the names that their tags ask for. -/
theorem ofJson?_eq_of_alike {ms ns : List (String × Json)}
    (h : Json.AlikeInOrder (names ms) ms ns) : ofJson? (.object ms) = ofJson? (.object ns) := by
  rw [ofJson?, ofJson?, if_pos (Json.isValid_of_isPlain h.plain), if_pos h.valid]
  refine h.bind_tagged? List.mem_cons_self fun tag tag' htag hrel => ?_
  cases hrel with
  | object _ => rfl
  | same =>
    rcases tag with _ | _ | _ | _ | kind | _ | _ | _
    -- only a text can be the name of a kind
    case text =>
      rw [names, htag] at h
      have hrest {names : List String} (h : Json.AlikeInOrder ("kind" :: names) ms ns)
          (hnames : "kind" ∉ names) : Json.AlikeInOrder names (ms.filter (·.1 != "kind"))
            (ns.filter (·.1 != "kind")) :=
        (h.mono (List.subset_cons_self _ _)).filter (· != "kind") fun name hname => by
          simpa using ne_of_mem_of_not_mem hname hnames
      simp only [Option.bind_eq_bind, Option.bind_some, Json.text?]
      split
      · rw [Transaction.ofJson?_eq_of_alike _ (hrest h (by decide))]
      · have hupdate := hrest h (StateUpdate.kind_not_mem_names ms)
        rw [← StateUpdate.names_rest] at hupdate
        rw [StateUpdate.ofJson?_eq_of_alike hupdate]
      · rfl
    all_goals rfl

/-- A body **redrafted**: in another order, also within its maps, and with members of new names. -/
inductive Redrafted : Json → Json → Prop
  | members {ms ns : List (String × Json)}
      (h : Rearranged (fun _ => Reordered) (names ms) ms ns) : Redrafted (.object ms) (.object ns)

theorem respects_ofJson? : Respects Redrafted ofJson? := by
  rintro v w ⟨h⟩ hv hw
  exact ofJson?_eq_of_alike (h.alike hv hw)

end Body

/-! ### Envelopes -/

namespace Envelope

/-- What a member of an envelope may become: the body is redrafted, all else stays. -/
def MayBecome (name : String) (v w : Json) : Prop :=
  if name = "body" then Body.Redrafted v w else v = w

/-- An envelope **redrafted**: its body is, its members are in another order, and there may be
others of new names among them. -/
inductive Redrafted : Json → Json → Prop
  | members {ms ns : List (String × Json)}
      (h : Rearranged MayBecome ["protocol_id", "body"] ms ns) : Redrafted (.object ms) (.object ns)

/-- **Redrafted envelopes are read alike**, as the same envelope or not at all. -/
theorem respects_ofJson? : Respects Redrafted ofJson? := by
  rintro v w ⟨h⟩ hv hw
  rw [ofJson?, ofJson?, Option.bind_eq_bind, Option.bind_eq_bind]
  refine (h.alike hv hw).bind_members? fun ms ns h => ?_
  have hprotocol : Respects (MayBecome "protocol_id") Json.text? := fun v w hvw _ _ => by
    obtain rfl : v = w := hvw
    rfl
  have hbody : Respects (MayBecome "body") Body.ofJson? := Body.respects_ofJson?
  rw [h.required? hprotocol (by decide), h.required? hbody (by decide)]

/-- An envelope with a body of a new kind is read as such, whatever else either of them holds. -/
theorem ofJson?_eq_unknown {ms bs : List (String × Json)} {protocol kind : String}
    (hms : (Json.object ms).isPlain = true) (hprotocol : ("protocol_id", .text protocol) ∈ ms)
    (hbody : ("body", .object bs) ∈ ms) (hkind : ("kind", .text kind) ∈ bs)
    (htransaction : kind ≠ "transaction") (hupdate : kind ≠ "state_update") :
    ofJson? (.object ms) = some ⟨protocol, .unknown⟩ := by
  have hnames := Json.nodup_of_isPlain hms
  have hprotocol := lookup_of_mem hnames hprotocol
  have hbody := lookup_of_mem hnames hbody
  have hplain := Json.isPlain_of_lookup hms hbody
  have hnew : Body.ofJson? (.object bs) = some .unknown :=
    Body.ofJson?_eq_unknown (Json.isValid_of_isPlain hplain)
      (Json.once_of_nodup (Json.nodup_of_isPlain hplain) _)
      (lookup_of_mem (Json.nodup_of_isPlain hplain) hkind) htransaction hupdate
  rw [ofJson?, (Json.once_of_nodup hnames _).members?]
  simp only [Option.bind_eq_bind, Option.bind_some, Json.Members.required?]
  rw [Json.lookup_named (by decide), Json.lookup_named (by decide), hprotocol, hbody,
    Option.bind_some, Option.bind_some, hnew]
  rfl

end Envelope

/-! ### Bodies of new kinds -/

namespace Agent

theorem State.handle_unknown (w : Wallet) (s : State) (protocol : String) :
    s.handle w ⟨protocol, .unknown⟩ = (s, .dropped) := by
  unfold handle
  cases Envelope.isInternal ⟨protocol, .unknown⟩ <;> rfl

theorem Summary.ofOutcomes_dropped (os ps : List State.Outcome) :
    ofOutcomes (os ++ .dropped :: ps) = ofOutcomes (os ++ ps) + ⟨1, 1, 0, 0⟩ := by
  have hcount (p : State.Outcome → Bool) : (os ++ .dropped :: ps).countP p =
      (os ++ ps).countP p + if p .dropped = true then 1 else 0 := by
    rw [List.countP_append, List.countP_append, List.countP_cons, Nat.add_assoc]
  rw [ofOutcomes, hcount, hcount, hcount, List.length_append, List.length_cons, ← Nat.add_assoc,
    ← List.length_append]
  rfl

/-- What comes of the other envelopes is the same. -/
theorem State.handleAll_unknown (w : Wallet) (s : State) (es fs : List Envelope)
    (protocol : String) :
    ∃ os ps, s.handleAll w (es ++ ⟨protocol, .unknown⟩ :: fs) =
        ((s.handleAll w (es ++ fs)).1, os ++ .dropped :: ps) ∧
      (s.handleAll w (es ++ fs)).2 = os ++ ps := by
  refine ⟨(s.handleAll w es).2, ((s.handleAll w es).1.handleAll w fs).2, ?_, ?_⟩
  · rw [handleAll_append, handleAll_append, handleAll_cons, handle_unknown]
  · rw [handleAll_append]

/-- **An envelope of a new kind goes by** without a trace but in the counts. -/
theorem DecisionMaker.executeAll_unknown (d : DecisionMaker) (es fs : List Envelope)
    (protocol : String) :
    (d.executeAll (es ++ ⟨protocol, .unknown⟩ :: fs)).1.state =
        (d.executeAll (es ++ fs)).1.state ∧
      (d.executeAll (es ++ ⟨protocol, .unknown⟩ :: fs)).2.2 = (d.executeAll (es ++ fs)).2.2 ∧
      (d.executeAll (es ++ ⟨protocol, .unknown⟩ :: fs)).2.1 =
        (d.executeAll (es ++ fs)).2.1 + ⟨1, 1, 0, 0⟩ := by
  obtain ⟨hstate, hanswers⟩ := d.executeAll_eq (es ++ ⟨protocol, .unknown⟩ :: fs)
  obtain ⟨hstate', hanswers'⟩ := d.executeAll_eq (es ++ fs)
  obtain ⟨os, ps, hall, hothers⟩ :=
    d.state.handleAll_unknown d.wallet (d.queue ++ es) fs protocol
  rw [List.append_assoc, List.append_assoc] at hall
  rw [List.append_assoc] at hothers
  rw [hstate, hstate', hanswers, hanswers', hall, hothers]
  refine ⟨rfl, ?_, Summary.ofOutcomes_dropped os ps⟩
  rw [List.filterMap_append, List.filterMap_append]
  rfl

end Agent

namespace Engine

open Agent (DecisionMaker)

/-- **Other dialects are tolerated.** If an envelope is redrafted, with its members, those of its
body and those of the maps in there in another order, and with members of names among them that the
reader does not look for, then it is read as the same envelope as before, or not at all as before.
An envelope with a body of a new kind is read, whatever else that body holds; and a decision maker
drops it, and does with all others what it would do without it. -/
theorem dialects_tolerated :
    (∀ (text text' : String) (v w : Json), Json.parse? text = some v → Json.parse? text' = some w →
      v.isPlain = true → w.isValid = true → Envelope.Redrafted v w →
      envelope? text = envelope? text') ∧
    ∀ (text : String) (ms bs : List (String × Json)) (protocol kind : String),
      Json.parse? text = some (.object ms) → (Json.object ms).isPlain = true →
      ("protocol_id", .text protocol) ∈ ms → ("body", .object bs) ∈ ms →
      ("kind", .text kind) ∈ bs → kind ≠ "transaction" → kind ≠ "state_update" →
      ∃ e : Envelope, envelope? text = some e ∧ e = ⟨protocol, .unknown⟩ ∧
        (∀ (w : Wallet) (s : Agent.State), s.handle w e = (s, .dropped)) ∧
        ∀ (d : DecisionMaker) (es fs : List Envelope),
          (d.executeAll (es ++ e :: fs)).1.state = (d.executeAll (es ++ fs)).1.state ∧
          (d.executeAll (es ++ e :: fs)).2.2 = (d.executeAll (es ++ fs)).2.2 ∧
          (d.executeAll (es ++ e :: fs)).2.1 = (d.executeAll (es ++ fs)).2.1 + ⟨1, 1, 0, 0⟩ := by
  constructor
  · intro text text' v w htext htext' hv hw h
    rw [envelope?, envelope?, htext, htext']
    exact Envelope.respects_ofJson? v w h hv hw
  · intro text ms bs protocol kind htext hms hprotocol hbody hkind htransaction hupdate
    refine ⟨⟨protocol, .unknown⟩, ?_, rfl, fun w s => s.handle_unknown w protocol,
      fun d es fs => d.executeAll_unknown es fs protocol⟩
    rw [envelope?, htext]
    exact Envelope.ofJson?_eq_unknown hms hprotocol hbody hkind htransaction hupdate

/-- The members of an update that adds to the holdings. -/
def gain : List (String × Json) :=
  [("kind", .text "state_update"), ("performative", .text "apply"),
    ("amount_by_currency", .object [("BTC", .int 1), ("FET", .int 2)]),
    ("quantities_by_good_id", .object [])]

/-- The same with every object turned around and with a member of a newer dialect, which has the
name of one of updates of the other kind. -/
def newerGain : List (String × Json) :=
  [("quantities_by_good_id", .object []), ("tx_fee", .text "none"),
    ("amount_by_currency", .object [("FET", .int 2), ("BTC", .int 1)]),
    ("performative", .text "apply"), ("kind", .text "state_update")]

/-- The members of a bid, which is a body of a new kind. -/
def bid : List (String × Json) :=
  [("amount", .text "two"), ("performative", .array []), ("kind", .text "bid")]

/-- The members of an envelope of the internal protocol. -/
def enveloped (body : List (String × Json)) : List (String × Json) :=
  [("protocol_id", .text "internal"), ("body", .object body)]

theorem redrafted_gain : Envelope.Redrafted (.object (enveloped gain))
    (.object (("version", .int 2) :: (enveloped newerGain).reverse)) := by
  have hmap : Reordered (.object [("BTC", .int 1), ("FET", .int 2)])
      (.object [("FET", .int 2), ("BTC", .int 1)]) := .object (.swap _ _ _)
  have hbody : Rearranged (fun _ => Reordered) (Body.names gain) gain newerGain.reverse :=
    .kept (.same _) (.kept (.same _) (.kept hmap (.added (by decide) (.kept (.same _) .nil))))
  have hmembers : Rearranged Envelope.MayBecome ["protocol_id", "body"] (enveloped gain)
      (enveloped newerGain) :=
    .kept rfl (.kept (.members (.moved hbody (List.reverse_perm _))) .nil)
  exact .members (.added (by decide) (.moved hmembers (List.reverse_perm _).symm))

theorem dialects_tolerated_gain :
    let v : Json := .object (enveloped gain)
    let w : Json := .object (("version", .int 2) :: (enveloped newerGain).reverse)
    let ms := enveloped bid
    (Json.parse? v.render = some v ∧ Json.parse? w.render = some w ∧ v.isPlain = true ∧
      w.isValid = true ∧ Envelope.Redrafted v w ∧ envelope? v.render = envelope? w.render ∧
      envelope? w.render = some (.ofBody (.stateUpdate
        (.apply (.ofList [("BTC", 1), ("FET", 2)]) .empty)))) ∧
    (Json.parse? (Json.object ms).render = some (.object ms) ∧ (Json.object ms).isPlain = true ∧
      ("protocol_id", .text "internal") ∈ ms ∧ ("body", .object bid) ∈ ms ∧
      ("kind", .text "bid") ∈ bid ∧
      envelope? (Json.object ms).render = some ⟨"internal", .unknown⟩) := by
  intro v w ms
  have hread (u : Json) (hproper : u.isProper = true) (hdoubles : u.doubles = [])
      (hdepth : u.depth ≤ Json.maxOpen) : Json.parse? u.render = some u :=
    Json.parseWithin?_render hproper (by simp [hdoubles]) hdepth
  have hv := hread v (by decide) rfl (by decide)
  have hw := hread w (by decide) rfl (by decide)
  have hms := hread (.object ms) (by decide) rfl (by decide)
  have hprotocol : ("protocol_id", .text "internal") ∈ ms := List.mem_cons_self
  have hbody : ("body", .object bid) ∈ ms := List.mem_cons_of_mem _ List.mem_cons_self
  have hkind : ("kind", .text "bid") ∈ bid := List.mem_of_getLast? rfl
  have hgain : envelope? w.render = some (.ofBody (.stateUpdate
      (.apply (.ofList [("BTC", 1), ("FET", 2)]) .empty))) := by
    rw [envelope?, hw]
    rfl
  obtain ⟨hredrafted, hnew⟩ := dialects_tolerated
  obtain ⟨e, he, rfl, -⟩ := hnew _ ms bid "internal" "bid" hms (by decide) hprotocol hbody hkind
    (by decide) (by decide)
  exact ⟨⟨hv, hw, by decide, by decide, redrafted_gain,
      hredrafted _ _ v w hv hw (by decide) (by decide) redrafted_gain, hgain⟩,
    hms, by decide, hprotocol, hbody, hkind, he⟩

end Engine

end Bazaar
