import Bazaar.Proofs.Agent.Batching
import Bazaar.Proofs.Agent.Initialization

/-!
The holdings of an agent are the history of what it was told. An account keeps an opening and all
changes since, and reads as their sum; which updates take effect is said of the accounts alone.
Main statement: at every point of every run the agent holds just what the accounts say
(`holdings_eq_history`).
-/

namespace Bazaar.Agent

/-! ### Accounts -/

/-- **An account of holdings**: what they were set to last, and what was added since. -/
structure Account where
  opening : Holdings
  changes : List Holdings

namespace Account

/-- An account without changes. -/
def ofOpening (h : Holdings) : Account := ⟨h, []⟩

/-- The account with one more change. -/
def add (a : Account) (d : Holdings) : Account := { a with changes := a.changes ++ [d] }

/-- What the account says of a key: the opening and all changes, among the integers. -/
def total (a : Account) (k : String) : Int :=
  (a.opening.held k).toInt + Amount.total (a.changes.map (·.held k))

/-- Whether the opening or a change says something of a key. -/
def Mentions (a : Account) (k : String) : Prop := k ∈ a.opening.keys ∨ ∃ d ∈ a.changes, k ∈ d.keys

/-- Whether a change leaves everything that it touches in the range of amounts. -/
def Admits (a : Account) (d : Holdings) : Prop :=
  ∀ k ∈ d.keys, Amount.InRange (a.total k + (d.held k).toInt)

instance (a : Account) (d : Holdings) : Decidable (a.Admits d) := by unfold Admits; infer_instance

/-- **Holdings are as an account says**, key by key and with no other keys. -/
structure Describes (a : Account) (h : Holdings) : Prop where
  held : ∀ k, (h.held k).toInt = a.total k
  keys : ∀ k, k ∈ h.keys ↔ a.Mentions k

theorem total_add (a : Account) (d : Holdings) (k : String) :
    (a.add d).total k = a.total k + (d.held k).toInt := by
  simp only [total, add, List.map_append, List.map_cons, List.map_nil, Amount.total_append,
    Amount.total_cons, Amount.total_nil]
  omega

theorem mentions_add {a : Account} {d : Holdings} {k : String} :
    (a.add d).Mentions k ↔ a.Mentions k ∨ k ∈ d.keys := by
  simp only [Mentions, add, List.mem_append, List.mem_singleton, or_assoc]
  constructor
  · rintro (h | ⟨e, he | rfl, hk⟩)
    · exact .inl h
    · exact .inr (.inl ⟨e, he, hk⟩)
    · exact .inr (.inr hk)
  · rintro (h | ⟨e, he, hk⟩ | hk)
    · exact .inl h
    · exact .inr ⟨e, .inl he, hk⟩
    · exact .inr ⟨d, .inr rfl, hk⟩

theorem describes_ofOpening (h : Holdings) : (ofOpening h).Describes h where
  held k := by simp [total, ofOpening]
  keys k := by simp [Mentions, ofOpening]

variable {a : Account} {h h' d : Holdings}

theorem Describes.add (ha : a.Describes h) (hd : h.addAll d = .ok h') : (a.add d).Describes h' := by
  obtain ⟨hheld, hkeys⟩ := Holdings.adds_of_addEntries d.sorted hd
  refine ⟨fun k => ?_, fun k => ?_⟩
  · rw [hheld, ha.held, total_add, d.held_eq_heldIn]
  · rw [hkeys, ha.keys, mentions_add]
    rfl

/-- An account admits just the changes that can be made to the holdings. -/
theorem Describes.admits_iff (ha : a.Describes h) : a.Admits d ↔ ∃ h', h.addAll d = .ok h' := by
  rw [Holdings.addAll, Holdings.exists_addEntries_iff d.sorted]
  constructor
  · intro hadmits k
    by_cases hk : k ∈ d.keys
    · rw [ha.held]
      exact hadmits k hk
    · -- a key of which the change says nothing keeps its amount
      have hnone : SortedMap.find k d.entries = none := by
        rw [← Option.not_isSome_iff_eq_none, SortedMap.isSome_find_iff]
        exact hk
      rw [SortedMap.heldIn_eq_zero hnone, Int.add_zero]
      exact Amount.inRange_toInt _
  · intro hrange k _
    rw [← ha.held]
    exact hrange k

end Account

/-- The accounts of both kinds of holdings. -/
structure Accounts where
  amounts : Account
  goods : Account

namespace Accounts

/-- **Whether an update takes effect.** An endowment does if there are accounts already or its fee
can be divided; amounts can be added only to accounts, and only if both of them admit all of it. -/
def TakesEffect : Option Accounts → StateUpdate → Prop
  | r, .endow _ _ _ _ fee => r.isSome = true ∨ (Fees.split fee).isOk = true
  | none, .apply _ _ => False
  | some a, .apply amounts goods => a.amounts.Admits amounts ∧ a.goods.Admits goods

instance (r : Option Accounts) (u : StateUpdate) : Decidable (TakesEffect r u) := by
  unfold TakesEffect
  split <;> infer_instance

/-- The accounts with an update: an endowment opens them anew, and amounts are added as changes. -/
def record (r : Option Accounts) : StateUpdate → Option Accounts
  | .endow amounts goods _ _ _ => some ⟨.ofOpening amounts, .ofOpening goods⟩
  | .apply amounts goods => r.map fun a => ⟨a.amounts.add amounts, a.goods.add goods⟩

/-- The accounts after an update, which is recorded if it takes effect. -/
def next (r : Option Accounts) (u : StateUpdate) : Option Accounts :=
  if TakesEffect r u then record r u else r

/-- The accounts of a history of updates. -/
def ofUpdates (us : List StateUpdate) : Option Accounts := us.foldl next none

end Accounts

/-- The update that an envelope brings, if it is an internal one. -/
def update? (e : Envelope) : Option StateUpdate :=
  if e.isInternal then
    match e.body with
    | .stateUpdate u => some u
    | _ => none
  else none

/-- The accounts of a history of envelopes. -/
def Accounts.ofEnvelopes (es : List Envelope) : Option Accounts :=
  ofUpdates (es.filterMap update?)

/-! ### States that agree with accounts -/

namespace State

/-- **A state agrees with accounts**: without accounts nothing is held, and otherwise what the
accounts say. -/
inductive Agrees (s : State) : Option Accounts → Prop
  | unset (ready : s.ready = false) (ownership : s.ownership = .unset) : Agrees s none
  | held {a : Accounts} {amounts goods : Holdings} (ready : s.ready = true)
    (ownership : s.ownership = .ofHoldings amounts goods)
    (describes_amounts : a.amounts.Describes amounts)
    (describes_goods : a.goods.Describes goods) : Agrees s (some a)

variable {s s' : State} {r : Option Accounts}

theorem Agrees.of_eq (h : Agrees s r) (ho : s'.ownership = s.ownership)
    (hr : s'.ready = s.ready) : Agrees s' r := by
  cases h with
  | unset ready ownership => exact .unset (hr.trans ready) (ho.trans ownership)
  | held ready ownership ha hg => exact .held (hr.trans ready) (ho.trans ownership) ha hg

theorem Agrees.ready_eq (h : Agrees s r) : s.ready = r.isSome := by
  cases h <;> assumption

theorem Agrees.takesEffect_apply_iff (h : Agrees s r) {amounts goods : Holdings} :
    Accounts.TakesEffect r (.apply amounts goods) ↔
      ∃ o, s.ownership.applyDeltas amounts goods = .ok o := by
  simp only [Ownership.applyDeltas_eq_ok_iff]
  cases h with
  | unset _ ownership =>
    rw [ownership]
    constructor
    · exact False.elim
    · rintro ⟨o, a, g, a', g', hunset, -⟩
      cases hunset
  | held _ ownership ha hg =>
    rw [ownership]
    simp only [Accounts.TakesEffect, ha.admits_iff, hg.admits_iff]
    constructor
    · rintro ⟨⟨a', ha'⟩, g', hg'⟩
      exact ⟨_, _, _, a', g', rfl, ha', hg', rfl⟩
    · rintro ⟨o, a, g, a', g', heq, ha', hg', -⟩
      cases heq
      exact ⟨⟨a', ha'⟩, g', hg'⟩

/-- An update that takes no effect leaves the state as it is. -/
theorem Agrees.update_eq_self (hs : s.Coherent) (h : Agrees s r) {u : StateUpdate}
    (hu : ¬ Accounts.TakesEffect r u) : s.update u = s := by
  cases u with
  | endow amounts goods exchange utility fee =>
    simp only [Accounts.TakesEffect, ← h.ready_eq, not_or] at hu
    obtain ⟨hready, hfee⟩ := hu
    rw [hs.update_endow, endowed, if_neg hready]
    cases hsplit : Fees.split fee with
    | ok fees => exact absurd (by rw [hsplit]; rfl) hfee
    | error f => rfl
  | apply amounts goods =>
    rw [h.takesEffect_apply_iff] at hu
    rw [update]
    cases ho : s.ownership.applyDeltas amounts goods with
    | ok o => exact absurd ⟨o, ho⟩ hu
    | error f => rfl

/-- An update that takes effect leaves what the accounts say with it recorded. -/
theorem Agrees.update_record (hs : s.Coherent) (h : Agrees s r) {u : StateUpdate}
    (hu : Accounts.TakesEffect r u) : Agrees (s.update u) (Accounts.record r u) := by
  cases u with
  | endow amounts goods exchange utility fee =>
    have ha := Account.describes_ofOpening amounts
    have hg := Account.describes_ofOpening goods
    rw [hs.update_endow, endowed]
    simp only [Accounts.TakesEffect, ← h.ready_eq] at hu
    split
    · rename_i hready
      exact .held hready rfl ha hg
    · rename_i hready
      cases hsplit : Fees.split fee with
      | ok fees => exact .held rfl rfl ha hg
      | error f =>
        rw [hsplit] at hu
        obtain hu | hu := hu
        · exact absurd hu hready
        · cases hu
  | apply amounts goods =>
    obtain ⟨o, ho⟩ := h.takesEffect_apply_iff.1 hu
    have hupdate : s.update (.apply amounts goods) = { s with ownership := o } := by
      rw [update, ho]
    obtain ⟨a, g, a', g', heq, ha', hg', rfl⟩ := Ownership.applyDeltas_eq_ok_iff.1 ho
    rw [hupdate]
    cases h with
    | unset _ ownership =>
      rw [ownership] at heq
      cases heq
    | held ready ownership ha hg =>
      rw [ownership] at heq
      cases heq
      exact .held ready rfl (ha.add ha') (hg.add hg')

theorem Agrees.update (hs : s.Coherent) (h : Agrees s r) (u : StateUpdate) :
    Agrees (s.update u) (Accounts.next r u) := by
  rw [Accounts.next]
  split
  · rename_i hu
    exact h.update_record hs hu
  · rename_i hu
    rw [h.update_eq_self hs hu]
    exact h

/-! ### Runs -/

theorem handle_eq_update {w : Wallet} {e : Envelope} {u : StateUpdate} (h : update? e = some u) :
    (s.handle w e).1 = s.update u := by
  unfold update? at h
  unfold handle
  split at h
  · rename_i hi
    rw [if_pos hi]
    split at h
    · rename_i hb
      rw [hb, ← Option.some.inj h]
    · cases h
  · cases h

/-- An envelope without an update changes nothing that the agent knows. -/
theorem learns_nothing {e : Envelope} (hl : Learns s e s') (h : update? e = none) :
    s'.ownership = s.ownership ∧ s'.preferences = s.preferences ∧ s'.ready = s.ready := by
  cases hl with
  | nothing ho hp hr => exact ⟨ho, hp, hr⟩
  | endowed body | adjusted body =>
    rw [body] at h
    simp [update?, Envelope.isInternal, Envelope.ofBody] at h

theorem Coherent.withLedger (hs : s.Coherent) (l : Ledger) : (s.withLedger l).Coherent := by
  cases hs with
  | unset ready ownership preferences => exact .unset ready ownership preferences
  | set ready ownership preferences => exact .set ready ownership preferences

theorem Agrees.handle (w : Wallet) (l : Ledger) (hs : s.Coherent) (h : Agrees s r) (e : Envelope) :
    Agrees ((s.withLedger l).handle w e).1
      (match update? e with
        | some u => Accounts.next r u
        | none => r) := by
  cases hu : update? e with
  | none =>
    obtain ⟨ho, -, hr⟩ := learns_nothing (learns_handle w s l e) hu
    exact h.of_eq ho hr
  | some u =>
    have hl : Agrees (s.withLedger l) r := h.of_eq rfl rfl
    rw [handle_eq_update hu]
    exact hl.update (hs.withLedger l) u

/-- **A run keeps its accounts**, whatever others do with the ledger between the envelopes. -/
theorem agrees_after (w : Wallet) (hs : s.Coherent) (h : Agrees s r)
    (es : List (Ledger × Envelope)) :
    Agrees (s.after w es) (((es.map (·.2)).filterMap update?).foldl Accounts.next r) := by
  induction es generalizing s r with
  | nil => exact h
  | cons e es ih =>
    have hs' := (learns_handle w s e.1 e.2).coherent hs
    have h' := h.handle w e.1 hs e.2
    rw [List.map_cons, List.filterMap_cons]
    cases hu : update? e.2 with
    | none =>
      rw [hu] at h'
      exact ih hs' h'
    | some u =>
      rw [hu] at h'
      exact ih hs' h'

theorem agrees_new (w : Wallet) (l : Ledger) (es : List (Ledger × Envelope)) :
    Agrees ((new l).after w es) (Accounts.ofEnvelopes (es.map (·.2))) :=
  agrees_after w (.unset rfl rfl rfl) (.unset rfl rfl) es

/-- Handling envelopes in one go is a run in which nobody else uses the ledger. -/
theorem exists_after (w : Wallet) (s : State) (es : List Envelope) :
    ∃ ls : List Ledger, ls.length = es.length ∧ (s.handleAll w es).1 = s.after w (ls.zip es) := by
  induction es generalizing s with
  | nil => exact ⟨[], rfl, rfl⟩
  | cons e es ih =>
    obtain ⟨ls, hlength, hafter⟩ := ih (s.handle w e).1
    exact ⟨s.ledger :: ls, by simp [hlength], hafter⟩

theorem agrees_run (name : String) (w : Wallet) (n : Nat) (l : Ledger) (ms : List Move) :
    ∃ es, Move.sent ms = es ++ ((DecisionMaker.new name w n l).run ms).1.queue ∧
      Agrees ((DecisionMaker.new name w n l).run ms).1.state (Accounts.ofEnvelopes es) := by
  obtain ⟨es, hqueue, hstate, -, -⟩ := (DecisionMaker.new name w n l).exists_handled ms
  obtain ⟨ls, hlength, hafter⟩ := exists_after w (new l) es
  refine ⟨es, hqueue, ?_⟩
  have h := agrees_new w l (ls.zip es)
  rw [List.map_snd_zip (Nat.le_of_eq hlength.symm)] at h
  rw [hstate]
  exact hafter ▸ h

/-- **What an agent holds is the history of what it was told.** At every point of a run of a new
agent, whatever envelopes come and whatever others do with the ledger, nothing is held if no
endowment has taken effect; otherwise each amount is that of the last one and the sum of all that
was added since, under the keys that they name. An update that takes no effect changes nothing at
all, and whatever is no update changes neither holdings nor preferences. The same holds of every
schedule of sends and cycles, for the envelopes handled so far. -/
theorem holdings_eq_history (w : Wallet) (l : Ledger) (es : List (Ledger × Envelope)) :
    let s := (new l).after w es
    let r := Accounts.ofEnvelopes (es.map (·.2))
    Agrees s r ∧
    (∀ u, ¬ Accounts.TakesEffect r u → (s.handle w (.ofBody (.stateUpdate u))).1 = s) ∧
    (∀ e, update? e = none → (s.handle w e).1.ownership = s.ownership ∧
      (s.handle w e).1.preferences = s.preferences) ∧
    ∀ name n ms, ∃ fs, Move.sent ms = fs ++ ((DecisionMaker.new name w n l).run ms).1.queue ∧
      Agrees ((DecisionMaker.new name w n l).run ms).1.state (Accounts.ofEnvelopes fs) := by
  intro s r
  have hs : s.Coherent := coherent_after w (.unset rfl rfl rfl) es
  have h : Agrees s r := agrees_new w l es
  refine ⟨h, fun u hu => ?_, fun e he => ?_, fun name n ms => agrees_run name w n l ms⟩
  · rw [handle_eq_update (u := u) (by simp [update?, Envelope.isInternal, Envelope.ofBody])]
    exact h.update_eq_self hs hu
  · obtain ⟨ho, hp, -⟩ := learns_nothing (learns_handle w s s.ledger e) he
    exact ⟨ho, hp⟩

/-- An endowment with 100 of a currency, and an adjustment by which 40 of it go for two pears. -/
def pears : List (Ledger × Envelope) :=
  [(.new "l" .ofNumber,
      .ofBody (.stateUpdate (.endow (.ofList [("FET", 100)]) .empty .empty .empty 2))),
    (.new "l" .ofNumber,
      .ofBody (.stateUpdate (.apply (.ofList [("FET", -40)]) (.ofList [("pear", 2)]))))]

/-- An adjustment of which one sum would leave the range, and with it no pear is added either. -/
def excess : StateUpdate := .apply (.ofList [("FET", Amount.greatest)]) (.ofList [("pear", 1)])

theorem holdings_eq_history_excess :
    let s := (new (.new "l" .ofNumber)).after .empty pears
    s.ownership = .ofHoldings (.ofList [("FET", 60)]) (.ofList [("pear", 2)]) ∧
    (¬ Accounts.TakesEffect (Accounts.ofEnvelopes (pears.map (·.2))) excess ∧
      (s.handle .empty (.ofBody (.stateUpdate excess))).1 = s) ∧
    update? ⟨"other", .stateUpdate excess⟩ = none ∧
      (s.handle .empty ⟨"other", .stateUpdate excess⟩).1.ownership = s.ownership ∧
      (s.handle .empty ⟨"other", .stateUpdate excess⟩).1.preferences = s.preferences := by
  intro s
  have hexcess : ¬ Accounts.TakesEffect (Accounts.ofEnvelopes (pears.map (·.2))) excess := by
    decide +kernel
  have hother : update? ⟨"other", .stateUpdate excess⟩ = none := by decide +kernel
  obtain ⟨-, hself, hkeeps, -⟩ := holdings_eq_history .empty (.new "l" .ofNumber) pears
  exact ⟨by decide +kernel, ⟨hexcess, hself _ hexcess⟩, hother, hkeeps _ hother⟩

end State

end Bazaar.Agent
