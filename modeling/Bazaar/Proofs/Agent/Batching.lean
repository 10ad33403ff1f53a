import Bazaar.Proofs.Agent.Settlement

/-!
It is no matter into which cycles the handling of envelopes falls. A cycle handles envelopes from
the front of the queue, and what comes of them depends on nothing but the state that was left by
those before. Main statement: a schedule of sends and cycles that ends with an empty queue does
what one cycle without a limit does after all sends (`execute_batches`).
-/

namespace Bazaar.Agent

/-! ### Counts of cycles -/

namespace Summary

instance : Zero Summary := ⟨⟨0, 0, 0, 0⟩⟩

/-- Summaries are added count by count. -/
instance : Add Summary where
  add a b := ⟨a.handled + b.handled, a.dropped + b.dropped, a.accepted + b.accepted,
    a.rejected + b.rejected⟩

theorem ofOutcomes_append (os ps : List State.Outcome) :
    ofOutcomes (os ++ ps) = ofOutcomes os + ofOutcomes ps := by
  simp only [ofOutcomes, List.length_append, List.countP_append]
  rfl

end Summary

def State.Outcome.isUpdated : Outcome → Bool
  | .updated => true
  | _ => false

/-- Whether an envelope is an internal state update. -/
def isUpdate (e : Envelope) : Bool :=
  e.isInternal &&
    match e.body with
    | .stateUpdate _ => true
    | _ => false

/-- **The counts of envelopes**: all of them were handled, and each of them either was dropped, was
accepted, was rejected or is an update. -/
structure Summary.Counts (c : Summary) (es : List Envelope) : Prop where
  handled : c.handled = es.length
  balance : c.handled = c.dropped + c.accepted + c.rejected + es.countP isUpdate

namespace Summary

theorem counts_singleton {o : State.Outcome} {e : Envelope} (h : o.isUpdated = isUpdate e) :
    (ofOutcomes [o]).Counts [e] := by
  refine ⟨rfl, ?_⟩
  rw [List.countP_singleton, ← h]
  cases o with
  | dropped | updated => rfl
  | answered t =>
    by_cases ha : t.performative = .accept <;>
      simp [ofOutcomes, State.Outcome.isDropped, State.Outcome.isAccepted,
        State.Outcome.isRejected, State.Outcome.isUpdated, ha]

theorem Counts.append {c d : Summary} {es fs : List Envelope} (hc : c.Counts es)
    (hd : d.Counts fs) : (c + d).Counts (es ++ fs) where
  handled := by
    have h := hc.handled
    have h' := hd.handled
    change c.handled + d.handled = _
    rw [List.length_append, h, h']
  balance := by
    have h := hc.balance
    have h' := hd.balance
    change c.handled + d.handled = c.dropped + d.dropped + (c.accepted + d.accepted) +
      (c.rejected + d.rejected) + _
    rw [List.countP_append]
    omega

end Summary

/-! ### Handling a list of envelopes -/

namespace State

/-- Handles envelopes, one after the other: the state after it, and what came of each. -/
def handleAll (w : Wallet) (s : State) : List Envelope → State × List Outcome
  | [] => (s, [])
  | e :: es =>
    let (s, o) := s.handle w e
    let (s, os) := s.handleAll w es
    (s, o :: os)

theorem handleAll_cons (w : Wallet) (s : State) (e : Envelope) (es : List Envelope) :
    s.handleAll w (e :: es) = (((s.handle w e).1.handleAll w es).1,
      (s.handle w e).2 :: ((s.handle w e).1.handleAll w es).2) := rfl

/-- **Handling can be interrupted** between any two envelopes. -/
theorem handleAll_append (w : Wallet) (s : State) (es fs : List Envelope) :
    s.handleAll w (es ++ fs) = (((s.handleAll w es).1.handleAll w fs).1,
      (s.handleAll w es).2 ++ ((s.handleAll w es).1.handleAll w fs).2) := by
  induction es generalizing s with
  | nil => rfl
  | cons e es ih =>
    rw [List.cons_append, handleAll_cons, ih, handleAll_cons]
    rfl

/-- A cycle handles the envelopes at the front of the queue. -/
theorem drain_handled (w : Wallet) (s : State) (n : Nat) (q : List Envelope) :
    ((s.drain w n q).1, (s.drain w n q).2.1) = s.handleAll w (q.take n) := by
  induction n generalizing s q with
  | zero => rfl
  | succ n ih =>
    cases q with
    | nil => rfl
    | cons e q =>
      rw [List.take_succ_cons, handleAll_cons, ← ih]
      rfl

theorem handleAll_effects (w : Wallet) (s : State) (es : List Envelope) :
    Effects w s.ledger es (s.handleAll w es).2 (s.handleAll w es).1.ledger := by
  induction es generalizing s with
  | nil => exact .nil _
  | cons e es ih => exact .cons (handle_effect w s e) (ih (s.handle w e).1)

theorem isUpdated_handle (w : Wallet) (s : State) (e : Envelope) :
    (s.handle w e).2.isUpdated = isUpdate e := by
  unfold handle isUpdate
  cases e.isInternal with
  | false => rfl
  | true => cases e.body <;> rfl

theorem counts_handleAll (w : Wallet) (s : State) (es : List Envelope) :
    (Summary.ofOutcomes (s.handleAll w es).2).Counts es := by
  induction es generalizing s with
  | nil => exact ⟨rfl, rfl⟩
  | cons e es ih =>
    have h := (Summary.counts_singleton (isUpdated_handle w s e)).append (ih (s.handle w e).1)
    rwa [← Summary.ofOutcomes_append] at h

end State

/-! ### Schedules -/

/-- What is done with a decision maker. -/
inductive Move where
  | send (e : Envelope)
  /-- Sets the most envelopes that a cycle handles. -/
  | limit (maxReactions : Nat)
  | execute

/-- The envelopes that a schedule sends, in order. -/
def Move.sent (ms : List Move) : List Envelope :=
  ms.filterMap fun
    | .send e => some e
    | _ => none

namespace DecisionMaker

def withLimit (d : DecisionMaker) (maxReactions : Nat) : DecisionMaker := { d with maxReactions }

/-- Makes the moves of a schedule; also the summaries and the answers of its cycles. -/
def run (d : DecisionMaker) : List Move → DecisionMaker × List (Summary × List Transaction)
  | [] => (d, [])
  | .send e :: ms => (d.send e).run ms
  | .limit n :: ms => (d.withLimit n).run ms
  | .execute :: ms =>
    let (d, r) := d.execute
    let (d, rs) := d.run ms
    (d, r :: rs)

/-- Sends envelopes, and then runs one cycle without a limit. -/
def executeAll (d : DecisionMaker) (es : List Envelope) :
    DecisionMaker × Summary × List Transaction :=
  ((es.foldl send d).withLimit 0).execute

/-- **What a run has handled**: envelopes from the front of the queue and of what was sent behind
it, with the rest left queued, and with the state, counts and answers of handling them at once. -/
structure Handled (d : DecisionMaker) (sent es : List Envelope)
    (r : DecisionMaker × List (Summary × List Transaction)) : Prop where
  queue : d.queue ++ sent = es ++ r.1.queue
  state : r.1.state = (d.state.handleAll d.wallet es).1
  summary : (r.2.map (·.1)).sum = .ofOutcomes (d.state.handleAll d.wallet es).2
  answers : r.2.flatMap (·.2) = (d.state.handleAll d.wallet es).2.filterMap (·.answer?)

/-- A cycle handles the front of the queue, as far as the limit goes. -/
theorem execute_eq (d : DecisionMaker) :
    d.execute =
      ({ d with
          state := (d.state.handleAll d.wallet (d.queue.take d.limit)).1
          queue := d.queue.drop d.limit },
        .ofOutcomes (d.state.handleAll d.wallet (d.queue.take d.limit)).2,
        (d.state.handleAll d.wallet (d.queue.take d.limit)).2.filterMap (·.answer?)) := by
  have hhandled := State.drain_handled d.wallet d.state d.limit d.queue
  have hqueue := State.drain_queue d.wallet d.state d.limit d.queue
  rw [← hhandled, ← hqueue]
  rfl

/-- A cycle in front of a run adds what it handles itself. -/
theorem Handled.execute {d : DecisionMaker} {ms : List Move} {es : List Envelope}
    (h : Handled d.execute.1 (Move.sent ms) es (d.execute.1.run ms)) :
    Handled d (Move.sent ms) (d.queue.take d.limit ++ es) (d.run (.execute :: ms)) := by
  have hrun : d.run (.execute :: ms) =
      ((d.execute.1.run ms).1, d.execute.2 :: (d.execute.1.run ms).2) := rfl
  obtain ⟨hqueue, hstate, hsummary, hanswers⟩ := h
  rw [hrun]
  generalize d.execute.1.run ms = r at *
  rw [execute_eq] at hqueue hstate hsummary hanswers ⊢
  constructor
  case queue =>
    rw [List.append_assoc, ← hqueue, ← List.append_assoc, List.take_append_drop]
  case state => rw [hstate, State.handleAll_append]
  case summary =>
    rw [List.map_cons, List.sum_cons, hsummary, State.handleAll_append, Summary.ofOutcomes_append]
  case answers =>
    rw [List.flatMap_cons, hanswers, State.handleAll_append, List.filterMap_append]

/-- **Every run handles envelopes in the order in which they are queued**, whatever its schedule. -/
theorem exists_handled (d : DecisionMaker) (ms : List Move) :
    ∃ es, Handled d (Move.sent ms) es (d.run ms) := by
  induction ms generalizing d with
  | nil => exact ⟨[], by simp [Move.sent, run], rfl, rfl, rfl⟩
  | cons m ms ih =>
    cases m with
    | send e =>
      obtain ⟨es, hqueue, hstate, hsummary, hanswers⟩ := ih (d.send e)
      refine ⟨es, ?_, hstate, hsummary, hanswers⟩
      rw [run, ← hqueue, send, List.append_assoc]
      rfl
    | limit n =>
      obtain ⟨es, hqueue, hstate, hsummary, hanswers⟩ := ih (d.withLimit n)
      exact ⟨es, hqueue, hstate, hsummary, hanswers⟩
    | execute =>
      obtain ⟨es, h⟩ := ih d.execute.1
      exact ⟨_, h.execute⟩

theorem foldl_send (d : DecisionMaker) (es : List Envelope) :
    es.foldl send d = { d with queue := d.queue ++ es } := by
  induction es generalizing d with
  | nil => rw [List.append_nil, List.foldl_nil]
  | cons e es ih => rw [List.foldl_cons, ih, send, List.append_assoc, List.singleton_append]

/-- One cycle without a limit handles all that is queued and sent. -/
theorem executeAll_eq (d : DecisionMaker) (es : List Envelope) :
    (d.executeAll es).1.state = (d.state.handleAll d.wallet (d.queue ++ es)).1 ∧
      (d.executeAll es).2 =
        (.ofOutcomes (d.state.handleAll d.wallet (d.queue ++ es)).2,
          (d.state.handleAll d.wallet (d.queue ++ es)).2.filterMap (·.answer?)) := by
  rw [executeAll, foldl_send, execute_eq]
  simp only [withLimit, limit, if_true, List.take_length, and_self]

/-- **It is no matter how envelopes are handled in batches.** A schedule of sends and cycles, under
limits that change at will, leaves the agent and the ledger in the same state as one cycle without
a limit after all sends if it ends with an empty queue; it gives the same answers in the same
order, and its summaries add up to the same counts. Each cycle handles just the front of the queue
up to its limit, leaves the rest as it was, and counts each envelope once. -/
theorem execute_batches :
    (∀ (d : DecisionMaker) (ms : List Move), (d.run ms).1.queue = [] →
      (d.run ms).1.state = (d.executeAll (Move.sent ms)).1.state ∧
      (d.run ms).2.flatMap (·.2) = (d.executeAll (Move.sent ms)).2.2 ∧
      ((d.run ms).2.map (·.1)).sum = (d.executeAll (Move.sent ms)).2.1) ∧
    ∀ d : DecisionMaker,
      d.execute.2.1.handled =
        (if d.maxReactions = 0 then d.queue.length else min d.maxReactions d.queue.length) ∧
      d.execute.1.queue = d.queue.drop d.execute.2.1.handled ∧
      d.execute.2.1.Counts (d.queue.take d.execute.2.1.handled) := by
  constructor
  · intro d ms hempty
    obtain ⟨es, hqueue, hstate, hsummary, hanswers⟩ := d.exists_handled ms
    obtain ⟨hall, hanswer⟩ := d.executeAll_eq (Move.sent ms)
    rw [hempty, List.append_nil] at hqueue
    rw [hall, hanswer, hqueue]
    exact ⟨hstate, hanswers, hsummary⟩
  · intro d
    have hcounts := State.counts_handleAll d.wallet d.state (d.queue.take d.limit)
    have hhandled : d.execute.2.1.handled = min d.limit d.queue.length := by
      rw [execute_eq]
      exact hcounts.handled.trans List.length_take
    refine ⟨?_, ?_, ?_⟩
    · rw [hhandled, limit]
      split
      · exact Nat.min_self _
      · rfl
    · rw [hhandled, ← List.drop_eq_drop_min, execute_eq]
    · rw [hhandled, ← List.take_eq_take_min, execute_eq]
      exact hcounts

/-- A purchase for 60 on a ledger. -/
def purchase (id : TransactionId) : Envelope :=
  .ofBody (.transaction ⟨.propose, id, "a", "b", true, "FET", 60, 0, 0, .empty, "l", .empty, none⟩)

/-- An agent that holds 100 on the ledger and handles one envelope in a cycle. -/
def buyer : DecisionMaker where
  name := "buyer"
  wallet := .ofIdentities [⟨"l", "a"⟩]
  maxReactions := 1
  queue := []
  state := .new ⟨"l", .ofNumber, .ofList [("a", 100)], 100, []⟩

/-- Two purchases of which one can be paid, with an envelope of another protocol between them. -/
def purchases : List Move :=
  [.send (purchase "1"), .execute, .send ⟨"other", .unknown⟩, .send (purchase "2"), .execute,
    .limit 0, .execute]

theorem execute_batches_purchases :
    (buyer.run purchases).1.queue = [] ∧
      ((buyer.run purchases).1.state = (buyer.executeAll (Move.sent purchases)).1.state ∧
        (buyer.run purchases).2.flatMap (·.2) = (buyer.executeAll (Move.sent purchases)).2.2 ∧
        ((buyer.run purchases).2.map (·.1)).sum = (buyer.executeAll (Move.sent purchases)).2.1) ∧
      (buyer.executeAll (Move.sent purchases)).2.1 = ⟨3, 1, 1, 1⟩ := by
  have hempty : (buyer.run purchases).1.queue = [] := by rfl
  exact ⟨hempty, execute_batches.1 buyer purchases hempty, by decide +kernel⟩

end DecisionMaker

end Bazaar.Agent
