import Bazaar.Proofs.Agent.Batching
import Bazaar.Proofs.Envelope
import Bazaar.Proofs.Except
import Bazaar.Proofs.Json.Lines

/-!
What is seen of a run of the engine. An input says no more than the envelopes of its lines, which
are those of its parts on both sides of any newline (`envelopes_append_newline`); a line that is
blank or no envelope therefore says nothing, wherever it stands. Main statement: a run is one cycle
over the lines that can be read (`report_run`).
-/

namespace Bazaar.Engine

open Text
open Agent (DecisionMaker)

/-! ### The envelopes of an input -/

theorem envelope?_blank {l : String} (h : isBlankText l) : envelope? l = none := by
  rw [envelope?, Json.parse?, Json.parseWithin?_blank h]
  rfl

/-- Blank lines need not be told from others that are no envelope. -/
theorem envelopes_eq (input : String) : envelopes input = (lines input).filterMap envelope? := by
  rw [envelopes, List.filterMap_filter]
  refine List.filterMap_congr fun l _ => ?_
  cases hl : isBlankText l with
  | true =>
    rw [envelope?_blank hl]
    rfl
  | false => rfl

/-- The return before a newline is white space to an envelope. -/
theorem envelope?_dropReturn (line : List Char) :
    envelope? (String.ofList (dropReturn line).reverse) =
      envelope? (String.ofList line.reverse) := by
  cases line with
  | nil => rfl
  | cons c cs =>
    rw [dropReturn]
    split
    case isTrue hc =>
      rw [envelope?, envelope?, Json.parse?, Json.parse?, List.reverse_cons,
        Json.parseWithin?_space (by simp [hc])]
    case isFalse => rfl

theorem filterMap_linesFrom (line cs ds : List Char) :
    (linesFrom line (cs ++ '\n' :: ds)).filterMap envelope? =
      (linesFrom line cs).filterMap envelope? ++ (linesFrom [] ds).filterMap envelope? := by
  induction cs generalizing line with
  | nil =>
    change (String.ofList (dropReturn line).reverse :: linesFrom [] ds).filterMap envelope? = _
    rw [List.filterMap_cons, envelope?_dropReturn]
    cases line with
    | nil => rfl
    | cons c cs =>
      rw [linesFrom, if_neg (List.cons_ne_nil c cs), List.filterMap_cons]
      cases envelope? (String.ofList (c :: cs).reverse) <;> rfl
  | cons c cs ih =>
    rw [List.cons_append, linesFrom, linesFrom]
    split
    · rw [List.filterMap_cons, List.filterMap_cons, ih]
      cases envelope? (String.ofList (dropReturn line).reverse) <;> rfl
    · exact ih _

/-- **An input is divided at any newline**, also where the last line of a part has no end. -/
theorem envelopes_append_newline (s t : String) :
    envelopes (s ++ "\n" ++ t) = envelopes s ++ envelopes t := by
  simp only [envelopes_eq, lines, String.toList_append, List.append_assoc]
  exact filterMap_linesFrom [] s.toList t.toList

theorem envelopes_newline (s : String) : envelopes (s ++ "\n") = envelopes s := by
  rw [← String.append_empty (s := s ++ "\n"), envelopes_append_newline]
  exact List.append_nil _

/-- The line of an envelope is read as that envelope. -/
theorem envelopes_render {e : Envelope} (hd : ∀ d ∈ e.toJson.doubles, d.IsReadBack)
    (hdepth : e.toJson.depth ≤ Json.maxOpen) : envelopes e.toJson.render = [e] := by
  have hline : IsLine e.toJson.render := Json.isLine_render e.toJson
  rw [← envelopes_newline, envelopes_eq, lines_newline hline.newline_not_mem, hline.chomp_eq,
    List.filterMap_cons_some (envelope?_render e hd hdepth), List.filterMap_nil]

/-! ### Lines that say nothing -/

/-- A line that is blank or no envelope. -/
def Idle (l : String) : Prop := '\n' ∉ l.toList ∧ (isBlankText l ∨ envelope? l = none)

theorem Idle.envelopes_eq {l : String} (h : Idle l) : envelopes l = [] := by
  have hnone : envelope? l = none := h.2.elim envelope?_blank id
  rw [Engine.envelopes_eq]
  rcases lines_of_not_mem h.1 with hl | hl
  · rw [hl]
    rfl
  · rw [hl, List.filterMap_cons, hnone]
    rfl

/-- A text behind which a line starts. -/
def EndsLine (s : String) : Prop := s = "" ∨ ∃ t, s = t ++ "\n"

theorem EndsLine.envelopes_append {s : String} (h : EndsLine s) (t : String) :
    envelopes (s ++ t) = envelopes s ++ envelopes t := by
  rcases h with rfl | ⟨s, rfl⟩
  · rw [String.empty_append]
    rfl
  · rw [envelopes_append_newline, envelopes_newline]

/-- A text, and the text with lines that are blank or no envelope put in at any places. -/
inductive Padded (s : String) : String → Prop
  | refl : Padded s s
  /-- A line stands before others, or at the end. -/
  | insert {a b l : String} : Padded s (a ++ b) → EndsLine a → Idle l →
    Padded s (a ++ l ++ "\n" ++ b)
  /-- A line without an end of its own stands at the end. -/
  | append {a l : String} : Padded s a → EndsLine a → Idle l → Padded s (a ++ l)
  /-- A line stands at the end, and ends the one before it. -/
  | appendLine {a l : String} : Padded s a → Idle l → Padded s (a ++ "\n" ++ l)

theorem Padded.envelopes_eq {s t : String} (h : Padded s t) : envelopes t = envelopes s := by
  induction h with
  | refl => rfl
  | insert _ ha hl ih =>
    rw [envelopes_append_newline, ha.envelopes_append, hl.envelopes_eq, List.append_nil,
      ← ha.envelopes_append, ih]
  | append _ ha hl ih => rw [ha.envelopes_append, hl.envelopes_eq, List.append_nil, ih]
  | appendLine _ hl ih => rw [envelopes_append_newline, hl.envelopes_eq, List.append_nil, ih]

/-! ### Runs -/

/-- The envelope of an endowment. -/
def endowing (e : Endowment) : Envelope := .ofBody (.stateUpdate e.toUpdate)

/-- The agent of a configuration before its cycle: its endowment is queued first, and the lines of
the input that can be read behind it. -/
def queued (c : Config) (l : Ledger) (input : String) : DecisionMaker where
  name := c.name
  wallet := c.wallet
  maxReactions := c.maxReactions
  queue := (c.endowment.map endowing).toList ++ (lines input).filterMap envelope?
  state := .new l

section Run

variable {read : String → Option Config} {drawn : Nat → Digest} {configText : Option String}
  {o : Config.Overrides} {c : Config}

theorem agent_eq_ok {l : Ledger}
    (hl : (Ledger.new c.ledger drawn).mintAll c.balances.entries = .ok l) :
    agent drawn c =
      .ok ⟨c.name, c.wallet, c.maxReactions, (c.endowment.map endowing).toList, .new l⟩ := by
  rw [agent, hl]
  cases he : c.endowment with
  | none => rfl
  | some e => rfl

theorem agent_eq_error {r : Ledger.Refusal}
    (hr : (Ledger.new c.ledger drawn).mintAll c.balances.entries = .error r) :
    agent drawn c = .error r := by
  rw [agent, hr]
  rfl

theorem run_text (hc : configure read configText o = .ok c) (input : String) :
    run read drawn configText o (some input.toUTF8) =
      (agent drawn c).mapError .ledger >>= fun d => .ok (answers d input) := by
  rw [run, hc]
  simp only [Option.bind_some, String.toUTF8_eq_toByteArray, fromUTF8?_toByteArray]
  rfl

theorem run_eq_ok (hc : configure read configText o = .ok c) {l : Ledger}
    (hl : (Ledger.new c.ledger drawn).mintAll c.balances.entries = .ok l) (input : String) :
    run read drawn configText o (some input.toUTF8) = .ok (queued c l input).execute.2.2 := by
  rw [run_text hc, agent_eq_ok hl]
  refine congrArg (fun d : DecisionMaker => Except.ok d.execute.2.2) ?_
  rw [DecisionMaker.foldl_send, envelopes_eq]
  rfl

/-- An input is run for its envelopes. -/
theorem run_eq_of_envelopes_eq {s t : String} (h : envelopes t = envelopes s) :
    run read drawn configText o (some t.toUTF8) = run read drawn configText o (some s.toUTF8) := by
  cases hc : configure read configText o with
  | error f =>
    rw [run, run, hc]
    rfl
  | ok c => simp only [run_text hc, answers, h]

end Run

/-! ### Answers -/

/-- The answer that a line is read as. -/
def answer? (line : String) : Option Transaction :=
  (Json.parse? line).bind (Transaction.ofJson? Json.isNull)

theorem isLine_line (t : Transaction) : IsLine (line t) := Json.isLine_render t.toJson

/-- **An answer is read as it was written**, under the conditions under which an envelope is. -/
theorem answer?_render {t : Transaction} (hd : ∀ d ∈ t.toJson.doubles, d.IsReadBack)
    (hdepth : t.toJson.depth ≤ Json.maxOpen) : answer? t.toJson.render = some t := by
  have hread : Json.parse? t.toJson.render = some t.toJson :=
    Json.parseWithin?_render t.areProperMembers_toMembers hd hdepth
  rw [answer?, hread]
  exact t.ofJson?_toJson Json.isNull

/-- **A run is one cycle over the lines that can be read**, however configurations are read and
whatever digests are drawn. If the balances of the configuration can be minted, the engine succeeds
on every text, and writes the answers of one cycle over the queue of the endowment and of the
envelopes of the lines: one on each line and in order, as its JSON, from which it is read back if
the doubles in it are and the reader allows its depth. Lines that are blank or no envelope are not
seen in what it writes nor in its status, wherever they stand and however few envelopes the cycle
may handle. If a balance cannot be minted, it fails and writes nothing. -/
theorem report_run (read : String → Option Config) (drawn : Nat → Digest)
    (configText : Option String) (o : Config.Overrides) :
    (∀ c l, configure read configText o = .ok c →
      (Ledger.new c.ledger drawn).mintAll c.balances.entries = .ok l → ∀ input : String,
        let ts := (queued c l input).execute.2.2
        report (run read drawn configText o (some input.toUTF8)) =
          ⟨0, unlines (ts.map (·.toJson.render))⟩ ∧
        lines (report (run read drawn configText o (some input.toUTF8))).output =
          ts.map (·.toJson.render) ∧
        ∀ t ∈ ts, (∀ d ∈ t.toJson.doubles, d.IsReadBack) → t.toJson.depth ≤ Json.maxOpen →
          answer? t.toJson.render = some t) ∧
    (∀ s t : String, Padded s t →
      report (run read drawn configText o (some t.toUTF8)) =
        report (run read drawn configText o (some s.toUTF8))) ∧
    ∀ c r, configure read configText o = .ok c →
      (Ledger.new c.ledger drawn).mintAll c.balances.entries = .error r → ∀ input,
        report (run read drawn configText o input) = ⟨1, ""⟩ := by
  refine ⟨?_, ?_, ?_⟩
  · intro c l hc hl input ts
    have hrun := run_eq_ok hc hl input
    have hlines : ∀ k ∈ ts.map line, IsLine k := by
      intro k hk
      obtain ⟨t, -, rfl⟩ := List.mem_map.1 hk
      exact isLine_line t
    rw [hrun]
    exact ⟨rfl, lines_unlines hlines, fun t _ => answer?_render⟩
  · intro s t h
    rw [run_eq_of_envelopes_eq h.envelopes_eq]
  · intro c r hc hr input
    rw [run, hc]
    change report (((agent drawn c).mapError .ledger).bind _) = _
    rw [agent_eq_error hr]
    rfl

/-- An endowment, one account, and three envelopes in a cycle. -/
def settings : String :=
  "agent: {max_reactions: 3}\nledger: {balances: {a: 5}}\nendowment: {tx_fee: 1}\n"

/-- A balance that cannot be minted. -/
def overdrawn : String := "ledger: {balances: {a: -5}}\n"

/-- A proposal off the ledger. -/
def offer (id : TransactionId) : Envelope :=
  .ofBody (.transaction ⟨.propose, id, "a", "b", true, "FET", 1, 0, 0, .empty, "off_chain", .empty,
    none⟩)

def offers : String :=
  (offer "1").toJson.render ++ "\n" ++
    ((offer "2").toJson.render ++ "\n" ++ (offer "3").toJson.render)

/-- The offers with an object that is no envelope behind the first, and a blank line at the end. -/
def paddedOffers : String :=
  (offer "1").toJson.render ++ "\n" ++ "{}" ++ "\n" ++
    ((offer "2").toJson.render ++ "\n" ++ (offer "3").toJson.render) ++ "\n" ++ "\t"

theorem padded_offers : Padded offers paddedOffers := by
  have hempty : Idle "{}" :=
    ⟨by decide, .inr (Option.isNone_iff_eq_none.1 (by decide +kernel))⟩
  have hblank : Idle "\t" := ⟨by decide, .inl (by decide)⟩
  exact .appendLine (.insert .refl (.inr ⟨(offer "1").toJson.render, rfl⟩) hempty) hblank

/-- The ledger of the settings. -/
def account : Ledger := ⟨"fetchai", .ofNumber, .ofList [("a", 5)], 5, []⟩

theorem queued_offers (c : Config) (l : Ledger) : queued c l offers = { queued c l "" with
    queue := (c.endowment.map endowing).toList ++ [offer "1", offer "2", offer "3"] } := by
  have henvelopes : envelopes offers = [offer "1", offer "2", offer "3"] := by
    rw [offers, envelopes_append_newline, envelopes_append_newline,
      envelopes_render (by decide) (by decide), envelopes_render (by decide) (by decide),
      envelopes_render (by decide) (by decide)]
    rfl
  rw [queued, ← envelopes_eq, henvelopes]
  rfl

/-- The third offer is not reached, and no answer has a double in it. -/
theorem answers_offers :
    ((configure Config.ofText? (some settings) ⟨none, none⟩).toOption.map fun c =>
      let ts := (queued c account offers).execute.2.2
      ((c.ledger, c.balances), (ts.map (·.id), ts.flatMap (·.toJson.doubles)),
        ts.all (·.toJson.depth ≤ Json.maxOpen))) =
      some (("fetchai", .ofList [("a", 5)]), (["1", "2"], []), true) := by
  simp only [queued_offers]
  decide +kernel

theorem report_run_offers :
    (∃ c, configure Config.ofText? (some settings) ⟨none, none⟩ = .ok c ∧
      (Ledger.new c.ledger .ofNumber).mintAll c.balances.entries = .ok account ∧
      let ts := (queued c account offers).execute.2.2
      ts.map (·.id) = ["1", "2"] ∧
      lines (report (run Config.ofText? .ofNumber (some settings) ⟨none, none⟩
        (some offers.toUTF8))).output = ts.map (·.toJson.render) ∧
      ∀ t ∈ ts, answer? t.toJson.render = some t) ∧
    Padded offers paddedOffers ∧
    report (run Config.ofText? .ofNumber (some settings) ⟨none, none⟩
        (some paddedOffers.toUTF8)) =
      report (run Config.ofText? .ofNumber (some settings) ⟨none, none⟩ (some offers.toUTF8)) ∧
    ∃ c r, configure Config.ofText? (some overdrawn) ⟨none, none⟩ = .ok c ∧
      (Ledger.new c.ledger .ofNumber).mintAll c.balances.entries = .error r ∧
      report (run Config.ofText? .ofNumber (some overdrawn) ⟨none, none⟩ none) = ⟨1, ""⟩ := by
  have hoverdrawn : ((configure Config.ofText? (some overdrawn) ⟨none, none⟩).toOption.map
      fun c => (c.ledger, c.balances)) = some ("fetchai", .ofList [("a", -5)]) := by
    decide +kernel
  obtain ⟨hsuccess, hsame, -⟩ := report_run Config.ofText? .ofNumber (some settings) ⟨none, none⟩
  obtain ⟨-, -, hfailure⟩ := report_run Config.ofText? .ofNumber (some overdrawn) ⟨none, none⟩
  obtain ⟨c, hc, hparts⟩ := Option.map_eq_some_iff.1 answers_offers
  obtain ⟨d, hd, hbooks⟩ := Option.map_eq_some_iff.1 hoverdrawn
  have hc := toOption_eq_some_iff.1 hc
  have hd := toOption_eq_some_iff.1 hd
  simp only [Prod.mk.injEq] at hparts hbooks
  obtain ⟨⟨hledger, hbalances⟩, ⟨hids, hdoubles⟩, hdepth⟩ := hparts
  have hl : (Ledger.new c.ledger .ofNumber).mintAll c.balances.entries = .ok account := by
    rw [hledger, hbalances]
    rfl
  have hr : (Ledger.new d.ledger .ofNumber).mintAll d.balances.entries =
      .error (.negativeAmount (-5)) := by
    rw [hbooks.1, hbooks.2]
    rfl
  obtain ⟨-, hlines, hread⟩ := hsuccess c _ hc hl offers
  refine ⟨⟨c, hc, hl, hids, hlines, fun t ht => hread t ht ?_ ?_⟩, padded_offers,
    hsame _ _ padded_offers, d, _, hd, hr, hfailure d _ hd hr none⟩
  · rw [List.flatMap_eq_nil_iff.1 hdoubles t ht]
    exact List.forall_mem_nil _
  · exact of_decide_eq_true (List.all_eq_true.1 hdepth t ht)

end Bazaar.Engine
