import Bazaar.Json.Reader
import Bazaar.Json.Writer
import Bazaar.Proofs.Json.Words
import Bazaar.Text.Blank

/-!
JSON texts on lines. Main statements: a JSON text as it is written stands on one line
(`isLine_render`), a blank text is none (`parseWithin?_blank`), and white space behind a text makes
no difference (`parseWithin?_space`).
-/

namespace Bazaar

open Text

/-! ### Texts of values -/

namespace Json

theorem le_toNat_digitChar : ∀ n < 16, 32 ≤ (Nat.digitChar n).toNat := by decide

theorem isLine_escape (c : Char) : IsLine (String.ofList (escape c)) := by
  unfold escape
  -- the characters that have an escape of their own
  iterate 7
    split
    · decide
  split
  · rw [String.ofList_append]
    refine IsLine.append (by decide) (isLine_ofList.2 fun d hd => ?_)
    simp only [hexByte, List.mem_cons, List.not_mem_nil, or_false] at hd
    rcases hd with rfl | rfl <;> exact le_toNat_digitChar _ (Nat.mod_lt _ (by decide))
  · rename_i hc
    refine isLine_ofList.2 fun d hd => ?_
    rw [List.mem_singleton.1 hd]
    exact Nat.le_of_not_lt hc

theorem isLine_quote (s : String) : IsLine (quote s) := by
  refine isLine_ofList.2 fun c hc => ?_
  simp only [List.cons_append, List.mem_cons, List.mem_append, List.not_mem_nil, or_false,
    List.mem_flatMap] at hc
  rcases hc with rfl | ⟨d, -, hd⟩ | rfl
  · decide
  · exact isLine_ofList.1 (isLine_escape d) c hd
  · decide

theorem isLine_between {before after : String} {ts : List String} (hb : IsLine before)
    (ha : IsLine after) (h : ∀ t ∈ ts, IsLine t) :
    IsLine (before ++ ",".intercalate ts ++ after) :=
  (hb.append (.intercalate (by decide) h)).append ha

mutual

/-- **A JSON text stands on one line.** -/
theorem isLine_render : ∀ v : Json, IsLine v.render
  | .null | .invalid | .bool true | .bool false => by decide
  | .int n => (isWord_intRepr n).isLine
  | .double d => (Double.Layout.isWord_render (by decide) d).isLine
  | .text s => isLine_quote s
  | .array items => isLine_between (by decide) (by decide) (isLine_of_mem_renderItems items)
  | .object members => isLine_between (by decide) (by decide) (isLine_of_mem_renderMembers members)

theorem isLine_of_mem_renderItems : ∀ (vs : List Json), ∀ t ∈ renderItems vs, IsLine t
  | [], _, h => absurd h List.not_mem_nil
  | v :: vs, t, h => by
    rw [renderItems, List.mem_cons] at h
    rcases h with rfl | h
    · exact isLine_render v
    · exact isLine_of_mem_renderItems vs t h

theorem isLine_of_mem_renderMembers :
    ∀ (ms : List (String × Json)), ∀ t ∈ renderMembers ms, IsLine t
  | [], _, h => absurd h List.not_mem_nil
  | (k, v) :: ms, t, h => by
    rw [renderMembers, List.mem_cons] at h
    rcases h with rfl | h
    · exact ((isLine_quote k).append (by decide)).append (isLine_render v)
    · exact isLine_of_mem_renderMembers ms t h

end

/-! ### White space around a text -/

/-- A blank character starts nothing. -/
theorem Token.start?_of_isBlank {c : Char} (h : isBlank c) :
    Token.start? c = some (.between, []) ∨ Token.start? c = none := by
  have hblank : c.toNat ≤ 32 ∨ 133 ≤ c.toNat := by
    simp only [isBlank, Bool.or_eq_true, Bool.and_eq_true, decide_eq_true_eq, beq_iff_eq] at h
    omega
  have hne : ∀ d : Char, 33 ≤ d.toNat → d.toNat ≤ 132 → c ≠ d := by
    rintro d hlow hhigh rfl
    omega
  have hword : Token.isWord c = false := by
    refine Bool.eq_false_iff.2 fun hc => ?_
    have := Token.toNat_of_isWord hc
    omega
  unfold Token.start?
  split
  · exact .inl rfl
  -- brackets, commas, colons, quotes and words are seen
  · iterate 7 rw [if_neg (hne _ (by decide) (by decide))]
    rw [hword]
    exact .inr rfl

/-- Between two tokens a blank character changes nothing, if it may stand there. -/
theorem Reader.foldlM_feed?_blank {cs : List Char} (h : ∀ c ∈ cs, isBlank c) (limit : Nat)
    (s : State) :
    cs.foldlM (feed? limit) (.between, s) = some (.between, s) ∨
      cs.foldlM (feed? limit) (.between, s) = none := by
  induction cs with
  | nil => exact .inl rfl
  | cons c cs ih =>
    rw [List.foldlM_cons, feed?, Token.step?]
    rcases Token.start?_of_isBlank (h c List.mem_cons_self) with hc | hc
    · rw [hc]
      exact ih fun d hd => h d (List.mem_cons_of_mem _ hd)
    · rw [hc]
      exact .inr rfl

/-- **A blank text has no value.** -/
theorem parseWithin?_blank {s : String} (h : isBlankText s) (limit : Nat) :
    parseWithin? limit s = none := by
  rw [parseWithin?]
  rcases Reader.foldlM_feed?_blank (List.all_eq_true.1 h) limit (.value []) with hs | hs
  · rw [hs]
    rfl
  · rw [hs]
    rfl

section Space

variable {c : Char} (hc : c = ' ' ∨ c = '\n' ∨ c = '\t' ∨ c = '\r')
include hc

/-- White space completes what could end the text as well; else the text cannot end behind it. -/
theorem Token.step?_space (m : Mode) :
    (∃ ts, finish? m = some ts ∧ step? m c = some (.between, ts)) ∨
      finish? m = none ∧ ∀ r, step? m c = some r → finish? r.1 = none := by
  have hstart : start? c = some (.between, []) := if_pos hc
  have hword : isWord c = false := by rcases hc with rfl | rfl | rfl | rfl <;> decide
  have hquote : c ≠ '"' := by rcases hc with rfl | rfl | rfl | rfl <;> decide
  cases m with
  | between => exact .inl ⟨[], rfl, hstart⟩
  | word chars =>
    cases hv : word? chars.reverse with
    | none => exact .inr ⟨by simp [finish?, hv], by simp [step?, hword, hv]⟩
    | some v => exact .inl ⟨[.value v], by simp [finish?, hv], by simp [step?, hword, hv, hstart]⟩
  | string pieces =>
    refine .inr ⟨rfl, fun r hr => ?_⟩
    simp only [step?, if_neg hquote] at hr
    split at hr
    · cases hr
      rfl
    · split at hr
      · cases hr
      · cases hr
        rfl
  | escape pieces =>
    refine .inr ⟨rfl, fun r hr => ?_⟩
    simp only [step?] at hr
    split at hr
    · cases hr
      rfl
    · obtain ⟨d, -, hd⟩ := Option.bind_eq_some_iff.1 hr
      cases hd
      rfl
  | code pieces n missing =>
    refine .inr ⟨rfl, fun r hr => ?_⟩
    obtain ⟨k, -, hk⟩ := Option.bind_eq_some_iff.1 hr
    simp only at hk
    split at hk <;> cases hk <;> rfl

theorem Reader.finish?_feed?_space (limit : Nat) (st : Token.Mode × State) :
    (feed? limit st c).bind (finish? limit) = finish? limit st := by
  rcases Token.step?_space hc st.1 with ⟨ts, hfinish, hstep⟩ | ⟨hfinish, hstep⟩
  · simp only [feed?, hstep, finish?, hfinish, Option.bind_eq_bind, Option.bind_some]
    cases ts.foldlM (step? limit) st.2 <;> rfl
  · rw [finish?, hfinish]
    cases hs : feed? limit st c with
    | none => rfl
    | some r =>
      obtain ⟨p, hp, hr⟩ := Option.bind_eq_some_iff.1 hs
      obtain ⟨s, -, hs⟩ := Option.bind_eq_some_iff.1 hr
      cases hs
      rw [Option.bind_some, finish?, hstep p hp]
      rfl

/-- **White space behind a text makes no difference.** -/
theorem parseWithin?_space (limit : Nat) (cs : List Char) :
    parseWithin? limit (String.ofList (cs ++ [c])) = parseWithin? limit (String.ofList cs) := by
  simp only [parseWithin?, String.toList_ofList, List.foldlM_append, List.foldlM_cons,
    List.foldlM_nil, bind_pure]
  cases cs.foldlM (Reader.feed? limit) (.between, .value []) with
  | none => rfl
  | some st => exact Reader.finish?_feed?_space hc limit st

end Space

end Json

end Bazaar
