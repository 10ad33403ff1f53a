import Bazaar.Proofs.Search.Distance
import Bazaar.Proofs.Search.Registration
import Bazaar.Proofs.Search.Semantics
import Bazaar.Proofs.Search.Typing

/-!
Wider tests, and what becomes of a query when its tests are widened. A negation turns the direction
around: below an odd number of them it is narrower tests that let more through. Main statement:
descriptions that met a condition meet it when it is loosened, and a search with a loosened query
loses no address (`Query.search_of_loosened`).
-/

namespace Bazaar.Search

/-! ### Wider tests -/

/-- Values that no test tells apart: the same, or in order and there at the same place. -/
def Value.Coincides (v w : Value) : Prop := v = w ∨ v.agrees w = true

/-- Whether circles around two places have the same center. Where the functions of angles do not
tell the two zeros apart, it may be given by either zero. -/
def Place.IsConcentric [Trigonometry] (p q : Place) : Prop :=
  p = q ∨ Trigonometry.IgnoresZeroSign ∧ p.equal q = true

/-- **For a kind of test one operand is wider than another**: a range contains the other, a choice
offers what the other offers or excludes nothing else, a circle around the same center is at least
as large, and a bound is moved outwards. -/
inductive Kind.Widens [Trigonometry] : Kind → Operand → Operand → Prop
  | within {low high low' high' : Value} (hlow : low.atMost low' = true)
      (hhigh : high.atLeast high' = true) : Widens .within (.range low high) (.range low' high')
  | member {ws vs : List Value} (h : ∀ v ∈ vs, ∃ w ∈ ws, v.Coincides w) :
      Widens .member (.set ws) (.set vs)
  | notMember {ws vs : List Value} (h : ∀ w ∈ ws, ∃ v ∈ vs, w.Coincides v) :
      Widens .notMember (.set ws) (.set vs)
  | distance {p q : Place} {km lm : Double} (hcenter : p.IsConcentric q)
      (hkm : (Value.double km).atLeast (.double lm) = true) :
      Widens .distance (.circle p km) (.circle q lm)
  | less {w v : Value} (h : w.atLeast v = true) : Widens .less (.scalar w) (.scalar v)
  | atMost {w v : Value} (h : w.atLeast v = true) : Widens .atMost (.scalar w) (.scalar v)
  | greater {w v : Value} (h : w.atMost v = true) : Widens .greater (.scalar w) (.scalar v)
  | atLeast {w v : Value} (h : w.atMost v = true) : Widens .atLeast (.scalar w) (.scalar v)

/-- **One test is wider than another**: on the same attribute, of the same kind, and against a wider
operand. -/
structure Constraint.Widens [Trigonometry] (m l : Constraint) : Prop where
  key : m.key = l.key
  kind : m.criterion.kind = l.criterion.kind
  operand : l.criterion.kind.Widens m.criterion.operand l.criterion.operand

namespace Value

variable {u v w : Value}

theorem Coincides.type_eq (h : v.Coincides w) : v.type = w.type := by
  rcases h with rfl | h
  · rfl
  · exact type_eq_of_compare? (agrees_iff.1 h)

theorem Coincides.agrees (h : v.Coincides w) (hu : u.agrees v = true) : u.agrees w = true := by
  rcases h with rfl | h
  · exact hu
  · exact agrees_trans hu h

end Value

/-- The same center is as far from any place. -/
theorem Place.IsConcentric.distance_eq [Trigonometry] {p q : Place} (h : p.IsConcentric q)
    (x : Place) : p.distance x = q.distance x := by
  rcases h with rfl | ⟨hzero, h⟩
  · rfl
  · exact distance_congr hzero (.inr h) (.inl rfl)

/-- A set is of the type of whichever of its members. -/
theorem Operand.type?_set {vs : List Value} (hu : areUniform vs = true) {v : Value} (hv : v ∈ vs) :
    (Operand.set vs).type? = some v.type := by
  cases vs with
  | nil => cases hv
  | cons w ws => exact congrArg some (type_eq_of_areUniform hu rfl v hv).symm

namespace Kind.Widens

variable [Trigonometry] {k : Kind} {o p : Operand} {v : Value}

/-- What passes a test passes a wider one. -/
theorem verdict? (h : k.Widens o p) (hv : k.verdict? p v = some true) :
    k.verdict? o v = some true := by
  cases h with
  | @within low high low' high' hlow hhigh =>
    obtain ⟨hlow', hhigh'⟩ := Bool.and_eq_true_iff.1 (Option.some.inj hv)
    rw [Value.atLeast_eq_atMost] at hlow' hhigh
    refine congrArg some (Bool.and_eq_true_iff.2 ⟨?_, Value.atMost_trans hhigh' hhigh⟩)
    rw [Value.atLeast_eq_atMost]
    exact Value.atMost_trans hlow hlow'
  | member h =>
    obtain ⟨w, hw, hagrees⟩ := List.any_eq_true.1 (Option.some.inj hv)
    obtain ⟨w', hw', hsame⟩ := h w hw
    exact congrArg some (List.any_eq_true.2 ⟨w', hw', hsame.agrees hagrees⟩)
  | notMember h =>
    have hnone := List.any_eq_false.1 (Bool.not_inj_iff.1 (Option.some.inj hv))
    refine congrArg some (Bool.not_inj_iff.2 (List.any_eq_false.2 fun w hw hagrees => ?_))
    obtain ⟨w', hw', hsame⟩ := h w hw
    exact hnone w' hw' (hsame.agrees hagrees)
  | distance hcenter hkm =>
    rw [Value.atLeast_eq_atMost] at hkm
    cases v with
    | place x =>
      have hnear := Option.some.inj hv
      rw [← hcenter.distance_eq] at hnear
      exact congrArg some (Value.atMost_trans hnear hkm)
    | _ => cases hv
  | less h =>
    rw [Value.atLeast_eq_atMost] at h
    exact congrArg some (Value.below_of_below_of_atMost (Option.some.inj hv) h)
  | atMost h =>
    rw [Value.atLeast_eq_atMost] at h
    exact congrArg some (Value.atMost_trans (Option.some.inj hv) h)
  | greater h =>
    have habove := Option.some.inj hv
    rw [Value.above_eq_below] at habove
    refine congrArg some ((Value.above_eq_below _ _).trans ?_)
    exact Value.below_of_atMost_of_below h habove
  | atLeast h =>
    have hatLeast := Option.some.inj hv
    rw [Value.atLeast_eq_atMost] at hatLeast
    exact congrArg some ((Value.atLeast_eq_atMost _ _).trans (Value.atMost_trans h hatLeast))

/-- A wider test of which something passes the narrower is of the same type, or of no type at all:
the one that excludes nothing. -/
theorem type? (h : k.Widens o p) (ho : ∀ vs, o = .set vs → areUniform vs = true)
    (hp : ∀ vs, p = .set vs → areUniform vs = true) (hv : k.verdict? p v = some true) :
    o.type? = none ∨ o.type? = p.type? := by
  cases h with
  | within hlow hhigh => exact .inr (congrArg some (Value.type_eq_of_atMost hlow))
  | member h =>
    obtain ⟨w, hw, -⟩ := List.any_eq_true.1 (Option.some.inj hv)
    obtain ⟨w', hw', hsame⟩ := h w hw
    rw [Operand.type?_set (ho _ rfl) hw', Operand.type?_set (hp _ rfl) hw, hsame.type_eq]
    exact .inr rfl
  | @notMember ws vs h =>
    cases ws with
    | nil => exact .inl rfl
    | cons w ws =>
      obtain ⟨w', hw', hsame⟩ := h w List.mem_cons_self
      rw [Operand.type?_set (hp _ rfl) hw', ← hsame.type_eq]
      exact .inr rfl
  | distance => exact .inr rfl
  | less h | atMost h =>
    rw [Value.atLeast_eq_atMost] at h
    exact .inr (congrArg some (Value.type_eq_of_atMost h).symm)
  | greater h | atLeast h => exact .inr (congrArg some (Value.type_eq_of_atMost h))

end Kind.Widens

namespace Constraint.Widens

variable [Trigonometry] {l m : Constraint}

theorem admits (h : m.Widens l) {v : Value} (hv : l.criterion.admits v = true) :
    m.criterion.admits v = true := by
  obtain ⟨htype, hholds⟩ := Criterion.admits_iff.1 hv
  have hverdict := (l.criterion.verdict?_eq_some_holds v).trans (congrArg some hholds)
  have hverdict' := h.operand.verdict? hverdict
  rw [← h.kind, m.criterion.verdict?_eq_some_holds] at hverdict'
  refine Criterion.admits_iff.2 ⟨fun t ht => ?_, Option.some.inj hverdict'⟩
  rcases h.operand.type? (fun _ => m.criterion.areUniform_of_set)
    (fun _ => l.criterion.areUniform_of_set) hverdict with hnone | heq
  · cases hnone.symm.trans ht
  · exact htype t (heq.symm.trans ht)

/-- **What meets a test meets a wider one.** -/
theorem holds (h : m.Widens l) {d : Description} (hl : l.holds d = true) : m.holds d = true := by
  rw [Constraint.holds_eq_any, Option.any_eq_true] at hl ⊢
  obtain ⟨v, hv, hadmits⟩ := hl
  exact ⟨v, h.key ▸ hv, h.admits hadmits⟩

end Constraint.Widens

/-! ### Loosened conditions -/

namespace Condition

variable [Trigonometry]

mutual

/-- **A condition is loosened**, or tightened if `b` is `false`: tests are replaced by wider ones
or, below an odd number of negations, by narrower ones. -/
inductive Loosened : Bool → Condition → Condition → Prop
  | join {b : Bool} {j : Junction} {cs ds : List Condition} (h : AllLoosened b cs ds) :
      Loosened b (.join j cs) (.join j ds)
  | not {b : Bool} {c e : Condition} (h : Loosened (!b) c e) : Loosened b (.not c) (.not e)
  | keep {b : Bool} (l : Constraint) : Loosened b (.leaf l) (.leaf l)
  | widen {l m : Constraint} (h : m.Widens l) : Loosened true (.leaf l) (.leaf m)
  | narrow {l m : Constraint} (h : l.Widens m) : Loosened false (.leaf l) (.leaf m)

inductive AllLoosened : Bool → List Condition → List Condition → Prop
  | nil {b : Bool} : AllLoosened b [] []
  | cons {b : Bool} {c e : Condition} {cs es : List Condition} (h : Loosened b c e)
      (hs : AllLoosened b cs es) : AllLoosened b (c :: cs) (e :: es)

end

mutual

/-- What meets a condition meets the loosened one, and what does not meet it does not meet the
tightened one. -/
theorem Loosened.holds_eq {b : Bool} {c e : Condition} (h : Loosened b c e) (d : Description)
    (hc : c.holds d = b) : e.holds d = b := by
  match h with
  | .join (j := j) hs =>
    rw [holds_join] at hc ⊢
    exact hs.among_eq d j hc
  | .not h =>
    rw [holds_not, Bool.not_eq_eq_eq_not] at hc ⊢
    exact h.holds_eq d hc
  | .keep l => exact hc
  | .widen h =>
    rw [holds_leaf] at hc ⊢
    exact h.holds hc
  | .narrow h =>
    rw [holds_leaf] at hc ⊢
    exact Bool.eq_false_iff.2 fun hm => Bool.eq_false_iff.1 hc (h.holds hm)

theorem AllLoosened.among_eq {b : Bool} {cs es : List Condition} (h : AllLoosened b cs es)
    (d : Description) (j : Junction) (hcs : j.among (·.holds d) cs = b) :
    j.among (·.holds d) es = b := by
  match h with
  | .nil => exact hcs
  | .cons h hs =>
    rw [Junction.among_cons] at hcs ⊢
    exact j.combine_eq (h.holds_eq d) (hs.among_eq d j) hcs

end

end Condition

/-! ### Searches -/

/-- What meets one query meets another, so a search with the other finds no less, in the same
order. -/
theorem Directory.search_sublist [Trigonometry] (r : Directory) {q q' : Query}
    (h : ∀ d, q.holds d = true → q'.holds d = true) : (r.search q).Sublist (r.search q') := by
  refine List.Sublist.map _ (List.monotone_filter_right _ fun e he => ?_)
  obtain ⟨d, hd, hholds⟩ := List.any_eq_true.1 he
  exact List.any_eq_true.2 ⟨d, hd, h d hholds⟩

namespace Query

section Loosened

variable [Trigonometry]

/-- **A query is loosened** to given conditions: its own are, and some of them may be left out. -/
def LoosenedTo (q : Query) (cs : List Condition) : Prop :=
  ∃ es, Condition.AllLoosened true q.conditions es ∧ cs.Sublist es

theorem LoosenedTo.holds {q q' : Query} (h : q.LoosenedTo q'.conditions) {d : Description}
    (hq : q.holds d = true) : q'.holds d = true := by
  obtain ⟨es, hes, hsub⟩ := h
  rw [Query.holds, Condition.allHold_eq_all] at hq ⊢
  have hall : es.all (·.holds d) = true := hes.among_eq d .all hq
  exact List.all_eq_true.2 fun c hc => List.all_eq_true.1 hall c (hsub.subset hc)

/-- **Widening loses no match.** A description that meets a condition meets it when it is loosened;
and whatever is registered, a search with the query that is made of loosened conditions finds every
address that was found before. -/
theorem search_of_loosened :
    (∀ {c e : Condition}, c.Loosened true e → ∀ d, c.holds d = true → e.holds d = true) ∧
    ∀ {q q' : Query} {cs : List Condition} {s? : Option Schema},
      q.LoosenedTo cs → make cs s? = .ok q' →
      ∀ r : Directory, (r.search q).Sublist (r.search q') := by
  refine ⟨fun h d => h.holds_eq d, fun hcs hmake r => r.search_sublist fun d => ?_⟩
  obtain ⟨rfl, -⟩ := make_eq_ok_iff.1 hmake
  exact hcs.holds

end Loosened

/-- Houses to let. -/
def houses : Schema :=
  ⟨"house", [⟨"pets", .bool, false, ""⟩, ⟨"price", .int, true, ""⟩, ⟨"rooms", .int, true, ""⟩], "",
    by decide⟩

/-- A house of three rooms. -/
def cottage : Description where
  values := .ofList [("pets", .bool true), ("price", .int 90), ("rooms", .int 3)]
  schema := houses
  conforms := by decide

/-- A price in a range, and not just any number of rooms. -/
def asked : Condition :=
  .join .all [.leaf ⟨"price", .within, .range (.int 80) (.int 100), by decide⟩,
    .not (.leaf ⟨"rooms", .member, .set [.int 1, .int 2], by decide⟩)]

/-- A price in a wider range, and fewer numbers of rooms that will not do. -/
def askedLess : Condition :=
  .join .all [.leaf ⟨"price", .within, .range (.int 50) (.int 100), by decide⟩,
    .not (.leaf ⟨"rooms", .member, .set [.int 1], by decide⟩)]

/-- Pets are allowed. -/
def askedBesides : Condition := .leaf ⟨"pets", .equal, .scalar (.bool true), by decide⟩

section Houses

attribute [local instance] Trigonometry.ofPlatform

theorem loosened_asked : asked.Loosened true askedLess := by
  refine .join (.cons (.widen ⟨rfl, rfl, .within (by decide) (by decide)⟩)
    (.cons (.not (.narrow ⟨rfl, rfl, .member ?_⟩)) .nil))
  exact List.forall_mem_singleton.2 ⟨.int 1, List.mem_cons_self, .inl rfl⟩

theorem search_of_loosened_houses :
    ∃ q q', make [asked, askedBesides] (some houses) = .ok q ∧
      make [askedLess] (some houses) = .ok q' ∧ q.LoosenedTo [askedLess] ∧
      asked.Loosened true askedLess ∧ asked.holds cottage = true ∧
      askedLess.holds cottage = true ∧
      let r := (Directory.empty.register "amy" cottage).1
      r.search q = ["amy"] ∧ (r.search q).Sublist (r.search q') := by
  have hq : make [asked, askedBesides] (some houses) =
      .ok ⟨[asked, askedBesides], some houses, by rintro s ⟨⟩; decide⟩ := rfl
  have hq' : make [askedLess] (some houses) =
      .ok ⟨[askedLess], some houses, by rintro s ⟨⟩; decide⟩ := rfl
  have hloosened : LoosenedTo ⟨[asked, askedBesides], some houses, by rintro s ⟨⟩; decide⟩
      [askedLess] :=
    ⟨_, .cons loosened_asked (.cons (.keep _) .nil), .cons_cons _ (List.nil_sublist _)⟩
  have hholds : asked.holds cottage = true := by decide
  exact ⟨_, _, hq, hq', hloosened, loosened_asked, hholds,
    search_of_loosened.1 loosened_asked cottage hholds, by decide,
    search_of_loosened.2 hloosened hq' _⟩

end Houses

end Query

end Bazaar.Search
