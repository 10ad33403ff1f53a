import Bazaar.Proofs.Search.Distance
import Bazaar.Proofs.Search.Registration
import Bazaar.Proofs.Search.Semantics

/-!
Equal descriptions in each other's place. Equality and the order of values are two notions, but what
is equal is in the same order with everything (`Value.compare?_congr`), so no test tells equal
values apart (`Kind.verdict?_congr`) and no query tells equal descriptions apart
(`Query.holds_congr`), if only the functions of angles do not tell the two zeros apart. Main
statement: a search then finds what was registered, even if the registration was refused
(`Directory.search_register`).
-/

namespace Bazaar

theorem Double.compare?_congr {a b : Double} (h : a.equal b = true) (c : Double) :
    a.compare? c = b.compare? c := by
  obtain ⟨ha, hb, hrank⟩ := equal_iff.1 h
  rw [compare?, compare?, ha, hb, hrank]

namespace Search

/-! ### Equal values -/

namespace Value

variable {v w : Value}

theorem type_eq_of_equal (h : v.equal w = true) : v.type = w.type := by
  cases v <;> cases w <;> first | rfl | cases h

/-- **What is equal is in the same order with everything.** -/
theorem compare?_congr (h : v.equal w = true) (u : Value) : v.compare? u = w.compare? u := by
  cases v <;> cases w <;> try cases h
  case bool.bool | int.int | text.text =>
    rw [eq_of_beq h]
  case double.double a b =>
    cases u <;> try rfl
    exact Double.compare?_congr h _
  case place.place p q =>
    obtain ⟨hlat, hlong⟩ := Bool.and_eq_true_iff.1 h
    cases u <;> try rfl
    simp only [compare?, Double.compare?_congr hlat, Double.compare?_congr hlong]

end Value

/-! ### Equal descriptions -/

variable {d e : Description}

namespace Description

/-- Equal lists of entries have equal values under every key. -/
theorem rel_find_of_equalEntries {es fs : List (String × Value)} (h : equalEntries es fs = true)
    (k : String) :
    Option.Rel (fun v w => v.equal w = true) (SortedMap.find k es) (SortedMap.find k fs) := by
  induction es generalizing fs with
  | nil =>
    cases fs with
    | nil => exact .none
    | cons f fs => cases h
  | cons e es ih =>
    cases fs with
    | nil => cases h
    | cons f fs =>
      rw [equalEntries, Bool.and_eq_true, Bool.and_eq_true] at h
      obtain ⟨⟨hkey, hvalue⟩, hrest⟩ := h
      rw [SortedMap.find, SortedMap.find, ← eq_of_beq hkey]
      split
      · exact .some hvalue
      · exact ih hrest

theorem rel_value?_of_equal (h : d.equal e = true) (k : String) :
    Option.Rel (fun v w => v.equal w = true) (d.value? k) (e.value? k) :=
  rel_find_of_equalEntries (Bool.and_eq_true_iff.1 h).1 k

end Description

/-! ### Tests and queries -/

open Trigonometry (IgnoresZeroSign)

section

variable [Trigonometry] {v w : Value}

/-- **No kind of test tells equal values apart.** -/
theorem Kind.verdict?_congr (hzero : IgnoresZeroSign) (h : v.equal w = true) (k : Kind)
    (o : Operand) : k.verdict? o v = k.verdict? o w := by
  have hcompare : v.compare? = w.compare? := funext (Value.compare?_congr h)
  have hagrees : v.agrees = w.agrees := by
    funext u
    rw [Value.agrees, Value.agrees, hcompare]
  cases k <;> cases o <;> try rfl
  case distance.circle center km =>
    cases v <;> cases w <;> try cases h
    case place.place p q =>
      simp only [verdict?, Place.distance_congr hzero (.inl rfl) (.inr h)]
    all_goals rfl
  all_goals
    simp only [verdict?, Value.atMost, Value.atLeast, Value.below, Value.above, hagrees, hcompare]

theorem Criterion.admits_congr (hzero : IgnoresZeroSign) (h : v.equal w = true) (c : Criterion) :
    c.admits v = c.admits w := by
  have hholds : c.holds v = c.holds w := by
    refine Option.some.inj ?_
    rw [← c.verdict?_eq_some_holds, ← c.verdict?_eq_some_holds, Kind.verdict?_congr hzero h]
  rw [admits, admits, Value.type_eq_of_equal h, hholds]

theorem Constraint.holds_congr (hzero : IgnoresZeroSign) (h : d.equal e = true) (l : Constraint) :
    l.holds d = l.holds e := by
  have hrel := Description.rel_value?_of_equal h l.key
  rw [holds_eq_any, holds_eq_any]
  generalize d.value? l.key = found, e.value? l.key = found' at hrel ⊢
  cases hrel with
  | none => rfl
  | some hvalue => exact Criterion.admits_congr hzero hvalue l.criterion

namespace Condition

mutual

/-- **No condition tells equal descriptions apart.** -/
theorem holds_congr (hzero : IgnoresZeroSign) (h : d.equal e = true) :
    (c : Condition) → c.holds d = c.holds e
  | .join j cs => by
    rw [holds_join, holds_join]
    exact j.among_congr (holds_congr_of_mem hzero h cs)
  | .not c => by rw [holds_not, holds_not, holds_congr hzero h c]
  | .leaf l => by rw [holds_leaf, holds_leaf, l.holds_congr hzero h]

theorem holds_congr_of_mem (hzero : IgnoresZeroSign) (h : d.equal e = true) :
    (cs : List Condition) → ∀ c ∈ cs, c.holds d = c.holds e
  | [] => nofun
  | c :: cs => List.forall_mem_cons.2 ⟨holds_congr hzero h c, holds_congr_of_mem hzero h cs⟩

end

end Condition

theorem Query.holds_congr (hzero : IgnoresZeroSign) (h : d.equal e = true) (q : Query) :
    q.holds d = q.holds e := by
  rw [holds, holds, Condition.allHold_eq_all, Condition.allHold_eq_all]
  exact Junction.all.among_congr (Condition.holds_congr_of_mem hzero h q.conditions)

/-! ### Searches -/

namespace Directory

variable {r : Directory} {a b : Address} {q : Query}

/-- Whether a description is added or refused, there is one that meets the same queries. -/
theorem exists_mem_revise_register (hzero : IgnoresZeroSign) (ds : List Description) :
    (∃ e ∈ Call.revise ds (.register a d), q.holds e = true) ↔
      (∃ e ∈ ds, q.holds e = true) ∨ q.holds d = true := by
  rw [Call.revise]
  split
  · rename_i hany
    obtain ⟨e, he, heq⟩ := List.any_eq_true.1 hany
    refine ⟨.inl, fun h => h.elim id fun hd => ⟨e, he, ?_⟩⟩
    rw [Query.holds_congr hzero heq, hd]
  · simp only [List.mem_append, List.mem_singleton, or_and_right, exists_or, exists_eq_left]

theorem mem_search_register_iff (hzero : IgnoresZeroSign) :
    b ∈ (r.register a d).1.search q ↔ b ∈ r.search q ∨ b = a ∧ q.holds d = true := by
  rw [mem_search_iff, mem_search_iff]
  by_cases hb : b = a
  · subst hb
    have hds : (r.register b d).1.descriptions b = Call.revise (r.descriptions b) (.register b d) :=
      descriptions_serve_self r (.register b d)
    rw [hds, exists_mem_revise_register hzero]
    simp only [true_and]
  · have hds : (r.register a d).1.descriptions b = r.descriptions b :=
      descriptions_serve_other r (c := .register a d) hb
    rw [hds]
    simp only [hb, false_and, or_false]

/-- **Refusing an equal description is invisible to searches**, where the functions of angles do not
tell the two zeros apart. Equal descriptions meet the same conditions, however deep, and the same
queries. So after a description is registered, whether or not it was refused, a search finds its
address just if it did before or the description meets the query, and any other address just if it
did before. -/
theorem search_register (hzero : IgnoresZeroSign) :
    (∀ d e : Description, d.equal e = true →
      (∀ c : Condition, c.holds d = c.holds e) ∧ ∀ q : Query, q.holds d = q.holds e) ∧
    ∀ (r : Directory) (a b : Address) (d : Description) (q : Query),
      b ∈ (r.register a d).1.search q ↔ b ∈ r.search q ∨ b = a ∧ q.holds d = true :=
  ⟨fun _ _ h => ⟨Condition.holds_congr hzero h, Query.holds_congr hzero h⟩,
    fun _ _ _ _ _ => mem_search_register_iff hzero⟩

end Directory

end

/-- The functions of angles to the first order, which are exact at zero. -/
@[reducible] def firstOrder : Trigonometry := ⟨id, fun _ => 1, id⟩

namespace Directory

/-- A buoy on the equator, with a given zero for its latitude. -/
def buoy (zero : Double) : Description :=
  .ofValues "buoy" (.ofList [("at", .place ⟨zero, ⟨0x4049800000000000⟩⟩), ("drift", .double zero)])

/-- The zero with the sign bit. -/
def negativeZero : Double := ⟨0x8000000000000000⟩

attribute [local instance] firstOrder in
/-- A buoy with the other zero is refused, and is found all the same. -/
theorem search_register_buoys :
    IgnoresZeroSign ∧ (buoy negativeZero).values ≠ (buoy .zero).values ∧
    (buoy negativeZero).equal (buoy .zero) = true ∧
    (∀ q : Query, q.holds (buoy negativeZero) = q.holds (buoy .zero)) ∧
    let r := (empty.register "amy" (buoy negativeZero)).1
    (r.register "amy" (buoy .zero)).2 = false ∧
      ∀ q : Query, q.holds (buoy .zero) = true →
        "amy" ∈ (r.register "amy" (buoy .zero)).1.search q := by
  have hzero : IgnoresZeroSign := ⟨fun _ hx => hx, fun _ _ _ _ => rfl⟩
  have hequal : (buoy negativeZero).equal (buoy .zero) = true := by decide
  refine ⟨hzero, by decide, hequal, ((search_register hzero).1 _ _ hequal).2, by decide,
    fun q hq => ?_⟩
  exact ((search_register hzero).2 _ _ _ _ q).2 (.inr ⟨rfl, hq⟩)

end Directory

end Search

end Bazaar
