import Bazaar.Search.Condition

/-!
What it is for values to conform to a schema, said attribute by attribute and value by value, and
for the tests of a condition to be meant for it. Main statements: a schema finds values
inconsistent just if they do not conform (`Schema.inconsistency?_eq_none_iff`), and a condition is
valid for a schema just if each of its tests names an attribute there (`Condition.isValid_iff`).
-/

namespace Bazaar.Search

/-! ### Values -/

namespace Schema

variable {s : Schema} {values : SortedMap Value}

/-- **Values conform to a schema**: what it requires is there, and whatever is there is declared
with its type. -/
structure Conforms (s : Schema) (values : SortedMap Value) : Prop where
  required : ∀ a ∈ s.attributes, a.isRequired = true → (values.get? a.name).isSome
  declared : ∀ k v, values.get? k = some v → ∃ a ∈ s.attributes, a.name = k ∧ a.type = v.type

theorem entryInconsistency?_eq_none_iff {e : String × Value} :
    s.entryInconsistency? e = none ↔ ∃ a ∈ s.attributes, a.name = e.1 ∧ a.type = e.2.type := by
  unfold entryInconsistency?
  constructor
  · intro h
    split at h
    · cases h
    · rename_i a ha
      obtain ⟨hmem, hname⟩ := attribute?_eq_some_iff.1 ha
      split at h
      · rename_i htype
        exact ⟨a, hmem, hname, htype⟩
      · cases h
  · rintro ⟨a, hmem, hname, htype⟩
    rw [attribute?_eq_some_iff.2 ⟨hmem, hname⟩]
    exact if_pos htype

/-- **A schema finds nothing wrong** with values exactly when they conform to it. -/
theorem inconsistency?_eq_none_iff : s.inconsistency? values = none ↔ s.Conforms values := by
  have hdeclared : values.entries.findSome? s.entryInconsistency? = none ↔
      ∀ k v, values.get? k = some v → ∃ a ∈ s.attributes, a.name = k ∧ a.type = v.type := by
    rw [List.findSome?_eq_none_iff]
    constructor
    · intro h k v hv
      exact entryInconsistency?_eq_none_iff.1 (h (k, v) (SortedMap.mem_entries_iff.2 hv))
    · rintro h ⟨k, v⟩ he
      exact entryInconsistency?_eq_none_iff.2 (h k v (SortedMap.mem_entries_iff.1 he))
  unfold inconsistency?
  constructor
  · intro h
    split at h
    · cases h
    · rename_i hfind
      refine ⟨fun a ha hr => ?_, hdeclared.1 h⟩
      have hnot := List.find?_eq_none.1 hfind a ha
      simpa [hr, Option.isSome_iff_ne_none] using hnot
  · intro h
    have hfind : s.attributes.find? (fun a => a.isRequired && (values.get? a.name).isNone) =
        none := by
      rw [List.find?_eq_none]
      intro a ha
      cases hr : a.isRequired with
      | false => simp
      | true => simp [Option.isSome_iff_ne_none.1 (h.required a ha hr)]
    rw [hfind]
    exact hdeclared.2 h.declared

/-- Other values of the same types under the same keys conform as well. -/
theorem Conforms.map (h : s.Conforms values) {f : Value → Value} (hf : ∀ v, (f v).type = v.type) :
    s.Conforms (values.map f) where
  required := by
    intro a ha hr
    rw [SortedMap.get?_map, Option.isSome_map]
    exact h.required a ha hr
  declared := by
    intro k v hv
    rw [SortedMap.get?_map] at hv
    obtain ⟨w, hw, rfl⟩ := Option.map_eq_some_iff.1 hv
    rw [hf w]
    exact h.declared k w hw

end Schema

/-! ### Tests -/

/-- A test names an attribute of a schema, and tests values of its type. -/
def Constraint.Names (l : Constraint) (s : Schema) : Prop :=
  ∃ a ∈ s.attributes, a.name = l.key ∧ l.criterion.type? = some a.type

theorem Constraint.isValid_iff {l : Constraint} {s : Schema} : l.isValid s ↔ l.Names s := by
  rw [isValid, Option.any_eq_true]
  constructor
  · rintro ⟨a, ha, hsuits⟩
    obtain ⟨hmem, hname⟩ := Schema.attribute?_eq_some_iff.1 ha
    exact ⟨a, hmem, hname, by simpa [Criterion.suits] using hsuits⟩
  · rintro ⟨a, hmem, hname, htype⟩
    exact ⟨a, Schema.attribute?_eq_some_iff.2 ⟨hmem, hname⟩, by simp [Criterion.suits, htype]⟩

namespace Condition

mutual

/-- The tests of a condition, from the left. -/
def leaves : Condition → List Constraint
  | .join _ cs => leavesOfAll cs
  | .not c => c.leaves
  | .leaf l => [l]

def leavesOfAll : List Condition → List Constraint
  | [] => []
  | c :: cs => c.leaves ++ leavesOfAll cs

end

theorem mem_leavesOfAll {l : Constraint} {cs : List Condition} :
    l ∈ leavesOfAll cs ↔ ∃ c ∈ cs, l ∈ c.leaves := by
  induction cs with
  | nil => simp [leavesOfAll]
  | cons c cs ih => simp [leavesOfAll, ih]

mutual

theorem isValid_iff (s : Schema) : (c : Condition) → (c.isValid s ↔ ∀ l ∈ c.leaves, l.Names s)
  | .join _ cs => by rw [isValid, leaves, areValid_iff s cs]
  | .not c => by rw [isValid, leaves, isValid_iff s c]
  | .leaf l => by rw [isValid, leaves, List.forall_mem_singleton, l.isValid_iff]

theorem areValid_iff (s : Schema) :
    (cs : List Condition) → (areValid s cs ↔ ∀ l ∈ leavesOfAll cs, l.Names s)
  | [] => by simp [areValid, leavesOfAll]
  | c :: cs => by
    rw [areValid, leavesOfAll, Bool.and_eq_true, isValid_iff s c, areValid_iff s cs,
      List.forall_mem_append]

end

end Condition

end Bazaar.Search
