import Bazaar.Proofs.Search.Conformance
import Bazaar.Search.Description

/-!
Which descriptions there are. Values make a description of a schema just if they conform to it, and
else it is told how they first fail (`Schema.Fails`). Main statement: `Description.ofValues?_conforms`,
for a schema that is given and for one that is made from the values.
-/

namespace Bazaar

/-- The first of a list in ascending order that a function tells something of is the least such. -/
theorem findSome?_eq_some_iff_of_ascending {α β : Type} {key : α → String} {f : α → Option β}
    {as : List α} (h : as.Pairwise fun a b => key a < key b) {b : β} :
    as.findSome? f = some b ↔
      ∃ a ∈ as, f a = some b ∧ ∀ c ∈ as, (f c).isSome = true → key a ≤ key c := by
  rw [List.findSome?_eq_some_iff]
  constructor
  · rintro ⟨earlier, a, later, rfl, ha, hearlier⟩
    obtain ⟨-, hrest, -⟩ := List.pairwise_append.1 h
    refine ⟨a, List.mem_append_right _ List.mem_cons_self, ha, fun c hc hsome => ?_⟩
    rcases List.mem_append.1 hc with hc | hc
    · rw [hearlier c hc] at hsome
      cases hsome
    · rcases List.mem_cons.1 hc with rfl | hc
      · exact String.le_refl _
      · exact Std.le_of_lt ((List.pairwise_cons.1 hrest).1 c hc)
  · rintro ⟨a, ha, hfa, hleast⟩
    obtain ⟨earlier, later, rfl⟩ := List.append_of_mem ha
    obtain ⟨-, -, hbefore⟩ := List.pairwise_append.1 h
    refine ⟨earlier, a, later, rfl, hfa, fun c hc => ?_⟩
    have hlt : key c < key a := hbefore c hc a List.mem_cons_self
    cases hfc : f c with
    | none => rfl
    | some b' =>
      have hle := hleast c (List.mem_append_left _ hc) (by rw [hfc]; rfl)
      exact absurd hlt (String.not_lt.2 hle)

namespace Search

/-! ### How values first fail to conform -/

namespace Schema

variable {s : Schema} {values : SortedMap Value} {how : Inconsistency}

/-- An attribute is required, and there is no value of it. -/
def Lacks (s : Schema) (values : SortedMap Value) (a : Attribute) : Prop :=
  a ∈ s.attributes ∧ a.isRequired = true ∧ values.get? a.name = none

/-- **An entry fails to conform**: its key is no attribute, or its value has another type. -/
inductive Offends (s : Schema) (k : String) (v : Value) : Inconsistency → Prop
  | foreign (h : ∀ a ∈ s.attributes, a.name ≠ k) : Offends s k v (.foreign k s.name)
  | wrongType {a : Attribute} (ha : a ∈ s.attributes) (hname : a.name = k) (htype : a.type ≠ v.type) :
    Offends s k v (.wrongType k v.type a.type)

/-- **How values first fail to conform**: by the least required attribute that is missing or, if
none is, by the least key of which the entry fails. -/
inductive Fails (s : Schema) (values : SortedMap Value) : Inconsistency → Prop
  | missing {a : Attribute} (ha : s.Lacks values a)
      (hfirst : ∀ b, s.Lacks values b → a.name ≤ b.name) : Fails s values (.missing a.name)
  | offending {k : String} {v : Value} {how : Inconsistency} (hall : ∀ a, ¬ s.Lacks values a)
      (hv : values.get? k = some v) (hk : s.Offends k v how)
      (hfirst : ∀ l w how', values.get? l = some w → s.Offends l w how' → k ≤ l) :
    Fails s values how

theorem entryInconsistency?_eq_some_iff {e : String × Value} :
    s.entryInconsistency? e = some how ↔ s.Offends e.1 e.2 how := by
  unfold entryInconsistency?
  constructor
  · intro h
    split at h
    · rename_i hnone
      cases h
      refine .foreign fun a ha hname => ?_
      rw [attribute?_eq_some_iff.2 ⟨ha, hname⟩] at hnone
      cases hnone
    · rename_i a ha
      obtain ⟨hmem, hname⟩ := attribute?_eq_some_iff.1 ha
      split at h
      · cases h
      · rename_i htype
        cases h
        exact .wrongType hmem hname htype
  · intro h
    cases h with
    | foreign h =>
      cases hfind : s.attribute? e.1 with
      | none => rfl
      | some a =>
        obtain ⟨ha, hname⟩ := attribute?_eq_some_iff.1 hfind
        exact absurd hname (h a ha)
    | wrongType ha hname htype =>
      rw [attribute?_eq_some_iff.2 ⟨ha, hname⟩]
      exact if_neg htype

/-- What is looked for first is an attribute that is lacking. -/
theorem find?_lacking_eq_some_iff {a : Attribute} :
    s.attributes.find? (fun a => a.isRequired && (values.get? a.name).isNone) = some a ↔
      s.Lacks values a ∧ ∀ b, s.Lacks values b → a.name ≤ b.name := by
  rw [← List.findSome?_guard, findSome?_eq_some_iff_of_ascending s.sorted]
  simp only [Option.guard_eq_some_iff, Option.isSome_guard, Bool.and_eq_true, Option.isNone_iff_eq_none]
  constructor
  · rintro ⟨c, hc, ⟨rfl, hlacks⟩, hleast⟩
    exact ⟨⟨hc, hlacks⟩, fun b ⟨hb, hlacks'⟩ => hleast b hb hlacks'⟩
  · rintro ⟨⟨ha, hlacks⟩, hleast⟩
    exact ⟨a, ha, ⟨rfl, hlacks⟩, fun b hb hlacks' => hleast b ⟨hb, hlacks'⟩⟩

theorem find?_lacking_eq_none_iff :
    s.attributes.find? (fun a => a.isRequired && (values.get? a.name).isNone) = none ↔
      ∀ a, ¬ s.Lacks values a := by
  rw [List.find?_eq_none]
  simp only [Bool.and_eq_true, Option.isNone_iff_eq_none]
  exact ⟨fun h a ⟨ha, hlacks⟩ => h a ha hlacks, fun h a ha hlacks => h a ⟨ha, hlacks⟩⟩

/-- What is looked for next is an entry that fails. -/
theorem findSome?_offending_eq_some_iff :
    values.entries.findSome? s.entryInconsistency? = some how ↔
      ∃ k v, values.get? k = some v ∧ s.Offends k v how ∧
        ∀ l w how', values.get? l = some w → s.Offends l w how' → k ≤ l := by
  rw [findSome?_eq_some_iff_of_ascending values.sorted]
  simp only [Option.isSome_iff_exists, entryInconsistency?_eq_some_iff]
  constructor
  · rintro ⟨⟨k, v⟩, he, hk, hleast⟩
    refine ⟨k, v, SortedMap.mem_entries_iff.1 he, hk, fun l w how' hw hl => ?_⟩
    exact hleast (l, w) (SortedMap.mem_entries_iff.2 hw) ⟨how', hl⟩
  · rintro ⟨k, v, hv, hk, hleast⟩
    refine ⟨(k, v), SortedMap.mem_entries_iff.2 hv, hk, fun e he ⟨how', hl⟩ => ?_⟩
    exact hleast e.1 e.2 how' (SortedMap.mem_entries_iff.1 he) hl

/-- **A schema tells how values first fail** to conform to it. -/
theorem inconsistency?_eq_some_iff : s.inconsistency? values = some how ↔ s.Fails values how := by
  unfold inconsistency?
  constructor
  · intro h
    split at h
    · rename_i a ha
      cases h
      obtain ⟨hlacks, hfirst⟩ := find?_lacking_eq_some_iff.1 ha
      exact .missing hlacks hfirst
    · rename_i hnone
      obtain ⟨k, v, hv, hk, hfirst⟩ := findSome?_offending_eq_some_iff.1 h
      exact .offending (find?_lacking_eq_none_iff.1 hnone) hv hk hfirst
  · intro h
    cases h with
    | missing ha hfirst => rw [find?_lacking_eq_some_iff.2 ⟨ha, hfirst⟩]
    | @offending k v _ hall hv hk hfirst =>
      rw [find?_lacking_eq_none_iff.2 hall]
      exact findSome?_offending_eq_some_iff.2 ⟨k, v, hv, hk, hfirst⟩

end Schema

/-! ### Which descriptions are made -/

namespace Description

variable {values : SortedMap Value} {s : Schema}

/-- Values that conform to a schema make a description of it, and of nothing else. -/
theorem ofValues?_eq_ok_iff {d : Description} :
    ofValues? values (some s) = .ok d ↔ d.values = values ∧ d.schema = s := by
  simp only [ofValues?, Option.getD_some]
  constructor
  · intro h
    split at h
    · cases h
    · cases h
      exact ⟨rfl, rfl⟩
  · rintro ⟨rfl, rfl⟩
    split
    · rename_i how hhow
      rw [d.conforms] at hhow
      cases hhow
    · rfl

theorem exists_ofValues?_iff : (∃ d, ofValues? values (some s) = .ok d) ↔ s.Conforms values := by
  rw [← Schema.inconsistency?_eq_none_iff]
  constructor
  · rintro ⟨d, hd⟩
    obtain ⟨rfl, rfl⟩ := ofValues?_eq_ok_iff.1 hd
    exact d.conforms
  · intro h
    exact ⟨⟨values, s, h⟩, ofValues?_eq_ok_iff.2 ⟨rfl, rfl⟩⟩

theorem ofValues?_eq_error_iff {f : Fault} :
    ofValues? values (some s) = .error f ↔ ∃ how, f = .inconsistent how ∧ s.Fails values how := by
  simp only [ofValues?, Option.getD_some, ← Schema.inconsistency?_eq_some_iff]
  split
  · rename_i how hhow
    constructor
    · intro h
      cases h
      exact ⟨how, rfl, hhow⟩
    · rintro ⟨how', rfl, hhow'⟩
      rw [Option.some.inj (hhow.symm.trans hhow')]
  · rename_i hnone
    constructor
    · intro h
      cases h
    · rintro ⟨how, -, hhow⟩
      rw [hnone] at hhow
      cases hhow

/-- **Descriptions are accepted just if they conform.** Values make a description of a given schema
just if each required attribute has a value and each value is of an attribute and has its type;
otherwise it is told which required attribute, the least by name, is missing or, if none is, which
entry, the least by key, fails. With no schema any values make a description; and one that is made
without a check, from a list of entries of which the last with a key counts, is the one that would
be made with a check against the schema of just these values. -/
theorem ofValues?_conforms :
    (∀ values s,
      ((∃ d, ofValues? values (some s) = .ok d) ↔ s.Conforms values) ∧
      (∀ d, ofValues? values (some s) = .ok d ↔ d.values = values ∧ d.schema = s) ∧
      ∀ f, ofValues? values (some s) = .error f ↔
        ∃ how, f = .inconsistent how ∧ s.Fails values how) ∧
    (∀ values, ∃ d, ofValues? values none = .ok d ∧ d.values = values ∧
      d.schema = .ofValues "" values) ∧
    ∀ name es, ofValues? (.ofList es) (some (.ofValues name (.ofList es))) =
        .ok (ofValues name (.ofList es)) ∧
      ∀ k, (ofValues name (.ofList es)).value? k = SortedMap.find k es.reverse :=
  ⟨fun _ _ => ⟨exists_ofValues?_iff, fun _ => ofValues?_eq_ok_iff, fun _ => ofValues?_eq_error_iff⟩,
    fun values => ⟨ofValues "" values, ofValues?_eq_ok_iff.2 ⟨rfl, rfl⟩, rfl, rfl⟩,
    fun _ es => ⟨ofValues?_eq_ok_iff.2 ⟨rfl, rfl⟩, fun k => SortedMap.get?_ofList es k⟩⟩

end Description

end Search

end Bazaar
