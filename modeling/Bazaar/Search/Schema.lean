import Bazaar.Search.Fault
import Bazaar.SortedMap

/-!
Schemas: the attributes that a description of a service may or must have, each name once and in
ascending order. Main statements: a schema is made of any attributes with distinct names
(`ofAttributes`), and an attribute of a schema is found under its name, by bisection
(`attribute?_eq_some_iff`).
-/

namespace Bazaar.Search

/-- One attribute of a schema. -/
structure Attribute where
  name : String
  type : ValueType
  /-- Whether every description must have it. -/
  isRequired : Bool
  /-- What it means, for a reader. -/
  note : String
deriving DecidableEq

namespace Attribute

/-- The attribute with no note. -/
def bare (a : Attribute) : Attribute := { a with note := "" }

/-- Equality of attributes, whatever their notes. -/
def equal (a b : Attribute) : Bool := a.bare == b.bare

/-- The text of an attribute. -/
def render (a : Attribute) : String :=
  "Attribute(name=" ++ a.name ++ ",type=" ++ a.type.name ++ ",is_required=" ++
    (if a.isRequired then "true" else "false") ++ ")"

end Attribute

/-- A named list of attributes in ascending order of their names. -/
structure Schema where
  name : String
  attributes : List Attribute
  /-- What it is for, for a reader. -/
  note : String
  sorted : attributes.Pairwise (fun a b => a.name < b.name)

namespace Schema

/-- Equality of schemas, whatever their notes and those of their attributes. -/
def equal (s t : Schema) : Bool :=
  s.name == t.name && s.attributes.map Attribute.bare == t.attributes.map Attribute.bare

/-- The text of a schema. -/
def render (s : Schema) : String :=
  "DataModel(name=" ++ s.name ++ ",attributes=[" ++
    ",".intercalate (s.attributes.map Attribute.render) ++ "],description=" ++ s.note ++ ")"

/-- The schema with another note. -/
def withNote (s : Schema) (note : String) : Schema := { s with note }

/-- The attribute with a name among attributes in ascending order of their names: the one in the
middle, or else one in the half where the name can be. As many rounds as there are attributes are
enough. -/
def bisect (name : String) : Nat → List Attribute → Option Attribute
  | 0, _ => none
  | rounds + 1, as =>
    match as.drop (as.length / 2) with
    | [] => none
    | a :: later =>
      if name = a.name then some a
      else if name < a.name then bisect name rounds (as.take (as.length / 2))
      else bisect name rounds later

/-- The attribute with a name. -/
def attribute? (s : Schema) (name : String) : Option Attribute :=
  bisect name s.attributes.length s.attributes

/-! ### Making a schema -/

/-- The first name that stands twice in a row. -/
def repeated? : List Attribute → Option String
  | a :: b :: as => if a.name = b.name then some a.name else repeated? (b :: as)
  | _ => none

/-- Attributes in ascending order of their names, those of one name in the order given. -/
def inOrder (as : List Attribute) : List Attribute := as.mergeSort precedes
where
  precedes (a b : Attribute) : Bool := a.name ≤ b.name

theorem pairwise_inOrder (as : List Attribute) :
    (inOrder as).Pairwise (fun a b => a.name ≤ b.name) := by
  have trans (a b c : Attribute) (hab : inOrder.precedes a b) (hbc : inOrder.precedes b c) :
      inOrder.precedes a c :=
    decide_eq_true (String.le_trans (of_decide_eq_true hab) (of_decide_eq_true hbc))
  have total (a b : Attribute) : inOrder.precedes a b || inOrder.precedes b a := by
    simpa [inOrder.precedes] using String.le_total a.name b.name
  exact (List.pairwise_mergeSort trans total as).imp of_decide_eq_true

theorem pairwise_lt_of_repeated?_eq_none {as : List Attribute}
    (h : as.Pairwise (fun a b => a.name ≤ b.name)) (hr : repeated? as = none) :
    as.Pairwise (fun a b => a.name < b.name) := by
  induction as with
  | nil => exact .nil
  | cons a as ih =>
    obtain ⟨ha, has⟩ := List.pairwise_cons.1 h
    cases as with
    | nil => simp
    | cons b bs =>
      rw [repeated?] at hr
      split at hr
      · cases hr
      · rename_i hne
        have hlt := ih has hr
        have hab : a.name < b.name :=
          Decidable.byContradiction fun hn =>
            hne (String.le_antisymm (ha b List.mem_cons_self) (String.not_lt.1 hn))
        refine List.pairwise_cons.2 ⟨fun c hc => ?_, hlt⟩
        rcases List.mem_cons.1 hc with rfl | hc
        · exact hab
        · exact String.lt_trans hab ((List.pairwise_cons.1 hlt).1 c hc)

/-- The schema of a list of attributes with distinct names. -/
def ofAttributes (name : String) (as : List Attribute) : Except Fault Schema :=
  match h : repeated? (inOrder as) with
  | some key => .error (.duplicateAttribute name key)
  | none => .ok ⟨name, inOrder as, "", pairwise_lt_of_repeated?_eq_none (pairwise_inOrder as) h⟩

/-- The schema that asks for just the values that are there. -/
def ofValues (name : String) (values : SortedMap Value) : Schema where
  name := name
  attributes := values.entries.map fun e => ⟨e.1, e.2.type, true, ""⟩
  note := ""
  sorted := by rw [List.pairwise_map]; exact values.sorted

/-! ### Finding an attribute -/

/-- The attribute with a name is on the side of any other attribute where its name is. -/
theorem mem_named_iff {as earlier later : List Attribute} {a b : Attribute} {name : String}
    (h : as.Pairwise (fun a b => a.name < b.name)) (hsplit : as = earlier ++ b :: later) :
    a ∈ as ∧ a.name = name ↔
      if name = b.name then b = a
      else if name < b.name then a ∈ earlier ∧ a.name = name
      else a ∈ later ∧ a.name = name := by
  subst hsplit
  obtain ⟨-, hrest, hbefore⟩ := List.pairwise_append.1 h
  have hlt (he : a ∈ earlier) : a.name < b.name := hbefore a he b List.mem_cons_self
  have hgt (hl : a ∈ later) : b.name < a.name := (List.pairwise_cons.1 hrest).1 a hl
  rw [List.mem_append, List.mem_cons]
  split
  · rename_i hname
    constructor
    · rintro ⟨he | rfl | hl, ha⟩
      · exact absurd (ha.trans hname ▸ hlt he) (String.lt_irrefl _)
      · rfl
      · exact absurd (ha.trans hname ▸ hgt hl) (String.lt_irrefl _)
    · rintro rfl
      exact ⟨.inr (.inl rfl), hname.symm⟩
  · rename_i hne
    split
    · rename_i hbelow
      constructor
      · rintro ⟨he | rfl | hl, ha⟩
        · exact ⟨he, ha⟩
        · exact absurd ha.symm hne
        · exact absurd (ha ▸ hgt hl) (String.lt_asymm hbelow)
      · exact fun ⟨he, ha⟩ => ⟨.inl he, ha⟩
    · rename_i hnot
      constructor
      · rintro ⟨he | rfl | hl, ha⟩
        · exact absurd (ha ▸ hlt he) hnot
        · exact absurd ha.symm hne
        · exact ⟨hl, ha⟩
      · exact fun ⟨hl, ha⟩ => ⟨.inr (.inr hl), ha⟩

/-- Bisection finds whatever has the name. -/
theorem bisect_eq_some_iff {name : String} {rounds : Nat} {as : List Attribute} {a : Attribute}
    (h : as.Pairwise (fun a b => a.name < b.name)) (hr : as.length ≤ rounds) :
    bisect name rounds as = some a ↔ a ∈ as ∧ a.name = name := by
  induction rounds generalizing as with
  | zero =>
    obtain rfl : as = [] := List.eq_nil_of_length_eq_zero (Nat.le_zero.1 hr)
    simp [bisect]
  | succ rounds ih =>
    rw [bisect]
    split
    · rename_i hdrop
      -- the later half is the larger one: it has nothing only if there is nothing at all
      have hlen := congrArg List.length hdrop
      rw [List.length_drop, List.length_nil] at hlen
      obtain rfl : as = [] := List.eq_nil_of_length_eq_zero (by omega)
      simp
    · rename_i b later hdrop
      have hlen := congrArg List.length hdrop
      rw [List.length_drop, List.length_cons] at hlen
      have hsplit : as = as.take (as.length / 2) ++ b :: later := by
        rw [← hdrop, List.take_append_drop]
      obtain ⟨hearlier, hrest, -⟩ := List.pairwise_append.1 (hsplit ▸ h)
      rw [mem_named_iff h hsplit]
      split
      · exact Option.some_inj
      · split
        · exact ih hearlier (by rw [List.length_take]; omega)
        · exact ih hrest.of_cons (by omega)

theorem attribute?_eq_some_iff {s : Schema} {name : String} {a : Attribute} :
    s.attribute? name = some a ↔ a ∈ s.attributes ∧ a.name = name :=
  bisect_eq_some_iff s.sorted (Nat.le_refl _)

theorem attribute_unique {s : Schema} {a b : Attribute} (ha : a ∈ s.attributes)
    (hb : b ∈ s.attributes) (h : a.name = b.name) : a = b :=
  Option.some.inj ((attribute?_eq_some_iff.2 ⟨ha, h⟩).symm.trans
    (attribute?_eq_some_iff.2 ⟨hb, rfl⟩))

/-! ### Conforming to a schema -/

/-- How an entry fails to conform. -/
def entryInconsistency? (s : Schema) (e : String × Value) : Option Inconsistency :=
  match s.attribute? e.1 with
  | none => some (.foreign e.1 s.name)
  | some a => if a.type = e.2.type then none else some (.wrongType e.1 e.2.type a.type)

/-- How values fail to conform: the first required attribute that is missing, or else the first
value that is no attribute of the schema or has another type than it. -/
def inconsistency? (s : Schema) (values : SortedMap Value) : Option Inconsistency :=
  match s.attributes.find? fun a => a.isRequired && (values.get? a.name).isNone with
  | some a => some (.missing a.name)
  | none => values.entries.findSome? s.entryInconsistency?

theorem inconsistency?_ofValues (name : String) (values : SortedMap Value) :
    (ofValues name values).inconsistency? values = none := by
  have hm : (ofValues name values).attributes.find?
      (fun a => a.isRequired && (values.get? a.name).isNone) = none := by
    rw [List.find?_eq_none]
    intro a ha
    obtain ⟨e, he, rfl⟩ := List.mem_map.1 ha
    simp [SortedMap.mem_entries_iff.1 he]
  rw [inconsistency?, hm, List.findSome?_eq_none_iff]
  intro e he
  have ha : (ofValues name values).attribute? e.1 = some ⟨e.1, e.2.type, true, ""⟩ :=
    attribute?_eq_some_iff.2 ⟨List.mem_map_of_mem he, rfl⟩
  simp [entryInconsistency?, ha]

end Schema

end Bazaar.Search
