import Mathlib.Data.List.Duplicate
import Mathlib.Order.Bounds.Defs
import Bazaar.Wire.Bytes

/-!
What a schema is made of. A list of attributes has one schema if their names are distinct, however
the list is arranged, and else none. Main statements: which attributes a schema has and what is
wrong where there is no schema (`Schema.ofAttributes_eq_ok_iff`, `Schema.ofAttributes_eq_error_iff`),
from which `Schema.ofAttributes_canonical` is put together.
-/

namespace Bazaar.Search.Schema

variable {as bs : List Attribute} {name key : String} {f : Fault} {s : Schema}

/-! ### Names that are repeated -/

/-- The names that more than one of a list of attributes has. -/
def repeatedNames (as : List Attribute) : Set String :=
  {key | List.Duplicate key (as.map Attribute.name)}

theorem repeatedNames_of_perm (h : as.Perm bs) : repeatedNames as = repeatedNames bs := by
  ext key
  change List.Duplicate key _ ↔ List.Duplicate key _
  rw [List.duplicate_iff_two_le_count, List.duplicate_iff_two_le_count, (h.map _).count_eq]

theorem nodup_names (h : as.Pairwise fun a b => a.name < b.name) : (as.map Attribute.name).Nodup :=
  List.pairwise_map.2 (h.imp fun hlt => String.ne_of_lt hlt)

/-- The first of ascending names is the least. -/
theorem head_le {a : Attribute} {l : String} (h : (a :: as).Pairwise fun a b => a.name ≤ b.name)
    (hl : l ∈ (a :: as).map Attribute.name) : a.name ≤ l := by
  obtain ⟨b, hb, rfl⟩ := List.mem_map.1 hl
  rcases List.mem_cons.1 hb with rfl | hb
  · exact String.le_refl _
  · exact (List.pairwise_cons.1 h).1 b hb

/-- The first name that stands twice in a row of ascending names is the least that is repeated. -/
theorem isLeast_of_repeated? (h : as.Pairwise fun a b => a.name ≤ b.name)
    (hkey : repeated? as = some key) : IsLeast (repeatedNames as) key := by
  induction as with
  | nil => cases hkey
  | cons a as ih =>
    obtain ⟨ha, has⟩ := List.pairwise_cons.1 h
    cases as with
    | nil => cases hkey
    | cons b as =>
      rw [repeated?] at hkey
      split at hkey
      · rename_i hab
        obtain rfl : a.name = key := Option.some.inj hkey
        have hmem : a.name ∈ (b :: as).map Attribute.name := hab ▸ List.mem_cons_self
        exact ⟨List.duplicate_cons_self_iff.2 hmem, fun l hl => head_le h hl.mem⟩
      · rename_i hab
        obtain ⟨hmem, hleast⟩ := ih has hkey
        refine ⟨List.Duplicate.cons_duplicate hmem, fun l hl => ?_⟩
        rcases List.duplicate_cons_iff.1 hl with ⟨rfl, hl⟩ | hl
        · -- the name of `a` is below that of `b`, so no later attribute has it
          exact absurd (String.le_antisymm (ha b List.mem_cons_self) (head_le has hl)) hab
        · exact hleast hl

theorem repeated?_eq_none (h : as.Pairwise fun a b => a.name < b.name) : repeated? as = none := by
  cases hkey : repeated? as with
  | none => rfl
  | some key =>
    have hleast := isLeast_of_repeated? (h.imp fun hlt => Std.le_of_lt hlt) hkey
    exact absurd (nodup_names h) (List.Duplicate.not_nodup hleast.1)

/-! ### Which schema is made -/

theorem perm_inOrder (as : List Attribute) : (inOrder as).Perm as := List.mergeSort_perm as _

/-- Attributes with distinct names are put in order in one way only. -/
theorem inOrder_eq_of_perm (h : s.attributes.Perm as) : inOrder as = s.attributes := by
  have hperm : (inOrder as).Perm s.attributes := (perm_inOrder as).trans h.symm
  have hle : s.attributes.Pairwise fun a b => a.name ≤ b.name :=
    s.sorted.imp fun hlt => Std.le_of_lt hlt
  refine hperm.eq_of_pairwise (fun a b ha hb hab hba => ?_) (pairwise_inOrder as) hle
  exact attribute_unique (hperm.mem_iff.1 ha) hb (String.le_antisymm hab hba)

/-- **The schema of a list of attributes has just these attributes.** -/
theorem ofAttributes_eq_ok_iff :
    ofAttributes name as = .ok s ↔ s.name = name ∧ s.note = "" ∧ s.attributes.Perm as := by
  constructor
  · intro h
    unfold ofAttributes at h
    split at h
    · cases h
    · cases h
      exact ⟨rfl, rfl, perm_inOrder as⟩
  · rintro ⟨rfl, hnote, hperm⟩
    have horder := inOrder_eq_of_perm hperm
    unfold ofAttributes
    split
    · rename_i key hkey
      rw [horder, repeated?_eq_none s.sorted] at hkey
      cases hkey
    · simp only [horder, ← hnote]

/-- **There is no schema just if a name is repeated**, and it is the least such name that is told. -/
theorem ofAttributes_eq_error_iff :
    ofAttributes name as = .error f ↔
      ∃ key, IsLeast (repeatedNames as) key ∧ f = .duplicateAttribute name key := by
  have of_error {f : Fault} (h : ofAttributes name as = .error f) :
      ∃ key, IsLeast (repeatedNames as) key ∧ f = .duplicateAttribute name key := by
    unfold ofAttributes at h
    split at h
    · rename_i key hkey
      cases h
      have hleast := isLeast_of_repeated? (pairwise_inOrder as) hkey
      rw [repeatedNames_of_perm (perm_inOrder as)] at hleast
      exact ⟨key, hleast, rfl⟩
    · cases h
  constructor
  · exact of_error
  · rintro ⟨key, hkey, rfl⟩
    cases hmade : ofAttributes name as with
    | ok s =>
      obtain ⟨-, -, hperm⟩ := ofAttributes_eq_ok_iff.1 hmade
      rw [← repeatedNames_of_perm hperm] at hkey
      exact absurd (nodup_names s.sorted) (List.Duplicate.not_nodup hkey.1)
    | error f =>
      obtain ⟨key', hkey', rfl⟩ := of_error hmade
      rw [String.le_antisymm (hkey.2 hkey'.1) (hkey'.2 hkey.1)]

/-- A schema is made of its own attributes. -/
theorem ofAttributes_attributes (s : Schema) :
    ofAttributes s.name s.attributes = .ok (s.withNote "") :=
  ofAttributes_eq_ok_iff.2 ⟨rfl, rfl, .refl _⟩

/-- It does not matter how the attributes are arranged. -/
theorem ofAttributes_of_perm (h : as.Perm bs) : ofAttributes name as = ofAttributes name bs := by
  cases hmade : ofAttributes name bs with
  | ok s =>
    obtain ⟨hname, hnote, hperm⟩ := ofAttributes_eq_ok_iff.1 hmade
    exact ofAttributes_eq_ok_iff.2 ⟨hname, hnote, hperm.trans h.symm⟩
  | error f =>
    rw [ofAttributes_eq_error_iff, repeatedNames_of_perm h]
    exact ofAttributes_eq_error_iff.1 hmade

theorem exists_error_ofAttributes_iff :
    (∃ f, ofAttributes name as = .error f) ↔ ¬ (as.map Attribute.name).Nodup := by
  constructor
  · rintro ⟨f, hf⟩
    obtain ⟨key, hkey, -⟩ := ofAttributes_eq_error_iff.1 hf
    exact List.Duplicate.not_nodup hkey.1
  · intro hdup
    cases hmade : ofAttributes name as with
    | ok s =>
      obtain ⟨-, -, hperm⟩ := ofAttributes_eq_ok_iff.1 hmade
      exact absurd ((hperm.map _).nodup_iff.1 (nodup_names s.sorted)) hdup
    | error f => exact ⟨f, rfl⟩

/-- **Schemas are canonical, and look-up in them is complete.** There is no schema of a list of
attributes just if two of them share a name, and then the least name that is repeated is told;
otherwise the schema has the attributes of the list, in strictly ascending order of their names.
However the list is arranged, the schema is the same to its notes and its bytes, or what is told is
the same. And in every schema, however it was made, an attribute is found under a name just if it
is there and has this name. -/
theorem ofAttributes_canonical :
    (∀ name as,
      ((∃ f, ofAttributes name as = .error f) ↔ ¬ (as.map Attribute.name).Nodup) ∧
      (∀ f, ofAttributes name as = .error f ↔
        ∃ key, IsLeast (repeatedNames as) key ∧ f = .duplicateAttribute name key) ∧
      (∀ s, ofAttributes name as = .ok s ↔ s.name = name ∧ s.note = "" ∧ s.attributes.Perm as) ∧
      (∀ s, ofAttributes name as = .ok s → s.attributes.Pairwise fun a b => a.name < b.name) ∧
      ∀ bs, bs.Perm as → ofAttributes name bs = ofAttributes name as ∧
        (ofAttributes name bs).map encode = (ofAttributes name as).map encode) ∧
    ∀ (s : Schema) name a, s.attribute? name = some a ↔ a ∈ s.attributes ∧ a.name = name := by
  refine ⟨fun name as => ⟨exists_error_ofAttributes_iff, fun f => ofAttributes_eq_error_iff,
    fun s => ofAttributes_eq_ok_iff, fun s _ => s.sorted, fun bs hperm => ?_⟩,
    fun s name a => attribute?_eq_some_iff⟩
  have hsame : ofAttributes name bs = ofAttributes name as := ofAttributes_of_perm hperm
  exact ⟨hsame, by rw [hsame]⟩

/-- The attributes of a book, the year twice. -/
def bookAttributes : List Attribute :=
  [⟨"year", .int, true, "of publication"⟩, ⟨"author", .text, true, ""⟩, ⟨"year", .text, false, ""⟩,
    ⟨"genre", .text, false, ""⟩]

/-- The schema of books with a year that is told in words. -/
def datedBooks : Schema :=
  ⟨"book", [⟨"author", .text, true, ""⟩, ⟨"genre", .text, false, ""⟩, ⟨"year", .text, false, ""⟩], "",
    by decide⟩

theorem ofAttributes_canonical_books :
    (∃ f, ofAttributes "book" bookAttributes = .error f) ∧
    bookAttributes.tail.reverse.Perm bookAttributes.tail ∧
    ofAttributes "book" bookAttributes.tail = .ok datedBooks ∧
    ofAttributes "book" bookAttributes.tail.reverse = .ok datedBooks ∧
    datedBooks.attribute? "genre" = some ⟨"genre", .text, false, ""⟩ := by
  obtain ⟨hmaking, hfinding⟩ := ofAttributes_canonical
  obtain ⟨hrefused, -⟩ := hmaking "book" bookAttributes
  obtain ⟨-, -, hmade, -, hrearranged⟩ := hmaking "book" bookAttributes.tail
  have hperm : bookAttributes.tail.reverse.Perm bookAttributes.tail := List.reverse_perm _
  have hbooks : ofAttributes "book" bookAttributes.tail = .ok datedBooks :=
    (hmade datedBooks).2 ⟨rfl, rfl, by decide⟩
  exact ⟨hrefused.2 (by decide), hperm, hbooks, (hrearranged _ hperm).1.trans hbooks,
    (hfinding datedBooks _ _).2 (by decide)⟩

end Bazaar.Search.Schema
