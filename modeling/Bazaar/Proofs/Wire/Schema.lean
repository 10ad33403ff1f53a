import Bazaar.Proofs.Wire.Content
import Bazaar.Wire.Schema

/-!
Places, values, attributes, schemas and descriptions are read back from their fields. A place loses
the signs of its zeros, which its fields leave out; a double of its own keeps its sign, since a
value always has its field.
-/

namespace Bazaar

namespace Search

/-- The place as it comes back from its message. -/
def Place.carried (p : Place) : Place := ⟨p.latitude.unsigned, p.longitude.unsigned⟩

/-- The value as it comes back from its message. -/
def Value.carried : Value → Value
  | .place p => .place p.carried
  | v => v

end Search

namespace Wire

open Search (Place Value)

/-! ### Places and values -/

theorem reads_place (p : Place) : Reads placeStep .origin (placeFields p) 0 p.carried := by
  have hlon : Reads placeStep .origin (doubleField 1 p.longitude) 0
      ⟨.zero, p.longitude.unsigned⟩ :=
    reads_doubleField (fun d => (⟨.zero, d⟩ : Place)) (by decide) rfl (fun _ _ => rfl) _
  have hlat : Reads placeStep ⟨.zero, p.longitude.unsigned⟩ (doubleField 2 p.latitude) 0
      p.carried :=
    reads_doubleField (fun d => (⟨d, p.longitude.unsigned⟩ : Place)) (by decide) rfl
      (fun _ _ => rfl) _
  exact hlon.before hlat

/-- A field with a place, which may be missing. -/
theorem reads_place? {α : Type} {step : Nat → α → Field → Option α} {number : Nat}
    (g : Option Place → α) (hn : IsNumber number)
    (hstep : ∀ budget p, step budget (g none) (embed number (placeFields p)) =
      (mergeWithin? budget placeStep .origin (embed number (placeFields p)).payload).map
        (g ∘ some)) (p? : Option Place) :
    Reads step (g none) (p?.map fun p => embed number (placeFields p)).toList
      (deepest (p?.toList.map fun _ => 0)) (g (p?.map Place.carried)) :=
  reads_embed? (fun p => g (p.map Place.carried)) rfl
    (fun p => reads_embed (g ∘ some) hn (fun budget => hstep budget p) (reads_place p)) p?

/-- How deep messages are nested in the message of a value. -/
def valueDepth : Value → Nat
  | .place _ => 1
  | _ => 0

theorem reads_value (v : Value) :
    Reads valueStep none (valueFields v) (valueDepth v) (some v.carried) := by
  cases v with
  | text s =>
    refine reads_scalar (by decide) nofun fun budget => ?_
    change (ofText s).text?.map _ = _
    rw [text?_ofText]
    rfl
  | double d => exact reads_scalar (by decide) nofun fun _ => rfl
  | bool b => exact reads_scalar (by decide) nofun fun _ => by cases b <;> rfl
  | int i =>
    refine reads_scalar (by decide) nofun fun budget => ?_
    change (ofInt i).int?.map _ = _
    rw [int?_ofInt]
    rfl
  | place p =>
    exact reads_embed (some ∘ Value.place) (by decide) (fun _ => rfl) (reads_place p)

/-! ### Attributes and schemas -/

theorem Attribute.reads (a : Attribute) : Reads step empty a.fields 0 a := by
  have hname : Reads step empty (textField 1 a.name) 0 ⟨a.name, 0, false, ""⟩ :=
    reads_textField (fun s => (⟨s, 0, false, ""⟩ : Attribute)) (by decide) rfl
      (fun _ s => by simp [step, text?_ofText]) _
  have htype : Reads step ⟨a.name, 0, false, ""⟩ (codeField 2 a.type) 0
      ⟨a.name, a.type, false, ""⟩ :=
    reads_codeField (fun c => (⟨a.name, c, false, ""⟩ : Attribute)) (by decide) rfl
      (fun _ c => by simp [step, code?_ofCode]) _
  have hrequired : Reads step ⟨a.name, a.type, false, ""⟩ (boolField 3 a.isRequired) 0
      ⟨a.name, a.type, a.isRequired, ""⟩ :=
    reads_boolField (fun b => (⟨a.name, a.type, b, ""⟩ : Attribute)) (by decide) rfl
      (fun _ b => by simp [step, bool?_ofBool]) _
  have hnote : Reads step ⟨a.name, a.type, a.isRequired, ""⟩ (textField 4 a.note) 0 a :=
    reads_textField (fun s => (⟨a.name, a.type, a.isRequired, s⟩ : Attribute)) (by decide) rfl
      (fun _ s => by simp [step, text?_ofText]) _
  exact ((hname.before htype).before hrequired).before hnote

namespace Schema

/-- How deep messages are nested in the message of a schema: its attributes hold none. -/
def depth (s : Schema) : Nat := deepest (s.attributes.map fun _ => 0)

theorem reads (s : Schema) : Reads step empty s.fields s.depth s := by
  have hname : Reads step empty (textField 1 s.name) 0 ⟨s.name, [], ""⟩ :=
    reads_textField (fun t => (⟨t, [], ""⟩ : Schema)) (by decide) rfl
      (fun _ t => by simp [step, text?_ofText]) _
  have hattributes : Reads step ⟨s.name, [], ""⟩ (s.attributes.map fun a => embed 2 a.fields)
      s.depth ⟨s.name, s.attributes, ""⟩ := by
    have h : Reads step ⟨s.name, [], ""⟩ (s.attributes.map fun a => embed 2 a.fields) s.depth
        ⟨s.name, [] ++ s.attributes.map id, ""⟩ :=
      reads_embeds (fun as => (⟨s.name, as, ""⟩ : Schema)) (by decide) (fun _ _ _ => rfl)
        (fun a _ => Attribute.reads a) []
    rwa [List.map_id, List.nil_append] at h
  have hnote : Reads step ⟨s.name, s.attributes, ""⟩ (textField 3 s.note) 0 s :=
    reads_textField (fun t => (⟨s.name, s.attributes, t⟩ : Schema)) (by decide) rfl
      (fun _ t => by simp [step, text?_ofText]) _
  exact (hname.before hattributes).after hnote

end Schema

/-! ### Descriptions -/

namespace Entry

def depth (e : Entry) : Nat := deepest (e.value.toList.map valueDepth)

/-- The entry as it comes back from its message. -/
def carried (e : Entry) : Entry := ⟨e.key, e.value.map Value.carried⟩

theorem reads (e : Entry) : Reads step empty e.fields e.depth e.carried := by
  have hkey : Reads step empty (textField 1 e.key) 0 ⟨e.key, none⟩ :=
    reads_textField (fun s => (⟨s, none⟩ : Entry)) (by decide) rfl
      (fun _ s => by simp [step, text?_ofText]) _
  have hvalue : Reads step ⟨e.key, none⟩
      (e.value.map fun v => embed 2 (valueFields v)).toList e.depth e.carried :=
    reads_embed? (fun v => (⟨e.key, v.map Value.carried⟩ : Entry)) rfl
      (fun v => reads_embed (fun v => (⟨e.key, v⟩ : Entry)) (by decide) (fun _ => rfl)
        (reads_value v)) _
  exact hkey.before hvalue

end Entry

namespace Description

def depth (d : Description) : Nat :=
  max (deepest (d.schema.toList.map Schema.depth)) (deepest (d.entries.map Entry.depth))

/-- The description as it comes back from its message. -/
def carried (d : Description) : Description := ⟨d.schema, d.entries.map Entry.carried⟩

theorem reads (d : Description) : Reads step empty d.fields d.depth d.carried := by
  have hschema : Reads step empty (d.schema.map fun s => embed 1 s.fields).toList
      (deepest (d.schema.toList.map Schema.depth)) ⟨d.schema, []⟩ :=
    reads_embed? (fun s => (⟨s, []⟩ : Description)) rfl
      (fun s => reads_embed (fun s => (⟨some s, []⟩ : Description)) (by decide) (fun _ => rfl)
        s.reads) _
  have hentries : Reads step ⟨d.schema, []⟩ (d.entries.map fun e => embed 2 e.fields)
      (deepest (d.entries.map Entry.depth)) d.carried :=
    reads_embeds (fun es => (⟨d.schema, es⟩ : Description)) (by decide) (fun _ _ _ => rfl)
      (fun e _ => e.reads) []
  exact hschema.append hentries

end Description

end Wire

end Bazaar
