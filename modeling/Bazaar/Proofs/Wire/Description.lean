import Bazaar.Proofs.Search.Description
import Bazaar.Proofs.Wire.RoundTrip

/-!
Places, attributes, schemas and descriptions that are written and read again. All of them come
back, whatever they hold: attributes and schemas are the same to their notes, and places and the
values of a description lose nothing but the signs of zeros. Main statement:
`decode_encode_descriptions`.
-/

namespace Bazaar.Search

/-! ### Descriptions -/

namespace Description

/-- The description as it comes back from its message. -/
def carried (d : Description) : Description where
  values := d.values.map Value.carried
  schema := d.schema
  conforms := Schema.inconsistency?_eq_none_iff.2
    ((Schema.inconsistency?_eq_none_iff.1 d.conforms).map Value.type_carried)

/-- Descriptions of the same schema, its notes included, with values that are alike under the same
keys. -/
def Alike (d e : Description) : Prop :=
  d.schema = e.schema ∧ ∀ k, Option.Rel Value.Alike (d.value? k) (e.value? k)

theorem alike_carried (d : Description) : d.Alike d.carried := by
  refine ⟨rfl, fun k => ?_⟩
  rw [value?, value?, carried, SortedMap.get?_map]
  cases d.values.get? k with
  | none => exact .none
  | some v => exact .some v.alike_carried

/-- **A description comes back**, with the values that its message carries. -/
theorem ofWire_carried (d : Description) : ofWire d.toWire.carried = .ok d.carried := by
  have hentries : (d.toWire.carried.entries.mapM fun e => do
      Except.ok (e.key, ← present .entryValue e.value)) = .ok d.carried.values.entries := by
    rw [Wire.Description.carried, toWire, List.map_map]
    refine mapM_map_eq_pure (h := fun e : String × Value => (e.1, e.2.carried)) ?_ _
    intro e
    rfl
  change (d.toWire.carried.entries.mapM (fun e => do
      Except.ok (e.key, ← present .entryValue e.value)) >>= fun es =>
    Schema.ofWire d.schema.toWire >>= fun s => ofValues? (.ofList es) (some s)) = _
  rw [hentries, d.schema.ofWire_toWire]
  change ofValues? (.ofList d.carried.values.entries) (some d.carried.schema) = _
  rw [SortedMap.ofList_entries]
  exact ofValues?_eq_ok_iff.2 ⟨rfl, rfl⟩

end Description

/-! ### How deep messages are nested -/

theorem valueDepth_le (v : Value) : Wire.valueDepth v ≤ 1 := by
  cases v <;> simp [Wire.valueDepth]

/-- The message of a schema holds those of its attributes. -/
theorem Schema.depth_toWire_le (s : Schema) : s.toWire.depth ≤ 1 := by
  rw [s.depth_toWire, depth]
  split <;> omega

/-- The message of a description nests no deeper than a place that is a value of it. -/
theorem Description.depth_toWire_le (d : Description) : d.toWire.depth ≤ 3 := by
  have hschema := d.schema.depth_toWire_le
  refine Nat.max_le.2 ⟨?_, ?_⟩
  · rw [Wire.deepest_le_iff]
    intro n hn
    obtain rfl : n = d.schema.toWire.depth := by simpa [toWire] using hn
    omega
  · rw [Wire.deepest_le_iff]
    intro n hn
    obtain ⟨e, he, rfl⟩ := List.mem_map.1 hn
    obtain ⟨⟨k, v⟩, -, rfl⟩ := List.mem_map.1 he
    have hv := valueDepth_le v
    change max (Wire.valueDepth v + 1) 0 < 3
    omega

/-! ### Writing and reading -/

theorem length_writeFields_doubleField_le {n : Nat} (h : n < 16) (d : Double) :
    (Wire.writeFields (Wire.doubleField n d)).length ≤ 9 := by
  unfold Wire.doubleField
  split
  · simp [Wire.writeFields]
  · have hkey : (Wire.writeKey n 1).length = 1 := by
      rw [Wire.writeKey, Wire.Varint.write, if_pos (by omega), List.length_singleton]
    have hbytes : (Wire.lowBytes 8 d.bits.toNat).length = 8 := Wire.length_lowBytes 8 _
    change ((Wire.writeKey n 1 ++ Wire.lowBytes 8 d.bits.toNat) ++ []).length ≤ 9
    rw [List.append_nil, List.length_append]
    omega

theorem Place.length_encode_le (p : Place) : p.encode.length ≤ 18 := by
  have hlon := length_writeFields_doubleField_le (n := 1) (by decide) p.longitude
  have hlat := length_writeFields_doubleField_le (n := 2) (by decide) p.latitude
  rw [encode, Wire.placeFields, Wire.writeFields_append, List.length_append]
  omega

theorem Place.decode_encode_eq (p : Place) : decode p.encode = .ok p.carried := by
  have hs := p.length_encode_le
  exact readBytes_writeFields (Wire.reads_place p) (by change p.encode.length < _; omega) .ok

theorem Attribute.decode_encode_eq {a : Attribute} (h : a.encode.length < 2 ^ 64) :
    decode a.encode = .ok a := by
  rw [decode, encode, readBytes_writeFields a.toWire.reads h]
  exact a.ofWire_toWire

theorem Schema.decode_encode_eq {s : Schema} (h : s.encode.length < 2 ^ 64) :
    decode s.encode = .ok s := by
  have hd := s.depth_toWire_le
  rw [decode, encode, readBytes_writeFields s.toWire.reads h, if_pos (by rw [maxNested]; omega)]
  exact s.ofWire_toWire

theorem Description.decode_encode_eq {d : Description} (h : d.encode.length < 2 ^ 64) :
    decode d.encode = .ok d.carried := by
  have hd := d.depth_toWire_le
  rw [decode, encode, readBytes_writeFields d.toWire.reads h, if_pos (by rw [maxNested]; omega)]
  exact d.ofWire_carried

/-- **Places, attributes, schemas and descriptions survive their messages.** Attributes and schemas
come back as they were; a place comes back with the same coordinates; and a description with the
same schema and, under every key, with a value that is alike. As everywhere, a message has fewer
than 2⁶⁴ bytes; that of a place always has. -/
theorem decode_encode_descriptions :
    (∀ p : Place, ∃ q, Place.decode p.encode = .ok q ∧ p.Alike q) ∧
    (∀ a : Attribute, a.encode.length < 2 ^ 64 → Attribute.decode a.encode = .ok a) ∧
    (∀ s : Schema, s.encode.length < 2 ^ 64 → Schema.decode s.encode = .ok s) ∧
    ∀ d : Description, d.encode.length < 2 ^ 64 →
      ∃ e, Description.decode d.encode = .ok e ∧ d.Alike e := by
  refine ⟨fun p => ?_, fun a ha => ?_, fun s hs => ?_, fun d hd => ?_⟩
  · exact ⟨p.carried, p.decode_encode_eq, p.alike_carried⟩
  · exact Attribute.decode_encode_eq ha
  · exact Schema.decode_encode_eq hs
  · exact ⟨d.carried, Description.decode_encode_eq hd, d.alike_carried⟩

/-- A stall with a zero and a number that is none, under a schema with a note and no name. -/
def stall : Description where
  values := ⟨[("at", .place ⟨⟨0x8000000000000000⟩, ⟨0x4049800000000000⟩⟩), ("open", .bool false),
    ("rating", .double ⟨0x7ff8000000000000⟩)], by decide +kernel⟩
  schema := ⟨"", [⟨"at", .place, true, "where it stands"⟩, ⟨"name", .text, false, ""⟩,
    ⟨"open", .bool, true, ""⟩, ⟨"rating", .double, false, "by customers"⟩], "a stall",
    by decide +kernel⟩
  conforms := by decide +kernel

theorem decode_encode_stall :
    ((⟨"at", .place, true, "where it stands"⟩ : Attribute).encode.length < 2 ^ 64 ∧
      stall.schema.encode.length < 2 ^ 64 ∧ stall.encode.length < 2 ^ 64) ∧
    Attribute.decode (⟨"at", .place, true, "where it stands"⟩ : Attribute).encode =
      .ok ⟨"at", .place, true, "where it stands"⟩ ∧
    Schema.decode stall.schema.encode = .ok stall.schema ∧
    ∃ e, Description.decode stall.encode = .ok e ∧ stall.Alike e := by
  have ha : (⟨"at", .place, true, "where it stands"⟩ : Attribute).encode.length < 2 ^ 64 := by
    decide +kernel
  have hs : stall.schema.encode.length < 2 ^ 64 := by decide +kernel
  have hd : stall.encode.length < 2 ^ 64 := by decide +kernel
  obtain ⟨-, hattribute, hschema, hdescription⟩ := decode_encode_descriptions
  exact ⟨⟨ha, hs, hd⟩, hattribute _ ha, hschema _ hs, hdescription _ hd⟩

end Bazaar.Search
