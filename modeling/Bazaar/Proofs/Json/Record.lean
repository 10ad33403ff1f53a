import Bazaar.Json.Record
import Bazaar.Proofs.Except
import Bazaar.Proofs.Json.RoundTrip

/-!
Records, maps and variants as they are written: the readers of their parts find all of it. Main
statements: a map is read back if its values are (`map?_ofMap`), and a record and a variant are
split as they were put together (`members?_object`, `tagged?_cons`).
-/

namespace Bazaar.Json

variable {name : String} {names : List String} {ms : List (String × Json)} {tag : Json}

/-- **A map is read back** if each value is. -/
theorem map?_ofMap {α : Type} {f : α → Json} {read : Json → Option α}
    (h : ∀ a, read (f a) = some a) (m : SortedMap α) : map? read (ofMap f m) = some m := by
  have hentry (e : String × α) :
      (do some (e.1, ← read (f e.2)) : Option (String × α)) = some (id e) := by rw [h]; rfl
  have hentries := mapM_map_eq_pure (m := Option) (f := fun e : String × α => (e.1, f e.2))
    (g := fun m => do some (m.1, ← read m.2)) hentry m.entries
  rw [List.map_id] at hentries
  rw [ofMap, map?, hentries]
  exact congrArg some m.ofList_entries

/-- A record that has just the members it may have. -/
theorem members?_object (h : ms.map (·.1) = names) (hnodup : names.Nodup) :
    (object ms).members? names = some ms := by
  have hknown : ms.filter (fun m => names.contains m.1) = ms := by
    refine List.filter_eq_self.2 fun m hm => ?_
    rw [List.contains_iff_mem, ← h]
    exact List.mem_map_of_mem hm
  rw [members?, hknown]
  exact if_pos (h ▸ hnodup)

/-- A tag that stands in front of what it tags, where nothing else has its name. -/
theorem tagged?_cons (h : name ∉ ms.map (·.1)) :
    (object ((name, tag) :: ms)).tagged? name = some (tag, .object ms) := by
  have hne : ∀ m ∈ ms, m.1 ≠ name := fun m hm he => h (List.mem_map.2 ⟨m, hm, he⟩)
  have hothers : ms.filter (·.1 == name) = [] :=
    List.filter_eq_nil_iff.2 fun m hm => by simpa using hne m hm
  have hrest : ms.filter (·.1 != name) = ms :=
    List.filter_eq_self.2 fun m hm => by simpa using hne m hm
  rw [tagged?, List.filter_cons_of_pos (by simp), List.filter_cons_of_neg (by simp), hothers, hrest]

/-! ### Parts that are proper -/

theorem areProperMembers_iff : areProperMembers ms = true ↔ ∀ m ∈ ms, m.2.isProper = true := by
  induction ms with
  | nil => simp [areProperMembers]
  | cons m ms ih => simp [areProperMembers, ih]

theorem isProper_ofMap {α : Type} {f : α → Json} (h : ∀ a, (f a).isProper = true)
    (m : SortedMap α) : (ofMap f m).isProper = true := by
  refine areProperMembers_iff.2 fun e he => ?_
  obtain ⟨a, -, rfl⟩ := List.mem_map.1 he
  exact h a.2

end Bazaar.Json
