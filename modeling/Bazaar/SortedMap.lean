/-!
Maps from strings to values, kept as a list of entries in strictly ascending order of the keys.
The order of strings is that of their code points. Each operation is described by what it does to
the value under a key.
-/

namespace Bazaar

universe u v

/-- Finite maps from strings, each key once and in ascending order. -/
structure SortedMap (α : Type u) where
  entries : List (String × α)
  sorted : entries.Pairwise (fun p q => p.1 < q.1)

namespace SortedMap

variable {α : Type u} {β : Type v}

instance [DecidableEq α] : DecidableEq (SortedMap α) := fun m n =>
  decidable_of_iff (m.entries = n.entries) <| by cases m; cases n; simp

/-- The map with no entries. -/
def empty : SortedMap α := ⟨[], .nil⟩

instance : EmptyCollection (SortedMap α) := ⟨empty⟩

instance : Inhabited (SortedMap α) := ⟨empty⟩

/-- The first value under a key in a list of entries. -/
def find (k : String) : List (String × α) → Option α
  | [] => none
  | e :: es => if k = e.1 then some e.2 else find k es

/-- The value under a key. -/
def get? (m : SortedMap α) (k : String) : Option α := find k m.entries

/-- The value under a key, or a given one if there is none. -/
def getD (m : SortedMap α) (k : String) (d : α) : α := (m.get? k).getD d

/-- The keys in ascending order. -/
def keys (m : SortedMap α) : List String := m.entries.map (·.1)

/-- The values in the order of their keys. -/
def values (m : SortedMap α) : List α := m.entries.map (·.2)

/-- The number of entries. -/
def size (m : SortedMap α) : Nat := m.entries.length

/-- Whether there are no entries. -/
def isEmpty (m : SortedMap α) : Bool := m.entries.isEmpty

/-! ### Putting an entry -/

/-- The entries with `v` put under `k`. -/
def put (k : String) (v : α) : List (String × α) → List (String × α)
  | [] => [(k, v)]
  | (l, w) :: es =>
    if k < l then (k, v) :: (l, w) :: es
    else if l < k then (l, w) :: put k v es
    else (k, v) :: es

theorem eq_of_not_lt {k l : String} (h : ¬ k < l) (h' : ¬ l < k) : k = l :=
  String.le_antisymm (String.not_lt.1 h') (String.not_lt.1 h)

theorem key_of_mem_put {k : String} {v : α} {es : List (String × α)} {p : String × α}
    (h : p ∈ put k v es) : p.1 = k ∨ p ∈ es := by
  induction es with
  | nil =>
    simp only [put, List.mem_singleton] at h
    exact .inl (by rw [h])
  | cons e es ih =>
    obtain ⟨l, w⟩ := e
    simp only [put] at h
    split at h
    · rcases List.mem_cons.1 h with h | h
      · exact .inl (by rw [h])
      · exact .inr h
    · split at h
      · rcases List.mem_cons.1 h with h | h
        · exact .inr (h ▸ List.mem_cons_self)
        · exact (ih h).imp id (List.mem_cons_of_mem _)
      · rcases List.mem_cons.1 h with h | h
        · exact .inl (by rw [h])
        · exact .inr (List.mem_cons_of_mem _ h)

theorem pairwise_put {k : String} {v : α} {es : List (String × α)}
    (h : es.Pairwise (fun p q => p.1 < q.1)) : (put k v es).Pairwise (fun p q => p.1 < q.1) := by
  induction es with
  | nil => simp [put]
  | cons e es ih =>
    obtain ⟨l, w⟩ := e
    obtain ⟨hl, hes⟩ := List.pairwise_cons.1 h
    simp only [put]
    split
    · rename_i hk
      refine List.pairwise_cons.2 ⟨fun p hp => ?_, h⟩
      rcases List.mem_cons.1 hp with rfl | hp
      · exact hk
      · exact String.lt_trans hk (hl p hp)
    · rename_i hk
      split
      · rename_i hk'
        refine List.pairwise_cons.2 ⟨fun p hp => ?_, ih hes⟩
        rcases key_of_mem_put hp with hp | hp
        · exact hp ▸ hk'
        · exact hl p hp
      · rename_i hk'
        have e : k = l := eq_of_not_lt hk hk'
        exact List.pairwise_cons.2 ⟨fun p hp => e ▸ hl p hp, hes⟩

/-- The map with `v` put under `k`, in the place of what was there. -/
def insert (m : SortedMap α) (k : String) (v : α) : SortedMap α :=
  ⟨put k v m.entries, pairwise_put m.sorted⟩

/-- The map of a list of entries, of which a later one takes the place of an earlier. -/
def ofList (es : List (String × α)) : SortedMap α := es.foldl (fun m e => m.insert e.1 e.2) empty

/-- The map without the entry under `k`. -/
def erase (m : SortedMap α) (k : String) : SortedMap α :=
  ⟨m.entries.filter (·.1 != k), m.sorted.filter _⟩

/-- The map with a function applied to every value. -/
def map (f : α → β) (m : SortedMap α) : SortedMap β :=
  ⟨m.entries.map fun e => (e.1, f e.2), by
    rw [List.pairwise_map]; exact m.sorted⟩

/-! ### What the operations do to the value under a key -/

theorem find_eq_none_of_lt {k : String} {es : List (String × α)} (h : ∀ p ∈ es, k < p.1) :
    find k es = none := by
  induction es with
  | nil => rfl
  | cons e es ih =>
    have hk : k ≠ e.1 := fun hk => String.lt_irrefl k (by simpa [← hk] using h e List.mem_cons_self)
    rw [find, if_neg hk]
    exact ih fun p hp => h p (List.mem_cons_of_mem _ hp)

theorem find_put {k l : String} {v : α} {es : List (String × α)} :
    find l (put k v es) = if l = k then some v else find l es := by
  induction es with
  | nil => rfl
  | cons e es ih =>
    simp only [put]
    split
    · rfl
    · rename_i hk
      split
      · rename_i hk'
        by_cases h : l = e.1
        · have hne : e.1 ≠ k := fun hl => String.lt_irrefl _ (hl ▸ hk')
          simp [find, h, hne]
        · simp [find, h, ih]
      · rename_i hk'
        have e : k = e.1 := eq_of_not_lt hk hk'
        by_cases h : l = k <;> simp [find, ← e, h]

theorem mem_of_find {k : String} {v : α} {es : List (String × α)} (h : find k es = some v) :
    (k, v) ∈ es := by
  induction es with
  | nil => simp [find] at h
  | cons e es ih =>
    rw [find] at h
    split at h
    · rename_i hk
      rw [hk, ← Option.some.inj h]
      exact List.mem_cons_self
    · exact List.mem_cons_of_mem _ (ih h)

theorem find_of_mem {k : String} {v : α} {es : List (String × α)}
    (hs : es.Pairwise (fun p q => p.1 < q.1)) (h : (k, v) ∈ es) : find k es = some v := by
  induction es with
  | nil => simp at h
  | cons e es ih =>
    obtain ⟨hl, hs⟩ := List.pairwise_cons.1 hs
    rcases List.mem_cons.1 h with rfl | h
    · simp [find]
    · have hk : k ≠ e.1 := fun hk => String.lt_irrefl k (by simpa [← hk] using hl _ h)
      rw [find, if_neg hk, ih hs h]

@[simp] theorem get?_empty (k : String) : (empty : SortedMap α).get? k = none := rfl

@[simp] theorem get?_insert (m : SortedMap α) (k l : String) (v : α) :
    (m.insert k v).get? l = if l = k then some v else m.get? l := find_put

theorem mem_entries_iff {m : SortedMap α} {k : String} {v : α} :
    (k, v) ∈ m.entries ↔ m.get? k = some v :=
  ⟨find_of_mem m.sorted, mem_of_find⟩

theorem find_map (f : α → β) (k : String) (es : List (String × α)) :
    find k (es.map fun e => (e.1, f e.2)) = (find k es).map f := by
  induction es with
  | nil => rfl
  | cons e es ih => by_cases h : k = e.1 <;> simp [find, h, ih]

@[simp] theorem get?_map (f : α → β) (m : SortedMap α) (k : String) :
    (m.map f).get? k = (m.get? k).map f := find_map f k m.entries

theorem find_filter (k l : String) (es : List (String × α)) :
    find l (es.filter (·.1 != k)) = if l = k then none else find l es := by
  induction es with
  | nil => simp [find]
  | cons e es ih =>
    by_cases h : e.1 = k
    · rw [List.filter_cons_of_neg (by simp [h]), ih, find, h]
      split <;> rfl
    · rw [List.filter_cons_of_pos (by simp [h]), find, find, ih]
      split
      · rename_i hl
        rw [if_neg (hl ▸ h)]
      · rfl

@[simp] theorem get?_erase (m : SortedMap α) (k l : String) :
    (m.erase k).get? l = if l = k then none else m.get? l := find_filter k l m.entries

theorem isSome_find_iff {k : String} {es : List (String × α)} :
    (find k es).isSome = true ↔ k ∈ es.map (·.1) := by
  induction es with
  | nil => simp [find]
  | cons e es ih => by_cases h : k = e.1 <;> simp [find, h, ih]

theorem mem_keys_iff {m : SortedMap α} {k : String} : k ∈ m.keys ↔ (m.get? k).isSome :=
  isSome_find_iff.symm

theorem pairwise_key_ne (m : SortedMap α) : m.entries.Pairwise (fun p q => p.1 ≠ q.1) := by
  refine m.sorted.imp fun {p q} hlt he => ?_
  rw [he] at hlt
  exact String.lt_irrefl _ hlt

theorem nodup_keys (m : SortedMap α) : m.keys.Nodup := List.pairwise_map.2 m.pairwise_key_ne

/-- A map is what it holds under each key. -/
theorem ext_get? {m n : SortedMap α} (h : ∀ k, m.get? k = n.get? k) : m = n := by
  have hnodup (o : SortedMap α) : o.entries.Nodup :=
    o.pairwise_key_ne.imp fun hne he => hne (congrArg Prod.fst he)
  have hperm : m.entries.Perm n.entries := by
    refine (List.perm_ext_iff_of_nodup (hnodup m) (hnodup n)).2 fun p => ?_
    obtain ⟨k, v⟩ := p
    rw [mem_entries_iff, mem_entries_iff, h]
  have hentries : m.entries = n.entries :=
    hperm.eq_of_pairwise (fun _ _ _ _ hlt hgt => absurd hgt (String.lt_asymm hlt)) m.sorted n.sorted
  cases m
  cases n
  cases hentries
  rfl

/-! ### Entries put in order -/

theorem find_append (k : String) (es fs : List (String × α)) :
    find k (es ++ fs) = (find k es).or (find k fs) := by
  induction es with
  | nil => rfl
  | cons e es ih =>
    rw [List.cons_append, find, find]
    split
    · rfl
    · exact ih

theorem get?_foldl_insert (m : SortedMap α) (es : List (String × α)) (k : String) :
    (es.foldl (fun m e => m.insert e.1 e.2) m).get? k = (find k es.reverse).or (m.get? k) := by
  induction es generalizing m with
  | nil => simp [find]
  | cons e es ih =>
    rw [List.foldl_cons, ih, get?_insert, List.reverse_cons, find_append, Option.or_assoc, find]
    split <;> rfl

/-- Of the entries with a key the last one counts. -/
theorem get?_ofList (es : List (String × α)) (k : String) :
    (ofList es).get? k = find k es.reverse := by
  rw [ofList, get?_foldl_insert, get?_empty, Option.or_none]

theorem put_eq_append {k : String} {v : α} {es : List (String × α)} (h : ∀ p ∈ es, p.1 < k) :
    put k v es = es ++ [(k, v)] := by
  induction es with
  | nil => rfl
  | cons e es ih =>
    have hk : e.1 < k := h e List.mem_cons_self
    rw [put, if_neg (String.lt_asymm hk), if_pos hk,
      ih fun p hp => h p (List.mem_cons_of_mem _ hp), List.cons_append]

theorem entries_foldl_insert {m : SortedMap α} {es : List (String × α)}
    (h : (m.entries ++ es).Pairwise (fun p q => p.1 < q.1)) :
    (es.foldl (fun m e => m.insert e.1 e.2) m).entries = m.entries ++ es := by
  induction es generalizing m with
  | nil => simp
  | cons e es ih =>
    have hlt : ∀ p ∈ m.entries, p.1 < e.1 := fun p hp =>
      (List.pairwise_append.1 h).2.2 p hp e List.mem_cons_self
    have hput : (m.insert e.1 e.2).entries = m.entries ++ [e] := put_eq_append hlt
    have hrest : ((m.insert e.1 e.2).entries ++ es).Pairwise (fun p q => p.1 < q.1) := by
      rw [hput, List.append_assoc]
      exact h
    rw [List.foldl_cons, ih hrest, hput, List.append_assoc, List.singleton_append]

/-- A map is made of its own entries. -/
theorem ofList_entries (m : SortedMap α) : ofList m.entries = m := by
  have h : (ofList m.entries).entries = m.entries := entries_foldl_insert m.sorted
  cases hm : ofList m.entries with
  | mk es hes =>
    rw [hm] at h
    subst h
    rfl

end SortedMap

end Bazaar
