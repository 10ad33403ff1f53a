import Bazaar.Json.Record
import Bazaar.Proofs.Except

/-!
Members of objects by name. A record and a variant are read by the names of their members, so
neither the order of the members matters nor what stands among them under other names. Main
statements: the members of a record are found after a rearrangement (`Rearranged.agree`), and the
order of the members is no matter to the reader of a map (`ignoresOrder_map?`).
-/

namespace Bazaar

/-! ### Entries with distinct keys -/

section Entries

variable {α β : Type} {es fs : List (String × α)} {k : String}

theorem lookup_filter {p : String → Bool} (h : p k = true) (es : List (String × α)) :
    (es.filter fun e => p e.1).lookup k = es.lookup k := by
  induction es with
  | nil => rfl
  | cons e es ih =>
    obtain ⟨l, a⟩ := e
    by_cases hk : k = l
    · subst hk
      have hkept : ((k, a) :: es).filter (fun e => p e.1) = (k, a) :: es.filter fun e => p e.1 :=
        List.filter_cons_of_pos h
      rw [hkept, List.lookup_cons_self, List.lookup_cons_self]
    · have hbeq : (k == l) = false := by simpa using hk
      rw [List.filter_cons, List.lookup_cons, hbeq]
      split
      · rw [List.lookup_cons, hbeq]
        exact ih
      · exact ih

theorem lookup_of_mem {a : α} (hs : (es.map (·.1)).Nodup) (h : (k, a) ∈ es) :
    es.lookup k = some a := by
  induction es with
  | nil => cases h
  | cons e es ih =>
    obtain ⟨l, b⟩ := e
    obtain ⟨hnot, hes⟩ := List.nodup_cons.1 hs
    rcases List.mem_cons.1 h with he | hmem
    · obtain ⟨rfl, rfl⟩ := Prod.mk.inj he
      exact List.lookup_cons_self
    · have hk : k ∈ es.map (·.1) := List.mem_map.2 ⟨(k, a), hmem, rfl⟩
      have hbeq : (k == l) = false := by simpa using ne_of_mem_of_not_mem hk hnot
      rw [List.lookup_cons, hbeq]
      exact ih hes hmem

theorem mem_of_lookup {a : α} (h : es.lookup k = some a) : (k, a) ∈ es := by
  obtain ⟨before, after, rfl, -⟩ := List.lookup_eq_some_iff.1 h
  exact List.mem_append_right before List.mem_cons_self

/-- Where no key stands twice, the order is no matter to a look-up. -/
theorem lookup_eq_of_perm (h : es.Perm fs) (hs : (es.map (·.1)).Nodup) :
    es.lookup k = fs.lookup k := by
  have hfs : (fs.map (·.1)).Nodup := (h.map _).nodup_iff.1 hs
  refine Option.ext fun a => ⟨fun ha => ?_, fun ha => ?_⟩
  · exact lookup_of_mem hfs (h.mem_iff.1 (mem_of_lookup ha))
  · exact lookup_of_mem hs (h.mem_iff.2 (mem_of_lookup ha))

/-- The map of a list of entries holds what is found there. -/
theorem SortedMap.find_eq_lookup (k : String) (es : List (String × α)) :
    SortedMap.find k es = es.lookup k := by
  induction es with
  | nil => rfl
  | cons e es ih =>
    obtain ⟨l, a⟩ := e
    by_cases h : k = l
    · rw [h, SortedMap.find, if_pos rfl, List.lookup_cons_self]
    · have hbeq : (k == l) = false := by simpa using h
      rw [SortedMap.find, if_neg h, List.lookup_cons, hbeq]
      exact ih

/-- Where no key stands twice, the order is no matter to the map of the entries. -/
theorem SortedMap.ofList_eq_of_perm (h : es.Perm fs) (hs : (es.map (·.1)).Nodup) :
    SortedMap.ofList es = SortedMap.ofList fs := by
  refine SortedMap.ext_get? fun k => ?_
  have hreverse : es.reverse.Perm fs.reverse :=
    (List.reverse_perm es).trans (h.trans (List.reverse_perm fs).symm)
  have hnodup : (es.reverse.map (·.1)).Nodup :=
    ((List.reverse_perm es).map _).nodup_iff.2 hs
  rw [SortedMap.get?_ofList, SortedMap.get?_ofList, SortedMap.find_eq_lookup,
    SortedMap.find_eq_lookup, lookup_eq_of_perm hreverse hnodup]

/-- What is made of the items one by one comes in the order of the items. -/
theorem rel_mapM_of_perm {f : α → Option β} {as bs : List α} (h : as.Perm bs) :
    Option.Rel List.Perm (as.mapM f) (bs.mapM f) := by
  induction h with
  | nil => exact .some (List.Perm.refl _)
  | @cons a as bs _ ih =>
    rw [List.mapM_cons, List.mapM_cons]
    generalize as.mapM f = x at ih
    generalize bs.mapM f = y at ih
    cases f a with
    | none => exact .none
    | some b =>
      cases ih with
      | none => exact .none
      | some h => exact .some (h.cons b)
  | swap a b as =>
    simp only [List.mapM_cons]
    cases f a <;> cases f b <;> cases as.mapM f
    case some.some.some => exact .some (List.Perm.swap _ _ _)
    all_goals exact .none
  | @trans as bs cs _ _ ih ih' =>
    -- what is made of the list between the two is there for both or for neither
    generalize as.mapM f = x at ih
    generalize bs.mapM f = y at ih ih'
    generalize cs.mapM f = z at ih'
    cases ih with
    | none => exact ih'
    | some h =>
      cases ih' with
      | some h' => exact .some (h.trans h')

end Entries

namespace Json

variable {ms ns : List (String × Json)} {name : String} {names : List String}

/-! ### Values that are plain -/

mutual

/-- Whether a value is plain: every part of it has a value, and no object in it has two members of
one name. -/
def isPlain : Json → Bool
  | .array items => arePlain items
  | .object members => (members.map (·.1)).Nodup && arePlainMembers members
  | .invalid => false
  | _ => true

def arePlain : List Json → Bool
  | [] => true
  | v :: vs => v.isPlain && arePlain vs

def arePlainMembers : List (String × Json) → Bool
  | [] => true
  | (_, v) :: ms => v.isPlain && arePlainMembers ms

end

mutual

theorem isValid_of_isPlain : ∀ {v : Json}, v.isPlain = true → v.isValid = true
  | .null, _ | .bool _, _ | .int _, _ | .double _, _ | .text _, _ => rfl
  | .array _, h => areValid_of_arePlain h
  | .object _, h => areValidMembers_of_arePlainMembers (Bool.and_eq_true_iff.1 h).2

theorem areValid_of_arePlain : ∀ {vs : List Json}, arePlain vs = true → areValid vs = true
  | [], _ => rfl
  | _ :: _, h => by
    obtain ⟨hv, hvs⟩ := Bool.and_eq_true_iff.1 h
    exact Bool.and_eq_true_iff.2 ⟨isValid_of_isPlain hv, areValid_of_arePlain hvs⟩

theorem areValidMembers_of_arePlainMembers :
    ∀ {ms : List (String × Json)}, arePlainMembers ms = true → areValidMembers ms = true
  | [], _ => rfl
  | (_, _) :: _, h => by
    obtain ⟨hv, hms⟩ := Bool.and_eq_true_iff.1 h
    exact Bool.and_eq_true_iff.2 ⟨isValid_of_isPlain hv, areValidMembers_of_arePlainMembers hms⟩

end

theorem arePlainMembers_iff : arePlainMembers ms = true ↔ ∀ m ∈ ms, m.2.isPlain = true := by
  induction ms with
  | nil => simp [arePlainMembers]
  | cons m ms ih => simp [arePlainMembers, ih]

theorem isPlain_object : (object ms).isPlain = true ↔
    (ms.map (·.1)).Nodup ∧ ∀ m ∈ ms, m.2.isPlain = true := by
  rw [isPlain, Bool.and_eq_true_iff, decide_eq_true_iff, arePlainMembers_iff]

theorem nodup_of_isPlain (h : (object ms).isPlain = true) : (ms.map (·.1)).Nodup :=
  (isPlain_object.1 h).1

theorem isPlain_filter (h : (object ms).isPlain = true) (p : String × Json → Bool) :
    (object (ms.filter p)).isPlain = true := by
  obtain ⟨hnodup, hms⟩ := isPlain_object.1 h
  exact isPlain_object.2 ⟨(List.filter_sublist.map _).nodup hnodup,
    fun m hm => hms m (List.mem_filter.1 hm).1⟩

theorem isPlain_of_lookup {v : Json} (h : (object ms).isPlain = true)
    (hv : ms.lookup name = some v) : v.isPlain = true :=
  (isPlain_object.1 h).2 _ (mem_of_lookup hv)

theorem areValidMembers_iff : areValidMembers ms = true ↔ ∀ m ∈ ms, m.2.isValid = true := by
  induction ms with
  | nil => simp [areValidMembers]
  | cons m ms ih => simp [areValidMembers, ih]

theorem isValid_filter (h : (object ms).isValid = true) (p : String × Json → Bool) :
    (object (ms.filter p)).isValid = true :=
  areValidMembers_iff.2 fun m hm => areValidMembers_iff.1 h m (List.mem_filter.1 hm).1

theorem isValid_of_lookup {v : Json} (h : (object ms).isValid = true)
    (hv : ms.lookup name = some v) : v.isValid = true :=
  areValidMembers_iff.1 h _ (mem_of_lookup hv)

/-! ### Members in another order -/

/-- The same value or, of an object, the same members in another order. -/
inductive Reordered : Json → Json → Prop
  | same (v : Json) : Reordered v v
  | object {ms ns : List (String × Json)} (h : ms.Perm ns) : Reordered (.object ms) (.object ns)

/-- A reader that does not tell a plain value from a related one. -/
def Respects {α : Type} (R : Json → Json → Prop) (read : Json → Option α) : Prop :=
  ∀ v w, R v w → v.isPlain = true → w.isValid = true → read v = read w

/-- A reader to which the order of the members of a plain object is no matter. -/
abbrev IgnoresOrder {α : Type} (read : Json → Option α) : Prop := Respects Reordered read

theorem ignoresOrder_of_object {α : Type} {read : Json → Option α}
    (h : ∀ ms ns, ms.Perm ns → (object ms).isPlain = true → read (.object ms) = read (.object ns)) :
    IgnoresOrder read := by
  rintro v w (_ | hperm) hv -
  · rfl
  · exact h _ _ hperm hv

/-- What is read of no object at all. -/
theorem ignoresOrder_of_none {α : Type} {read : Json → Option α}
    (h : ∀ ms, read (.object ms) = none) : IgnoresOrder read :=
  ignoresOrder_of_object fun ms ns _ _ => by rw [h ms, h ns]

/-- The entries that are made of members have their names. -/
theorem keys_of_mapM {α : Type} {read : Json → Option α} {es : List (String × α)}
    (h : ms.mapM (fun m => do some (m.1, ← read m.2)) = some es) :
    es.map (·.1) = ms.map (·.1) := by
  induction ms generalizing es with
  | nil =>
    cases h
    rfl
  | cons m ms ih =>
    obtain ⟨e, he, es, hes, rfl⟩ := mapM_cons_eq_some_iff.1 h
    obtain ⟨a, -, ha⟩ := Option.bind_eq_some_iff.1 he
    cases ha
    rw [List.map_cons, List.map_cons, ih hes]

/-- **The order of the members is no matter to a map**: its entries are put in order anyway. -/
theorem ignoresOrder_map? {α : Type} (read : Json → Option α) : IgnoresOrder (map? read) := by
  refine ignoresOrder_of_object fun ms ns hperm hms => ?_
  have hrel := rel_mapM_of_perm (f := fun m : String × Json => do some (m.1, ← read m.2)) hperm
  rw [map?, map?]
  generalize hes : ms.mapM (fun m => do some (m.1, ← read m.2)) = es? at hrel ⊢
  generalize ns.mapM (fun m => do some (m.1, ← read m.2)) = fs? at hrel ⊢
  cases hrel with
  | none => rfl
  | some h =>
    have hnodup := nodup_of_isPlain hms
    rw [← keys_of_mapM hes] at hnodup
    exact congrArg some (SortedMap.ofList_eq_of_perm h hnodup)

/-- A variant has no members to put in another order. -/
theorem ignoresOrder_variant? (isEmpty : Json → Bool) : IgnoresOrder (variant? isEmpty) := by
  refine ignoresOrder_of_object fun ms ns hperm _ => ?_
  match ms, ns, hperm.length_eq with
  | [], [], _ => rfl
  | [m], [n], _ =>
    obtain rfl : m = n := by simpa using hperm
    rfl
  | _ :: _ :: _, _ :: _ :: _, _ => rfl

theorem ignoresOrder_nullable? {α : Type} {read : Json → Option α}
    (h : ∀ ms, read (.object ms) = none) : IgnoresOrder (nullable? read) :=
  ignoresOrder_of_none fun ms => congrArg (Option.map some) (h ms)

/-! ### Members among others -/

/-- **Members rearranged**: each with a value that is related to what it was, in any order, and
among others with names that are not among the given ones. -/
inductive Rearranged (R : String → Json → Json → Prop) (names : List String) :
    List (String × Json) → List (String × Json) → Prop
  | nil : Rearranged R names [] []
  | kept {name : String} {v w : Json} {ms ns : List (String × Json)} (h : R name v w)
      (hs : Rearranged R names ms ns) : Rearranged R names ((name, v) :: ms) ((name, w) :: ns)
  | added {name : String} {v : Json} {ms ns : List (String × Json)} (h : name ∉ names)
      (hs : Rearranged R names ms ns) : Rearranged R names ms ((name, v) :: ns)
  | moved {ms ns os : List (String × Json)} (hs : Rearranged R names ms ns) (h : ns.Perm os) :
      Rearranged R names ms os

/-- The members with the given names. -/
def named (names : List String) (ms : List (String × Json)) : List (String × Json) :=
  ms.filter fun m => names.contains m.1

/-- None of the given names stands twice. -/
def Once (names : List String) (ms : List (String × Json)) : Prop :=
  ((named names ms).map (·.1)).Nodup

variable {R : String → Json → Json → Prop}

theorem lookup_named (hname : name ∈ names) (ms : List (String × Json)) :
    (named names ms).lookup name = ms.lookup name :=
  lookup_filter (List.contains_iff_mem.2 hname) ms

theorem Once.of_sublist (h : Once names ms) (hsub : ns.Sublist ms) : Once names ns :=
  ((hsub.filter _).map _).nodup h

theorem Once.mono {names' : List String} (h : Once names ms) (hsub : names' ⊆ names) :
    Once names' ms := by
  have hnamed : named names' ms = named names' (named names ms) := by
    rw [named, named, named, List.filter_filter]
    refine List.filter_congr fun m _ => ?_
    rw [Bool.eq_iff_iff, Bool.and_eq_true]
    exact ⟨fun hm => ⟨hm, List.contains_iff_mem.2 (hsub (List.contains_iff_mem.1 hm))⟩, And.left⟩
  rw [Once, hnamed]
  exact (List.filter_sublist.map _).nodup h

theorem once_of_nodup (h : (ms.map (·.1)).Nodup) (names : List String) : Once names ms :=
  (List.filter_sublist.map _).nodup h

/-- Rearranging neither doubles a name nor drops one. -/
theorem Rearranged.perm_names (h : Rearranged R names ms ns) :
    ((named names ms).map (·.1)).Perm ((named names ns).map (·.1)) := by
  induction h with
  | nil => exact List.Perm.refl _
  | @kept name v w ms ns _ _ ih =>
    by_cases hname : names.contains name
    · have hkept (v : Json) (l : List (String × Json)) :
          named names ((name, v) :: l) = (name, v) :: named names l := List.filter_cons_of_pos hname
      rw [hkept, hkept]
      exact ih.cons name
    · have hleft (v : Json) (l : List (String × Json)) :
          named names ((name, v) :: l) = named names l := List.filter_cons_of_neg hname
      rwa [hleft, hleft]
  | @added name v ms ns hname _ ih =>
    have hleft : named names ((name, v) :: ns) = named names ns :=
      List.filter_cons_of_neg (mt List.contains_iff_mem.1 hname)
    rwa [hleft]
  | moved _ h ih => exact ih.trans ((h.filter _).map _)

theorem Rearranged.once (h : Rearranged R names ms ns) (hms : Once names ms) : Once names ns :=
  h.perm_names.nodup_iff.1 hms

/-- **Rearranged members are found**: each of those with the given names, or none on both sides. -/
theorem Rearranged.rel_lookup (h : Rearranged R names ms ns) (hms : Once names ms) :
    ∀ name ∈ names, Option.Rel (R name) (ms.lookup name) (ns.lookup name) := by
  induction h with
  | nil => exact fun _ _ => .none
  | @kept other v w ms ns h _ ih =>
    intro name hname
    by_cases he : name = other
    · subst he
      rw [List.lookup_cons_self, List.lookup_cons_self]
      exact .some h
    · have hbeq : (name == other) = false := by simpa using he
      rw [List.lookup_cons, List.lookup_cons, hbeq]
      exact ih (hms.of_sublist (List.sublist_cons_self _ _)) name hname
  | @added other v ms ns h _ ih =>
    intro name hname
    have hbeq : (name == other) = false := by simpa using ne_of_mem_of_not_mem hname h
    rw [List.lookup_cons, hbeq]
    exact ih hms name hname
  | @moved ms ns os hs h ih =>
    intro name hname
    -- the order matters to a look-up only where a name stands twice
    have hperm : (named names ns).Perm (named names os) := h.filter _
    rw [← lookup_named hname os, ← lookup_eq_of_perm hperm (hs.once hms), lookup_named hname]
    exact ih hms name hname

/-! ### Records and variants with each name once -/

theorem Once.members? (h : Once names ms) : (object ms).members? names = some (named names ms) :=
  if_pos h

theorem filter_eq_lookup (h : (ms.map (·.1)).Nodup) (name : String) :
    ms.filter (·.1 == name) = ((ms.lookup name).map fun v => (name, v)).toList := by
  induction ms with
  | nil => rfl
  | cons m ms ih =>
    obtain ⟨other, v⟩ := m
    obtain ⟨hnot, hms⟩ := List.nodup_cons.1 h
    by_cases he : other = name
    · subst he
      have hnone : ms.lookup other = none := by
        rw [List.lookup_eq_none_iff]
        intro m hm
        simpa using ne_of_mem_of_not_mem (List.mem_map_of_mem hm) hnot |>.symm
      rw [List.filter_cons, ih hms, hnone, List.lookup_cons_self, beq_self_eq_true, if_pos rfl]
      rfl
    · have hbeq : (name == other) = false := by simpa using Ne.symm he
      rw [List.filter_cons_of_neg (by simpa using he), ih hms, List.lookup_cons, hbeq]

/-- A tag that stands once is found wherever it stands. -/
theorem Once.tagged? (h : Once names ms) (hname : name ∈ names) : (object ms).tagged? name =
    (ms.lookup name).map fun tag => (tag, .object (ms.filter (·.1 != name))) := by
  have htags : ms.filter (·.1 == name) = (named names ms).filter (·.1 == name) := by
    rw [named, List.filter_filter]
    refine List.filter_congr fun m _ => ?_
    by_cases hm : m.1 = name
    · rw [hm, List.contains_iff_mem.2 hname, Bool.and_true]
    · rw [beq_eq_false_iff_ne.2 hm, Bool.false_and]
  rw [Json.tagged?, htags, filter_eq_lookup h name, lookup_named hname]
  cases ms.lookup name <;> rfl

/-! ### Two documents -/

/-- Members of two objects that are **alike** as far as the given names go: each of those stands at
most once, and what stands under it on the left is related to what does on the right. -/
structure Alike (R : String → Json → Json → Prop) (names : List String)
    (ms ns : List (String × Json)) : Prop where
  plain : (object ms).isPlain = true
  valid : (object ns).isValid = true
  once : Once names ns
  rel_lookup : ∀ name ∈ names, Option.Rel (R name) (ms.lookup name) (ns.lookup name)

theorem Rearranged.alike (h : Rearranged R names ms ns) (hms : (object ms).isPlain = true)
    (hns : (object ns).isValid = true) : Alike R names ms ns :=
  have honce := once_of_nodup (nodup_of_isPlain hms) names
  ⟨hms, hns, h.once honce, h.rel_lookup honce⟩

namespace Alike

theorem mono {names' : List String} (h : Alike R names ms ns) (hsub : names' ⊆ names) :
    Alike R names' ms ns :=
  ⟨h.plain, h.valid, h.once.mono hsub, fun name hname => h.rel_lookup name (hsub hname)⟩

theorem filter (h : Alike R names ms ns) (p : String → Bool) (hp : ∀ name ∈ names, p name = true) :
    Alike R names (ms.filter fun m => p m.1) (ns.filter fun m => p m.1) where
  plain := isPlain_filter h.plain _
  valid := isValid_filter h.valid _
  once := h.once.of_sublist List.filter_sublist
  rel_lookup name hname := by
    rw [lookup_filter (hp name hname), lookup_filter (hp name hname)]
    exact h.rel_lookup name hname

variable {α : Type} {read : Json → Option α}

theorem map_lookup (h : Alike R names ms ns) (hname : name ∈ names)
    (hread : Respects (R name) read) : (ms.lookup name).map read = (ns.lookup name).map read := by
  have hrel := h.rel_lookup name hname
  have hplain : ∀ v, ms.lookup name = some v → v.isPlain = true :=
    fun v hv => isPlain_of_lookup h.plain hv
  have hvalid : ∀ w, ns.lookup name = some w → w.isValid = true :=
    fun w hw => isValid_of_lookup h.valid hw
  generalize ms.lookup name = v? at hrel hplain ⊢
  generalize ns.lookup name = w? at hrel hvalid ⊢
  cases hrel with
  | none => rfl
  | some hvw => exact congrArg some (hread _ _ hvw (hplain _ rfl) (hvalid _ rfl))

theorem required? (h : Alike R names ms ns) (hread : Respects (R name) read)
    (hname : name ∈ names) :
    Members.required? ms name read = Members.required? ns name read := by
  have heq (l : List (String × Json)) :
      Members.required? l name read = ((l.lookup name).map read).join := by
    unfold Members.required?
    cases l.lookup name <;> rfl
  rw [heq, heq, h.map_lookup hname hread]

theorem default? (h : Alike R names ms ns) (hread : Respects (R name) read)
    (hname : name ∈ names) (d : α) :
    Members.default? ms name read d = Members.default? ns name read d := by
  have heq (l : List (String × Json)) :
      Members.default? l name read d = ((l.lookup name).map read).getD (some d) := by
    unfold Members.default?
    cases l.lookup name <;> rfl
  rw [heq, heq, h.map_lookup hname hread]

/-- **Records are read alike** if what is made of their members is. -/
theorem bind_members? {k : Members → Option α} (h : Alike R names ms ns)
    (hk : ∀ ms ns, Alike R names ms ns → k ms = k ns) :
    ((object ms).members? names).bind k = ((object ns).members? names).bind k := by
  have hms := once_of_nodup (nodup_of_isPlain h.plain) names
  rw [hms.members?, h.once.members?, Option.bind_some, Option.bind_some]
  exact hk _ _ (h.filter names.contains fun _ => List.contains_iff_mem.2)

/-- **Variants are read alike** if what is made of their tags and of the rest is. -/
theorem bind_tagged? {k : Json × Json → Option α} (h : Alike R names ms ns) (hname : name ∈ names)
    (hk : ∀ tag tag', ms.lookup name = some tag → R name tag tag' →
      k (tag, .object (ms.filter (·.1 != name))) = k (tag', .object (ns.filter (·.1 != name)))) :
    ((object ms).tagged? name).bind k = ((object ns).tagged? name).bind k := by
  have hms := once_of_nodup (nodup_of_isPlain h.plain) names
  have hrel := h.rel_lookup name hname
  rw [hms.tagged? hname, h.once.tagged? hname]
  generalize ms.lookup name = tag at hk hrel ⊢
  generalize ns.lookup name = tag' at hrel ⊢
  cases hrel with
  | none => rfl
  | some htag => exact hk _ _ rfl htag

end Alike

end Json

end Bazaar
