import Bazaar.Proofs.Wire.Nesting
import Bazaar.Proofs.Wire.Rewriting

/-!
Whatever bytes are read, what they say could also have been made directly: no way of reading goes
around the making of criteria, schemas, descriptions and queries, or around the junctions that join
two or more. A condition has the message that it was read from, but for empty sets, and what is
read and written again has bytes that are read and written as they are. Main statements:
`Condition.toWire_of_ofWire` and `decode_sound`.
-/

namespace Bazaar

namespace Wire

/-! ### Sets with no members -/

namespace Members

/-- The members, where none of any type count as no texts. -/
def retyped : Members → Members
  | .doubles [] | .bools [] | .ints [] | .places [] => .texts []
  | m => m

theorem depth_retyped (m : Members) : m.retyped.depth = m.depth := by
  unfold retyped
  split <;> rfl

end Members

/-- The test, where no members of any type count as no texts. -/
def Test.retyped : Test → Test
  | .membership m => .membership ⟨m.code, m.members.map Members.retyped⟩
  | t => t

theorem Test.depth_retyped (t : Test) : t.retyped.depth = t.depth := by
  cases t with
  | membership m =>
    obtain ⟨code, m?⟩ := m
    cases m? with
    | none => rfl
    | some m =>
      change max (m.retyped.depth + 1) 0 + 1 = max (m.depth + 1) 0 + 1
      rw [m.depth_retyped]
  | range | relation | circle => rfl

/-- The constraint, where no members of any type count as no texts. -/
def Constraint.retyped (c : Constraint) : Constraint := ⟨c.key, c.test.map Test.retyped⟩

theorem Constraint.depth_retyped (c : Constraint) : c.retyped.depth = c.depth := by
  rw [depth, retyped, Option.map_map, depth]
  congr 2
  exact funext Test.depth_retyped

namespace Condition

mutual

/-- The condition, where no members of any type count as no texts. -/
def retyped : Condition → Condition
  | .unset => .unset
  | .join j cs => .join j (retypedAll cs)
  | .not none => .not none
  | .not (some c) => .not (some c.retyped)
  | .leaf c => .leaf c.retyped

def retypedAll : List Condition → List Condition
  | [] => []
  | c :: cs => c.retyped :: retypedAll cs

end

mutual

theorem depth_retyped : (c : Condition) → c.retyped.depth = c.depth
  | .unset => rfl
  | .join _ cs => by rw [retyped, depth, depth, listDepth_retypedAll cs]
  | .not none => rfl
  | .not (some c) => by rw [retyped, depth, depth, depth_retyped c]
  | .leaf c => by rw [retyped, depth, depth, c.depth_retyped]

theorem listDepth_retypedAll : (cs : List Condition) → listDepth (retypedAll cs) = listDepth cs
  | [] => rfl
  | c :: cs => by
    rw [retypedAll, listDepth, listDepth, depth_retyped c, listDepth_retypedAll cs]

end

end Condition

end Wire

namespace Search

/-! ### What a criterion was read from -/

theorem present_eq_ok_iff {α : Type} {part : WirePart} {a? : Option α} {a : α} :
    present part a? = .ok a ↔ a? = some a := by
  cases a? <;> simp [present]

theorem relationCode?_of_ofRelationCode? {code : Int32} {k : Kind}
    (h : Kind.ofRelationCode? code = some k) : k.relationCode? = some code := by
  simpa using List.find?_some h

theorem membershipCode?_of_ofMembershipCode? {code : Int32} {k : Kind}
    (h : Kind.ofMembershipCode? code = some k) : k.membershipCode? = some code := by
  simpa using List.find?_some h

theorem test?_of_rangeOf {b : Wire.Bounds} {o : Operand} (h : rangeOf b = .ok o) :
    Kind.within.test? o = some (.range (some b)) := by
  unfold rangeOf at h
  split at h
  · cases h
    rfl
  · cases h
    rfl
  · cases h
    rfl
  · obtain ⟨low, hlow, h⟩ := bind_eq_ok_iff.1 h
    obtain ⟨high, hhigh, h⟩ := bind_eq_ok_iff.1 h
    rw [present_eq_ok_iff.1 hlow, present_eq_ok_iff.1 hhigh]
    cases h
    rfl

/-- What is put into values is taken out again. -/
theorem mapM_map_eq_some {α : Type} (f : Value → Option α) (g : α → Value)
    (h : ∀ a, f (g a) = some a) (as : List α) : (as.map g).mapM f = some as := by
  rw [mapM_map_eq_pure (h := id) h, List.map_id]
  rfl

theorem membersOf?_valuesOf (m : Wire.Members) : membersOf? (valuesOf m) = some m.retyped := by
  cases m with
  | texts ss =>
    have h := mapM_map_eq_some Value.text? Value.text (fun _ => rfl) ss
    cases ss with
    | nil => rfl
    | cons => exact congrArg (Option.map Wire.Members.texts) h
  | doubles ds =>
    have h := mapM_map_eq_some Value.double? Value.double (fun _ => rfl) ds
    cases ds with
    | nil => rfl
    | cons => exact congrArg (Option.map Wire.Members.doubles) h
  | bools bs =>
    have h := mapM_map_eq_some Value.bool? Value.bool (fun _ => rfl) bs
    cases bs with
    | nil => rfl
    | cons => exact congrArg (Option.map Wire.Members.bools) h
  | ints is =>
    have h := mapM_map_eq_some Value.int? Value.int (fun _ => rfl) is
    cases is with
    | nil => rfl
    | cons => exact congrArg (Option.map Wire.Members.ints) h
  | places ps =>
    have h := mapM_map_eq_some Value.place? Value.place (fun _ => rfl) ps
    cases ps with
    | nil => rfl
    | cons => exact congrArg (Option.map Wire.Members.places) h

namespace Criterion

/-- The criterion of a test that was made of what the test says has the test as its message. -/
theorem toWire_of_make {k : Kind} {o : Operand} {c : Criterion} {t : Wire.Test}
    (h : make k o = .ok c) (ht : k.test? o = some t) : c.toWire = t := by
  obtain ⟨rfl, rfl⟩ := make_eq_ok_iff.1 h
  exact Option.some.inj (c.test?_eq_some_toWire.symm.trans ht)

theorem toWire_of_ofWire {t : Wire.Test} {c : Criterion} (h : ofWire t = .ok c) :
    c.toWire = t.retyped := by
  cases t with
  | relation r =>
    obtain ⟨code, v?⟩ := r
    rw [ofWire] at h
    split at h
    · rename_i k hk
      obtain ⟨v, hv, h⟩ := bind_eq_ok_iff.1 h
      obtain rfl := present_eq_ok_iff.1 hv
      refine toWire_of_make h ?_
      rw [Kind.test?, relationCode?_of_ofRelationCode? hk]
      rfl
    · cases h
  | range b? =>
    obtain ⟨b, hb, hrange⟩ := bind_eq_ok_iff.1 h
    obtain ⟨o, ho, hmake⟩ := bind_eq_ok_iff.1 hrange
    rw [present_eq_ok_iff.1 hb]
    exact toWire_of_make hmake (test?_of_rangeOf ho)
  | membership m =>
    obtain ⟨code, m?⟩ := m
    rw [ofWire] at h
    split at h
    · rename_i k hk
      obtain ⟨m, hm, h⟩ := bind_eq_ok_iff.1 h
      obtain rfl := present_eq_ok_iff.1 hm
      refine toWire_of_make h ?_
      rw [Kind.test?, membershipCode?_of_ofMembershipCode? hk, membersOf?_valuesOf]
      rfl
    · cases h
  | circle c =>
    obtain ⟨center?, km⟩ := c
    obtain ⟨center, hcenter, hmake⟩ := bind_eq_ok_iff.1 h
    obtain rfl := present_eq_ok_iff.1 hcenter
    exact toWire_of_make hmake rfl

end Criterion

/-! ### What a condition was read from -/

namespace Condition

mutual

/-- **A condition that is read** has the message that it was read from, and joins two or more
wherever it joins any. -/
theorem sound_of_ofWire : (w : Wire.Condition) → {c : Condition} → ofWire w = .ok c →
    c.toWire = w.retyped ∧ c.IsJoined
  | .unset, _, h => nomatch h
  | .join j ws, c, h => by
    obtain ⟨cs, hcs, h⟩ := bind_eq_ok_iff.1 h
    obtain ⟨hwire, hjoined⟩ := sound_of_ofWires ws hcs
    split at h
    · cases h
    · rename_i hlen
      cases h
      refine ⟨?_, Nat.le_of_not_lt hlen, hjoined⟩
      rw [toWire, Wire.Condition.retyped, hwire]
  | .not none, _, h => nomatch h
  | .not (some w), c, h => by
    obtain ⟨d, hd, h⟩ := bind_eq_ok_iff.1 h
    obtain ⟨hwire, hjoined⟩ := sound_of_ofWire w hd
    cases h
    refine ⟨?_, hjoined⟩
    rw [toWire, Wire.Condition.retyped, hwire]
  | .leaf w, c, h => by
    obtain ⟨t, ht, h⟩ := bind_eq_ok_iff.1 h
    obtain ⟨d, hd, h⟩ := bind_eq_ok_iff.1 h
    cases h
    refine ⟨?_, trivial⟩
    rw [toWire, Wire.Condition.retyped, Wire.Constraint.retyped, present_eq_ok_iff.1 ht,
      Criterion.toWire_of_ofWire hd]
    rfl

theorem sound_of_ofWires : (ws : List Wire.Condition) → {cs : List Condition} →
    ofWires ws = .ok cs → toWires cs = Wire.Condition.retypedAll ws ∧ AreJoined cs
  | [], cs, h => by
    cases h
    exact ⟨rfl, trivial⟩
  | w :: ws, cs, h => by
    obtain ⟨d, hd, h⟩ := bind_eq_ok_iff.1 h
    obtain ⟨ds, hds, h⟩ := bind_eq_ok_iff.1 h
    obtain ⟨hwire, hjoined⟩ := sound_of_ofWire w hd
    obtain ⟨hwires, hjoineds⟩ := sound_of_ofWires ws hds
    cases h
    refine ⟨?_, hjoined, hjoineds⟩
    rw [toWires, Wire.Condition.retypedAll, hwire, hwires]

end

theorem areJoined_iff {cs : List Condition} : AreJoined cs ↔ ∀ c ∈ cs, c.IsJoined := by
  induction cs with
  | nil => simp [AreJoined]
  | cons c cs ih => rw [AreJoined, ih, List.forall_mem_cons]

/-- **A sound condition**: every junction joins two or more, and every test is one that is made of
its kind and operand. -/
structure IsSound (c : Condition) : Prop where
  joined : c.IsJoined
  made : ∀ l ∈ c.leaves, Criterion.make l.criterion.kind l.criterion.operand = .ok l.criterion

theorem isSound_of_isJoined {c : Condition} (h : c.IsJoined) : c.IsSound where
  joined := h
  made _ _ := Criterion.make_eq_ok_iff.2 ⟨rfl, rfl⟩

end Condition

/-! ### Reading, and writing what was read -/

theorem readBytes_eq_ok_iff {α β : Type} {step : Nat → α → Wire.Field → Option α} {empty : α}
    {meaning : α → Except Fault β} {bytes : List UInt8} {b : β} :
    readBytes step empty meaning bytes = .ok b ↔
      ∃ a, Wire.merge? maxNested (step maxNested) empty bytes = some a ∧ meaning a = .ok b := by
  rw [readBytes]
  cases Wire.merge? maxNested (step maxNested) empty bytes <;> simp

namespace Condition

theorem decode_eq_ok {bytes : List UInt8} {c : Condition} (h : decode bytes = .ok c) :
    c.IsJoined ∧ c.toWire.depth ≤ maxNested := by
  obtain ⟨w, hw, hc⟩ := readBytes_eq_ok_iff.1 h
  obtain ⟨hwire, hjoined⟩ := sound_of_ofWire w hc
  refine ⟨hjoined, ?_⟩
  rw [hwire, Wire.Condition.depth_retyped]
  exact Wire.Condition.depth_le_of_merge? hw

theorem decode_encode_eq {c : Condition} (hs : c.encode.length < 2 ^ 64)
    (hd : c.toWire.depth ≤ maxNested) (hj : c.IsJoined) : decode c.encode = .ok c.carried := by
  rw [decode, encode, readBytes_writeFields c.toWire.reads hs, if_pos hd]
  exact c.ofWire_carried hj

end Condition

namespace Query

theorem decode_eq_ok {bytes : List UInt8} {q : Query} (h : decode bytes = .ok q) :
    Condition.AreJoined q.conditions ∧ q.toWire.depth ≤ maxNested := by
  obtain ⟨w, hw, hq⟩ := readBytes_eq_ok_iff.1 h
  obtain ⟨cs, hcs, hq⟩ := bind_eq_ok_iff.1 hq
  obtain ⟨s?, hs, hq⟩ := bind_eq_ok_iff.1 hq
  obtain ⟨hconditions, -⟩ := make_eq_ok_iff.1 hq
  obtain ⟨hwires, hjoined⟩ := Condition.sound_of_ofWires w.conditions hcs
  rw [← hconditions] at hwires hjoined
  refine ⟨hjoined, Nat.max_le.2 ⟨?_, ?_⟩⟩
  · change Wire.Condition.listDepth (Condition.toWires q.conditions) ≤ maxNested
    rw [hwires, Wire.Condition.listDepth_retypedAll]
    exact Wire.Query.listDepth_le_of_merge? hw
  · rw [Wire.deepest_le_iff]
    intro n hn
    obtain ⟨s, hs, rfl⟩ : ∃ s, q.schema? = some s ∧ s.toWire.depth = n := by
      simpa [toWire] using hn
    have hdepth := s.depth_toWire_le
    rw [maxNested]
    omega

theorem decode_encode_eq {q : Query} (hs : q.encode.length < 2 ^ 64)
    (hd : q.toWire.depth ≤ maxNested) (hj : Condition.AreJoined q.conditions) :
    decode q.encode = .ok q.carried := by
  rw [decode, encode, readBytes_writeFields q.toWire.reads hs, if_pos hd]
  exact q.ofWire_carried hj

end Query

/-- What is read and written is read again, and then written with the same bytes. As everywhere, a
message has fewer than 2⁶⁴ bytes. -/
def IsNormalizing {α : Type} (encode : α → List UInt8)
    (decode : List UInt8 → Except Fault α) : Prop :=
  ∀ bytes a, decode bytes = .ok a → (encode a).length < 2 ^ 64 →
    ∃ b, decode (encode a) = .ok b ∧ encode b = encode a

theorem Place.isNormalizing : IsNormalizing encode decode :=
  fun _ p _ _ => ⟨p.carried, p.decode_encode_eq, p.encode_carried⟩

theorem Attribute.isNormalizing : IsNormalizing encode decode :=
  fun _ a _ hs => ⟨a, decode_encode_eq hs, rfl⟩

theorem Schema.isNormalizing : IsNormalizing encode decode :=
  fun _ s _ hs => ⟨s, decode_encode_eq hs, rfl⟩

theorem Description.isNormalizing : IsNormalizing encode decode :=
  fun _ d _ hs => ⟨d.carried, decode_encode_eq hs, d.encode_carried⟩

theorem Condition.isNormalizing : IsNormalizing encode decode := by
  intro bytes c hc hs
  obtain ⟨hj, hd⟩ := decode_eq_ok hc
  exact ⟨c.carried, decode_encode_eq hs hd hj, c.encode_carried⟩

theorem Query.isNormalizing : IsNormalizing encode decode := by
  intro bytes q hq hs
  obtain ⟨hj, hd⟩ := decode_eq_ok hq
  exact ⟨q.carried, decode_encode_eq hs hd hj, q.encode_carried⟩

/-- What bytes are read as, if they are read at all. -/
structure SoundlyRead (bytes : List UInt8) : Prop where
  condition : ∀ c, Condition.decode bytes = .ok c → c.IsSound
  schema : ∀ s, Schema.decode bytes = .ok s → s.attributes.Pairwise fun a b => a.name < b.name
  description : ∀ d, Description.decode bytes = .ok d → d.schema.Conforms d.values
  query : ∀ q, Query.decode bytes = .ok q → ∀ c ∈ q.conditions, c.IsSound
  names : ∀ q, Query.decode bytes = .ok q →
    ∀ s ∈ q.schema?, ∀ c ∈ q.conditions, ∀ l ∈ c.leaves, l.Names s

/-- **Reading is sound, and what is read is written in a normal form.** Whatever bytes are read as
is as well made as what is made directly. Conditions have the message that they were read from, in
which sets with no members are sets of texts. And what was read and is written is read again, and
written with the same bytes. -/
theorem decode_sound :
    (∀ bytes, SoundlyRead bytes) ∧
    (∀ w c, Condition.ofWire w = .ok c → c.toWire = w.retyped) ∧
    IsNormalizing Place.encode Place.decode ∧
    IsNormalizing Attribute.encode Attribute.decode ∧
    IsNormalizing Schema.encode Schema.decode ∧
    IsNormalizing Description.encode Description.decode ∧
    IsNormalizing Condition.encode Condition.decode ∧
    IsNormalizing Query.encode Query.decode := by
  refine ⟨fun bytes => ?_, fun w c h => (Condition.sound_of_ofWire w h).1, Place.isNormalizing,
    Attribute.isNormalizing, Schema.isNormalizing, Description.isNormalizing,
    Condition.isNormalizing, Query.isNormalizing⟩
  constructor
  case condition =>
    intro c h
    exact Condition.isSound_of_isJoined (Condition.decode_eq_ok h).1
  case schema =>
    intro s _
    exact s.sorted
  case description =>
    intro d _
    exact Schema.inconsistency?_eq_none_iff.1 d.conforms
  case query =>
    intro q h c hc
    exact Condition.isSound_of_isJoined (Condition.areJoined_iff.1 (Query.decode_eq_ok h).1 c hc)
  case names =>
    intro q _ s hs c hc l hl
    exact (Condition.areValid_iff s q.conditions).1 (q.valid s hs) l
      (Condition.mem_leavesOfAll.2 ⟨c, hc, hl⟩)

/-- A test of being one of no doubles. -/
def strayTest : Wire.Condition := .leaf ⟨"a", some (.membership ⟨0, some (.doubles [])⟩)⟩

/-- Bytes of the test, with its code although that is zero and before the name of the attribute,
behind a negation of nothing and a field that conditions do not have. -/
def strayBytes : List UInt8 :=
  [0x1a, 0x00, 0x78, 0x01, 0x22, 0x0b, 0x12, 0x06, 0x08, 0x00, 0x12, 0x02, 0x12, 0x00, 0x0a, 0x01,
    0x61]

theorem Kind.member_fits_nil : Kind.member.misfit? (.set []) = none := rfl

/-- What the bytes are read as. -/
def stray : Condition := .leaf ⟨"a", .member, .set [], Kind.member_fits_nil⟩

/-- A query for open stalls. -/
def openStalls : Query :=
  ⟨[.leaf ⟨"open", .equal, .scalar (.bool true), rfl⟩], some stall.schema, by decide +kernel⟩

theorem decode_sound_stray :
    (Condition.decode strayBytes = .ok stray ∧ stray.IsSound ∧
      ∃ b, Condition.decode stray.encode = .ok b ∧ b.encode = stray.encode) ∧
    (Condition.ofWire strayTest = .ok stray ∧ stray.toWire = strayTest.retyped ∧
      stray.toWire = .leaf ⟨"a", some (.membership ⟨0, some (.texts [])⟩)⟩) ∧
    (∃ p, Place.decode [] = .ok p ∧ ∃ q, Place.decode p.encode = .ok q ∧ q.encode = p.encode) ∧
    (∃ a, Attribute.decode [] = .ok a ∧
      ∃ b, Attribute.decode a.encode = .ok b ∧ b.encode = a.encode) ∧
    (∃ s, Schema.decode stall.schema.encode = .ok s ∧
      (s.attributes.Pairwise fun a b => a.name < b.name) ∧
      ∃ t, Schema.decode s.encode = .ok t ∧ t.encode = s.encode) ∧
    (∃ d, Description.decode stall.encode = .ok d ∧ d.schema.Conforms d.values ∧
      ∃ e, Description.decode d.encode = .ok e ∧ e.encode = d.encode) ∧
    ∃ q, Query.decode openStalls.encode = .ok q ∧ (∀ c ∈ q.conditions, c.IsSound) ∧
      (∀ s ∈ q.schema?, ∀ c ∈ q.conditions, ∀ l ∈ c.leaves, l.Names s) ∧
      ∃ r, Query.decode q.encode = .ok r ∧ r.encode = q.encode := by
  obtain ⟨hsound, hwire, hplace, hattribute, hschema, hdescription, hcondition, hquery⟩ :=
    decode_sound
  have hstray : Condition.decode strayBytes = .ok stray := by cbv
  have hp : Place.decode [] = .ok .origin := by cbv
  have ha : Attribute.decode [] = .ok ⟨"", .double, false, ""⟩ := by cbv
  have hs : stall.schema.encode.length < 2 ^ 64 := by decide +kernel
  have hd : stall.encode.length < 2 ^ 64 := by decide +kernel
  have hq : openStalls.encode.length < 2 ^ 64 := by decide +kernel
  have hs' := Schema.decode_encode_eq hs
  have hd' := Description.decode_encode_eq hd
  have hq' := Query.decode_encode_eq hq (by decide +kernel) ⟨trivial, trivial⟩
  have hread := hsound openStalls.encode
  refine ⟨⟨hstray, (hsound _).condition _ hstray, hcondition _ _ hstray (by decide +kernel)⟩,
    ⟨rfl, hwire _ _ rfl, rfl⟩, ⟨_, hp, hplace _ _ hp (by decide +kernel)⟩,
    ⟨_, ha, hattribute _ _ ha (by decide +kernel)⟩,
    ⟨_, hs', (hsound _).schema _ hs', hschema _ _ hs' hs⟩,
    ⟨_, hd', (hsound _).description _ hd', hdescription _ _ hd' (by decide +kernel)⟩,
    ⟨_, hq', hread.query _ hq', hread.names _ hq', hquery _ _ hq' (by decide +kernel)⟩⟩

end Search

end Bazaar
