import Bazaar.Proofs.Wire.Meaning

/-!
Pairings of kinds of test and operands. Ten of them are decided and written; every function that
takes a kind and an operand apart needs a default for all others, for bounds that have no wire form
and for members of a set that differ in type. Main statement: of a criterion no default is ever
used, neither when a value is tested nor when the criterion is written
(`Criterion.defaults_unused`).
-/

namespace Bazaar

/-- The number of the members of a set. -/
def Wire.Members.size : Wire.Members → Nat
  | .texts ss => ss.length
  | .doubles ds => ds.length
  | .bools bs => bs.length
  | .ints is => is.length
  | .places ps => ps.length

namespace Search

theorem size_eq_length_valuesOf (m : Wire.Members) : m.size = (valuesOf m).length := by
  cases m <;> simp [Wire.Members.size, valuesOf]

namespace Kind

/-! ### The pairings that are decided -/

/-- **The ten pairings**: a kind of test, and an operand of the shape that it asks for. -/
inductive Takes : Kind → Operand → Prop
  | equal (w : Value) : Takes .equal (.scalar w)
  | notEqual (w : Value) : Takes .notEqual (.scalar w)
  | less (w : Value) : Takes .less (.scalar w)
  | atMost (w : Value) : Takes .atMost (.scalar w)
  | greater (w : Value) : Takes .greater (.scalar w)
  | atLeast (w : Value) : Takes .atLeast (.scalar w)
  | within (low high : Value) : Takes .within (.range low high)
  | member (ws : List Value) : Takes .member (.set ws)
  | notMember (ws : List Value) : Takes .notMember (.set ws)
  | distance (center : Place) (km : Double) : Takes .distance (.circle center km)

variable {k : Kind} {o : Operand}

/-- In just these pairings a value is decided on, whatever it is. -/
theorem verdict?_isSome_iff [Trigonometry] (v : Value) :
    (k.verdict? o v).isSome = true ↔ k.Takes o := by
  constructor
  · intro h
    unfold verdict? at h
    split at h
    case h_11 => cases h
    all_goals constructor
  · rintro ⟨⟩
    case distance => cases v <;> rfl
    all_goals rfl

/-- An operand that fits is paired as it should be. -/
theorem takes_of_fits (h : k.misfit? o = none) : k.Takes o := by
  have _ := Trigonometry.ofPlatform
  exact (verdict?_isSome_iff default).1 (verdict?_isSome h default)

/-! ### Verdicts and wire forms with defaults -/

/-- The verdict on a value, where `b` is said in every pairing that is not decided. -/
def verdictOr [Trigonometry] (b : Bool) (k : Kind) (o : Operand) (v : Value) : Bool :=
  (k.verdict? o v).getD b

/-- What is written where there is nothing to write. The program has one of its own, and nothing is
proved of that alone. -/
structure Fallback where
  /-- The code of a kind that does not compare. -/
  code : Int32
  /-- The bounds between two values that bound no range. -/
  bounds : Value → Value → Wire.Bounds

/-- The program's own defaults: the code of equality, and the texts of the values. -/
def Fallback.usual : Fallback := ⟨0, fun low high => .texts (low.render, high.render)⟩

/-- The members of a set that have the type of the first; all others are left out. -/
def keptMembers (vs : List Value) : Wire.Members :=
  match vs.head?.map Value.type with
  | some .double => .doubles (vs.filterMap Value.double?)
  | some .bool => .bools (vs.filterMap Value.bool?)
  | some .int => .ints (vs.filterMap Value.int?)
  | some .place => .places (vs.filterMap Value.place?)
  | some .text | none => .texts (vs.filterMap Value.text?)

/-- The wire form of any kind and operand, where every set that is not one of values to be avoided
is one of values to be met. -/
def testOr (f : Fallback) (k : Kind) : Operand → Wire.Test
  | .scalar v => .relation ⟨k.relationCode?.getD f.code, some v⟩
  | .range low high => .range (some ((boundsOf? low high).getD (f.bounds low high)))
  | .set vs => .membership ⟨if k = .notMember then 1 else 0, some (keptMembers vs)⟩
  | .circle center km => .circle ⟨some center, km⟩

theorem filterMap_eq_of_mapM {α β : Type} {f : α → Option β} {as : List α} {bs : List β}
    (h : as.mapM f = some bs) : as.filterMap f = bs := by
  induction as generalizing bs with
  | nil =>
    cases h
    rfl
  | cons a as ih =>
    obtain ⟨b, hb, bs, hbs, rfl⟩ := mapM_cons_eq_some_iff.1 h
    rw [List.filterMap_cons_some hb, ih hbs]

/-- Nothing is left out of values of one type. -/
theorem keptMembers_eq {vs : List Value} {m : Wire.Members} (h : membersOf? vs = some m) :
    keptMembers vs = m := by
  unfold membersOf? at h
  unfold keptMembers
  generalize vs.head?.map Value.type = type? at h ⊢
  rcases type? with _ | type
  case' some => cases type
  all_goals
    obtain ⟨as, has, rfl⟩ := Option.map_eq_some_iff.1 h
    exact congrArg _ (filterMap_eq_of_mapM has)

/-- Of a set of mixed types members get lost. -/
example : (keptMembers [.int 1, .text "one", .int 2]).size = 2 := by decide

theorem membershipCode_eq {c : Int32} (h : k.membershipCode? = some c) :
    (if k = .notMember then 1 else 0) = c := by
  cases k <;> simp_all [membershipCode?]

/-- Of bounds of mixed types the usual fallback writes the texts. -/
example : Kind.testOr .usual .within (.range (.int 1) (.text "one")) =
    .range (some (.texts ("1", "\"one\""))) := by decide +kernel

/-- **What has a wire form is written without a default.** -/
theorem testOr_eq {t : Wire.Test} (f : Fallback) (h : k.test? o = some t) : k.testOr f o = t := by
  cases o with
  | scalar v =>
    obtain ⟨c, hc, rfl⟩ := Option.map_eq_some_iff.1 h
    rw [testOr, hc, Option.getD_some]
  | range low high =>
    obtain ⟨b, hb, rfl⟩ := Option.map_eq_some_iff.1 h
    rw [testOr, hb, Option.getD_some]
  | set vs =>
    obtain ⟨c, hc, m, hm, rfl⟩ := exists_of_test?_set h
    rw [testOr, membershipCode_eq hc, keptMembers_eq hm]
  | circle center km => exact Option.some.inj h

end Kind

/-! ### Criteria -/

namespace Criterion

/-- **No default is used of a criterion**: it is one of the ten pairings, its verdict and its wire
form are the same whatever the defaults are, and a set is written with all its members. -/
structure NeedsNoDefault [Trigonometry] (c : Criterion) : Prop where
  pairing : c.kind.Takes c.operand
  verdict : ∀ b v, c.kind.verdictOr b c.operand v = c.holds v
  code : ∀ w, c.operand = .scalar w → c.kind.relationCode?.isSome
  bounds : ∀ low high, c.operand = .range low high → (boundsOf? low high).isSome
  members : ∀ vs, c.operand = .set vs →
    valuesOf (Kind.keptMembers vs) = vs ∧ (Kind.keptMembers vs).size = vs.length
  wire : ∀ f, c.kind.testOr f c.operand = c.toWire

/-- **The defaults are dead**: whatever criterion was made, by its kind or by the symbol of its
kind, or was read, by itself or in a condition or a query, its operand was found to fit its kind,
and that is enough for the verdict on every value and for the wire form. -/
theorem defaults_unused [Trigonometry] (c : Criterion) : c.NeedsNoDefault := by
  have htest := c.test?_eq_some_toWire
  constructor
  case pairing => exact Kind.takes_of_fits c.fits
  case verdict =>
    intro b v
    rw [Kind.verdictOr, c.verdict?_eq_some_holds, Option.getD_some]
  case code =>
    intro w hw
    rw [hw] at htest
    obtain ⟨code, hcode, -⟩ := Option.map_eq_some_iff.1 htest
    exact Option.isSome_of_eq_some hcode
  case bounds =>
    intro low high hrange
    rw [hrange] at htest
    obtain ⟨b, hb, -⟩ := Option.map_eq_some_iff.1 htest
    exact Option.isSome_of_eq_some hb
  case members =>
    intro vs hset
    rw [hset] at htest
    obtain ⟨code, -, m, hm, -⟩ := Kind.exists_of_test?_set htest
    rw [size_eq_length_valuesOf, Kind.keptMembers_eq hm, valuesOf_eq hm]
    exact ⟨rfl, rfl⟩
  case wire =>
    intro f
    exact Kind.testOr_eq f htest

end Criterion

end Search

end Bazaar
