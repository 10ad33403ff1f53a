/-!
Computations that may fail: what they come to, step by step, also where they write a state in place.
-/

namespace Bazaar

section Bind

variable {ε α β : Type} {x : Except ε α} {f : α → Except ε β}

theorem bind_eq_ok_iff {b : β} : x >>= f = .ok b ↔ ∃ a, x = .ok a ∧ f a = .ok b := by
  cases x <;> simp [bind, Except.bind]

theorem bind_eq_error_iff {r : ε} :
    x >>= f = .error r ↔ x = .error r ∨ ∃ a, x = .ok a ∧ f a = .error r := by
  cases x <;> simp [bind, Except.bind]

theorem map_eq_ok_iff {g : α → β} {b : β} : g <$> x = .ok b ↔ ∃ a, x = .ok a ∧ g a = b := by
  cases x <;> simp [Functor.map, Except.map]

theorem map_eq_error_iff {g : α → β} {r : ε} : g <$> x = .error r ↔ x = .error r := by
  cases x <;> simp [Functor.map, Except.map]

/-- A computation fails exactly if something stands against it, where each failure is for something
that does and there is nothing of the kind if there is a result. -/
theorem exists_error_iff {p : ε → Prop} (herror : ∀ {r}, x = .error r → p r)
    (hok : ∀ {r a}, x = .ok a → ¬ p r) : (∃ r, x = .error r) ↔ ∃ r, p r := by
  constructor
  · rintro ⟨r, hx⟩
    exact ⟨r, herror hx⟩
  · rintro ⟨r, hr⟩
    cases hx : x with
    | ok a => exact absurd hr (hok hx)
    | error e => exact ⟨e, rfl⟩

theorem toOption_eq_some_iff {a : α} : x.toOption = some a ↔ x = .ok a := by
  cases x <;> simp [Except.toOption]

end Bind

/-! ### The same outcome -/

/-- **Two computations have the same outcome**, up to a relation of what they come to: they fail for
the same reason, or both succeed and their results are related. -/
inductive SameOutcome {ε α β : Type} (r : α → β → Prop) : Except ε α → Except ε β → Prop
  | ok {a : α} {b : β} (related : r a b) : SameOutcome r (.ok a) (.ok b)
  | error (e : ε) : SameOutcome r (.error e) (.error e)

section SameOutcome

variable {ε α β γ δ : Type} {r : α → β → Prop} {s : γ → δ → Prop}

theorem sameOutcome_ok_iff {a : α} {b : β} :
    SameOutcome r (.ok a : Except ε α) (.ok b) ↔ r a b := by
  refine ⟨fun h => ?_, .ok⟩
  cases h with
  | ok related => exact related

instance [DecidableEq ε] [∀ a b, Decidable (r a b)] (x : Except ε α) (y : Except ε β) :
    Decidable (SameOutcome r x y) :=
  match x, y with
  | .ok a, .ok b => decidable_of_iff (r a b) sameOutcome_ok_iff.symm
  | .ok _, .error _ => isFalse nofun
  | .error _, .ok _ => isFalse nofun
  | .error e, .error f =>
    if h : e = f then isTrue (h ▸ .error e) else isFalse fun | .error _ => h rfl

theorem SameOutcome.bind {x : Except ε α} {y : Except ε β} {f : α → Except ε γ}
    {g : β → Except ε δ} (h : SameOutcome r x y)
    (hf : ∀ {a b}, r a b → SameOutcome s (f a) (g b)) : SameOutcome s (x >>= f) (y >>= g) := by
  cases h with
  | ok related => exact hf related
  | error e => exact .error e

/-- The same first step, and then steps with the same outcome. -/
theorem sameOutcome_bind {x : Except ε α} {f : α → Except ε γ} {g : α → Except ε δ}
    (hf : ∀ a, SameOutcome s (f a) (g a)) : SameOutcome s (x >>= f) (x >>= g) := by
  cases x with
  | ok a => exact hf a
  | error e => exact .error e

end SameOutcome

/-! ### Changes in place -/

section InPlace

open MonadExcept (ofExcept)

variable {ε σ α β : Type}

/-- What a change in place comes to that writes the state only after all else has succeeded, if the
new state and the answer are `r`. -/
def inPlace (s : σ) : Except ε (σ × α) → EStateM.Result ε σ α
  | .ok (s', a) => .ok a s'
  | .error e => .error e s

theorem inPlace_eq_ok_iff {s s' : σ} {a : α} {r : Except ε (σ × α)} :
    inPlace s r = .ok a s' ↔ r = .ok (s', a) := by
  cases r <;> simp [inPlace, and_comm, Prod.ext_iff]

theorem inPlace_eq_error_iff {s s' : σ} {e : ε} {r : Except ε (σ × α)} :
    inPlace s r = .error e s' ↔ r = .error e ∧ s' = s := by
  cases r <;> simp [inPlace, eq_comm]

theorem run_get_bind {f : σ → EStateM ε σ α} {s : σ} : (get >>= f).run s = (f s).run s := rfl

/-- A step that only computes is the same in place. -/
theorem run_ofExcept_bind {r : Except ε α} {f : α → EStateM ε σ β} {g : α → Except ε (σ × β)}
    {s : σ} (h : ∀ a, (f a).run s = inPlace s (g a)) :
    (ofExcept r >>= f).run s = inPlace s (r >>= g) := by
  cases r with
  | ok a => exact h a
  | error e => rfl

end InPlace

/-! ### Lists of computations -/

section MapM

variable {ε α β : Type} {f : α → Except ε β} {as : List α}

theorem mapM_cons_eq_ok_iff {a : α} {bs : List β} : (a :: as).mapM f = .ok bs ↔
    ∃ b, f a = .ok b ∧ ∃ cs, as.mapM f = .ok cs ∧ bs = b :: cs := by
  simp only [List.mapM_cons, bind_eq_ok_iff, pure, Except.pure, Except.ok.injEq, eq_comm (b := bs)]

theorem exists_of_mapM_eq_ok {bs : List β} (h : as.mapM f = .ok bs) {a : α} (ha : a ∈ as) :
    ∃ b, f a = .ok b := by
  induction as generalizing bs with
  | nil => cases ha
  | cons c as ih =>
    obtain ⟨b, hb, cs, hcs, -⟩ := mapM_cons_eq_ok_iff.1 h
    obtain rfl | ha := List.mem_cons.1 ha
    · exact ⟨b, hb⟩
    · exact ih hcs ha

/-- A list of computations fails as one of them does. -/
theorem exists_of_mapM_eq_error {e : ε} (h : as.mapM f = .error e) : ∃ a ∈ as, f a = .error e := by
  induction as with
  | nil => cases h
  | cons a as ih =>
    rw [List.mapM_cons, bind_eq_error_iff] at h
    obtain ha | ⟨b, -, h⟩ := h
    · exact ⟨a, List.mem_cons_self, ha⟩
    · obtain hrest | ⟨bs, -, h⟩ := bind_eq_error_iff.1 h
      · obtain ⟨c, hc, he⟩ := ih hrest
        exact ⟨c, List.mem_cons_of_mem _ hc, he⟩
      · cases h

theorem mapM_cons_eq_some_iff {f : α → Option β} {a : α} {bs : List β} :
    (a :: as).mapM f = some bs ↔
      ∃ b, f a = some b ∧ ∃ cs, as.mapM f = some cs ∧ bs = b :: cs := by
  simp only [List.mapM_cons, Option.bind_eq_bind, Option.bind_eq_some_iff, pure,
    Option.some.injEq, eq_comm (b := bs)]

end MapM

/-- A computation for each member of a list, each of which is known to succeed. -/
theorem mapM_map_eq_pure {α β γ : Type} {m : Type → Type} [Monad m] [LawfulMonad m] {f : α → β}
    {g : β → m γ} {h : α → γ} (hg : ∀ a, g (f a) = pure (h a)) (as : List α) :
    (as.map f).mapM g = pure (as.map h) := by
  have hcomp : g ∘ f = fun a => pure (h a) := funext hg
  rw [List.mapM_map, hcomp, List.mapM_pure]

end Bazaar
