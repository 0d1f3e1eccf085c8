import Mathlib.Tactic

/-!
# Checked computations

A fallible computation is an `Except`. `require` stops with an error unless a condition
holds, and `okOr` stops on `none`. `bind_ok_iff`, `require_bind_ok_iff` and
`okOr_bind_ok_iff` read a successful run back as the conditions it passed and the values
it computed, so a proof about a result never unfolds the monad.

`Agree` relates two computations that fail in the same way or succeed with related values, and
`Agree.bind_eq` is its congruence : computations that agree have the same outcome once what
follows does not tell related values apart.
-/

namespace Checked

variable {ε α β : Type}

/-- Stop with `e` unless `c` holds. -/
def require (c : Prop) [Decidable c] (e : ε) : Except ε Unit :=
  if c then .ok () else .error e

/-- The value of `o`, or stop with `e`. -/
def okOr (o : Option α) (e : ε) : Except ε α :=
  o.elim (.error e) .ok

/-- A sequence succeeds iff its first part does and its rest does on the value. -/
theorem bind_ok_iff {x : Except ε α} {f : α → Except ε β} {b : β} :
    (x >>= f) = .ok b ↔ ∃ a, x = .ok a ∧ f a = .ok b := by
  constructor
  · intro h
    match x, h with
    | .ok a, h => exact ⟨a, rfl, h⟩
  · rintro ⟨a, rfl, h⟩
    exact h

/-- A check passes iff its condition holds. -/
theorem require_ok_iff {c : Prop} {_ : Decidable c} {e : ε} {v : Unit} :
    require c e = .ok v ↔ c := by
  unfold require
  split_ifs with h <;> simp [h]

/-- What follows a check runs iff its condition holds. -/
theorem require_bind_ok_iff {c : Prop} {_ : Decidable c} {e : ε} {f : Unit → Except ε β} {b : β} :
    (require c e >>= f) = .ok b ↔ c ∧ f () = .ok b := by
  rw [bind_ok_iff]
  constructor
  · rintro ⟨_, hc, h⟩
    exact ⟨require_ok_iff.1 hc, h⟩
  · rintro ⟨hc, h⟩
    exact ⟨(), require_ok_iff.2 hc, h⟩

/-- A sequence stops with `e` iff its first part does, or its rest does on the value. -/
theorem bind_error_iff {x : Except ε α} {f : α → Except ε β} {e : ε} :
    (x >>= f) = .error e ↔ x = .error e ∨ ∃ a, x = .ok a ∧ f a = .error e := by
  cases x with
  | ok a =>
    constructor
    · intro h
      exact .inr ⟨a, rfl, h⟩
    · rintro (h | ⟨_, ha, h⟩)
      · cases h
      · exact Except.ok.inj ha ▸ h
  | error e' =>
    constructor
    · intro h
      exact .inl (congrArg Except.error (Except.error.inj h))
    · rintro (h | ⟨_, h, _⟩)
      · exact congrArg Except.error (Except.error.inj h)
      · cases h

theorem require_error_iff {c : Prop} {_ : Decidable c} {e e' : ε} :
    require c e = .error e' ↔ ¬ c ∧ e = e' := by
  unfold require
  split_ifs with h <;> simp [h]

theorem okOr_error_iff {o : Option α} {e e' : ε} : okOr o e = .error e' ↔ o = none ∧ e = e' := by
  cases o <;> simp [okOr]

/-- `okOr` returns the value of an option. -/
theorem okOr_ok_iff {o : Option α} {e : ε} {a : α} : okOr o e = .ok a ↔ o = some a := by
  cases o <;> simp [okOr]

theorem okOr_bind_ok_iff {o : Option α} {e : ε} {f : α → Except ε β} {b : β} :
    (okOr o e >>= f) = .ok b ↔ ∃ a, o = some a ∧ f a = .ok b := by
  simp [bind_ok_iff, okOr_ok_iff]

theorem pure_ok_iff {a b : α} : (pure a : Except ε α) = .ok b ↔ a = b :=
  Except.ok.injEq a b ▸ Iff.rfl

theorem mapError_ok_iff {δ : Type} {f : ε → δ} {x : Except ε α} {a : α} :
    x.mapError f = .ok a ↔ x = .ok a := by
  cases x <;> simp [Except.mapError]

theorem mapError_error_iff {δ : Type} {f : ε → δ} {x : Except ε α} {e : δ} :
    x.mapError f = .error e ↔ ∃ e', x = .error e' ∧ f e' = e := by
  cases x <;> simp [Except.mapError]

theorem toOption_eq_some_iff {x : Except ε α} {a : α} : x.toOption = some a ↔ x = .ok a := by
  cases x <;> simp [Except.toOption]

/-- A result that is not an error has a value. -/
theorem exists_ok_of_isOk {x : Except ε α} (h : x.isOk = true) : ∃ a, x = .ok a := by
  cases x with
  | ok a => exact ⟨a, rfl⟩
  | error e => simp [Except.isOk, Except.toBool] at h

/-- A list is mapped iff each element is, and the results correspond. -/
theorem mapM_ok_iff {f : α → Except ε β} {l : List α} {l' : List β} :
    l.mapM f = .ok l' ↔ List.Forall₂ (fun a b => f a = .ok b) l l' := by
  induction l generalizing l' with
  | nil =>
    rw [List.mapM_nil, pure_ok_iff, List.forall₂_nil_left_iff, eq_comm]
  | cons a l ih =>
    simp only [List.mapM_cons, bind_ok_iff, pure_ok_iff, List.forall₂_cons_left_iff, ih]
    constructor
    · rintro ⟨b, hb, bs, hbs, rfl⟩
      exact ⟨b, bs, hb, hbs, rfl⟩
    · rintro ⟨b, bs, hb, hbs, rfl⟩
      exact ⟨b, hb, bs, hbs, rfl⟩

/-- A list is mapped where the function succeeds on each member. -/
theorem mapM_eq_map {f : α → Except ε β} {g : α → β} {l : List α}
    (h : ∀ a ∈ l, f a = .ok (g a)) : l.mapM f = .ok (l.map g) := by
  rw [mapM_ok_iff, List.forall₂_map_right_iff, List.forall₂_same]
  exact h

/-- If a list is mapped, each of its elements is. -/
theorem exists_ok_of_mem_mapM {f : α → Except ε β} {l : List α} {l' : List β}
    (h : l.mapM f = .ok l') {a : α} (ha : a ∈ l) : ∃ b, f a = .ok b := by
  induction mapM_ok_iff.1 h with
  | nil => cases ha
  | cons hb hrest ih =>
    rcases List.mem_cons.1 ha with rfl | ha
    · exact ⟨_, hb⟩
    · exact ih (mapM_ok_iff.2 hrest) ha

@[simp] theorem ok_bind (a : α) (f : α → Except ε β) : (Except.ok a >>= f) = f a :=
  rfl

@[simp] theorem require_of {c : Prop} {_ : Decidable c} {e : ε} (h : c) :
    require c e = .ok () :=
  if_pos h

@[simp] theorem okOr_some (a : α) (e : ε) : okOr (some a) e = .ok a :=
  rfl

/-! ## Agreement -/

/-- Both fail with the same error, or both succeed with related values. -/
inductive Agree (R : α → α → Prop) : Except ε α → Except ε α → Prop
  | ok {a b : α} (h : R a b) : Agree R (.ok a) (.ok b)
  | error (e : ε) : Agree R (.error e) (.error e)

/-- What follows two results that agree. -/
theorem Agree.bind_eq {R : α → α → Prop} {x y : Except ε α} {f g : α → Except ε β}
    (h : Agree R x y) (hfg : ∀ a b, R a b → f a = g b) : (x >>= f) = (y >>= g) := by
  cases h with
  | ok h => exact hfg _ _ h
  | error e => rfl

end Checked
