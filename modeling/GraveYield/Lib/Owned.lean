import GraveYield.Lib.Run

/-!
# A resource under an owner

A machine whose state may hold a resource that has an owner. The inputs that are acts on the
resource are signed; one succeeds iff its signer is the owner and the act itself succeeds, and
every other input leaves the resource alone (`Owned`). Then the resource after a run is what the
acts of its first owner have made of it, in their order (`Owned.run`, `Owned.history`).
-/

namespace Machine

variable {σ ι ε γ κ α δ : Type*}

/-- The machine governs the resource by the acts of its owner only. -/
structure Owned (exec : σ → ι → Except ε σ) (resource : σ → Option γ) (put : σ → γ → σ)
    (owner : γ → κ) (govern : γ → α → Except δ γ) (act : ι → Option (κ × α)) : Prop where
  held : ∀ s c, resource (put s c) = some c
  kept : ∀ c a c', govern c a = .ok c' → owner c' = owner c
  acts : ∀ s i k a c s', act i = some (k, a) → resource s = some c →
    (exec s i = .ok s' ↔ owner c = k ∧ ∃ c', govern c a = .ok c' ∧ put s c' = s')
  others : ∀ s i c s', act i = none → resource s = some c → exec s i = .ok s' →
    resource s' = some c

/-- The act of `k` that an input is, if it is one. -/
def actOf [DecidableEq κ] (act : ι → Option (κ × α)) (k : κ) (i : ι) : Option α :=
  (act i).bind fun x => if x.1 = k then some x.2 else none

variable {exec : σ → ι → Except ε σ} {resource : σ → Option γ} {put : σ → γ → σ}
  {owner : γ → κ} {govern : γ → α → Except δ γ} {act : ι → Option (κ × α)}

theorem Owned.owner_run (h : Owned exec resource put owner govern act) (c : γ) (as : List α) :
    owner (run govern c as) = owner c :=
  run_invariant (I := fun c' => owner c' = owner c)
    (fun c' a c'' hc hstep => (h.kept c' a c'' hstep).trans hc) rfl as

variable [DecidableEq κ]

/-- One step does to the resource what the act of its owner does, if it is one. -/
theorem Owned.step (h : Owned exec resource put owner govern act) {k : κ} {s : σ} {c : γ}
    (hc : resource s = some c) (hk : owner c = k) (i : ι) :
    resource (Machine.step exec s i) = some (Machine.run govern c (actOf act k i).toList) ∧
      owner (Machine.run govern c (actOf act k i).toList) = k := by
  refine ⟨?_, (h.owner_run c _).trans hk⟩
  rcases hact : act i with _ | ⟨k', a⟩
  · have hnone : actOf act k i = none := by rw [actOf, hact, Option.bind_none]
    rw [hnone]
    rcases step_cases exec s i with hs | hs
    · exact h.others s i c _ hact hc hs
    · rw [hs]
      exact hc
  have hok := fun s' => h.acts s i k' a c s' hact hc
  by_cases hkk : k' = k
  · have hsome : actOf act k i = some a := by rw [actOf, hact, Option.bind_some, if_pos hkk]
    rw [hsome]
    refine step_simulation (R := fun s c => resource s = some c) (g := put s) (fun s' => ?_) hc
      fun c' _ => h.held s c'
    rw [hok s', hkk]
    exact and_iff_right hk
  · have hnone : actOf act k i = none := by rw [actOf, hact, Option.bind_some, if_neg hkk]
    rw [hnone]
    rcases step_cases exec s i with hs | hs
    · exact absurd (((hok _).1 hs).1.symm.trans hk) hkk
    · rw [hs]
      exact hc

/-- A resource that is there is, after a run, what the acts of its owner made of it. -/
theorem Owned.run (h : Owned exec resource put owner govern act) {s : σ} {c : γ}
    (hc : resource s = some c) (is : List ι) :
    resource (Machine.run exec s is) =
      some (Machine.run govern c (is.filterMap (actOf act (owner c)))) :=
  (run_simulation (R := fun s c' => resource s = some c' ∧ owner c' = owner c)
    (fun _ i _ hs => h.step hs.1 hs.2 i) ⟨hc, rfl⟩ is).1

/-- Where there was none, one input of the run put it there, and the rest is its owner's. -/
theorem Owned.history (h : Owned exec resource put owner govern act) {s : σ} {c : γ}
    (h0 : resource s = none) {is : List ι} (hc : resource (Machine.run exec s is) = some c) :
    ∃ pre i post s' c₀, is = pre ++ i :: post ∧ resource (Machine.run exec s pre) = none ∧
      exec (Machine.run exec s pre) i = .ok s' ∧ resource s' = some c₀ ∧
      c = Machine.run govern c₀ (post.filterMap (actOf act (owner c₀))) := by
  have hsome : (resource (Machine.run exec s is)).isSome = true := by simp [hc]
  obtain ⟨pre, i, post, s', rfl, hn, hexec, hs', _⟩ := exists_establishing exec
    (P := fun s => (resource s).isSome = true) (by simp [h0]) hsome
  obtain ⟨c₀, hc₀⟩ := Option.isSome_iff_exists.1 hs'
  refine ⟨pre, i, post, s', c₀, rfl, by simpa using hn, hexec, hc₀, ?_⟩
  rw [run_append_cons hexec, h.run hc₀, Option.some.injEq] at hc
  exact hc.symm

end Machine
