import GraveYield.Lib.Run
import Mathlib.Logic.Relation

/-!
# Refinement of a transition relation

A machine with failing steps refines a transition relation `Step` along `R` if each of its
successful steps is at most one transition between related states (`Refines`). Then its runs are
paths of the relation (`Refines.run`), and what holds along every path (`path_invariant`) can be
read off the states of a run.
-/

namespace Machine

variable {σ ι ε τ : Type*} {exec : σ → ι → Except ε σ} {Step : τ → τ → Prop} {R : σ → τ → Prop}

/-- Each successful step is one transition or none. -/
def Refines (exec : σ → ι → Except ε σ) (Step : τ → τ → Prop) (R : σ → τ → Prop) : Prop :=
  ∀ ⦃s t i s'⦄, R s t → exec s i = .ok s' → ∃ t', Relation.ReflGen Step t t' ∧ R s' t'

/-- A run of the machine is a path. -/
theorem Refines.run (h : Refines exec Step R) {s : σ} {t : τ} (h0 : R s t) (is : List ι) :
    ∃ t', Relation.ReflTransGen Step t t' ∧ R (run exec s is) t' := by
  induction is using List.reverseRecOn with
  | nil => exact ⟨t, .refl, h0⟩
  | append_singleton is i ih =>
    obtain ⟨t₁, hpath, hrel⟩ := ih
    rw [run_concat]
    rcases step_cases exec (Machine.run exec s is) i with hok | hkeep
    · obtain ⟨t₂, hstep, hrel'⟩ := h hrel hok
      exact ⟨t₂, hpath.trans hstep.to_reflTransGen, hrel'⟩
    · exact ⟨t₁, hpath, by rwa [hkeep]⟩

/-- What every transition keeps holds at the end of every path from where it holds. -/
theorem path_invariant {I : τ → Prop} (hstep : ∀ t t', I t → Step t t' → I t') {t t' : τ}
    (h0 : I t) (hpath : Relation.ReflTransGen Step t t') : I t' := by
  induction hpath with
  | refl => exact h0
  | tail _ hlast ih => exact hstep _ _ ih hlast

end Machine
