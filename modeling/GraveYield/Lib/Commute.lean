import GraveYield.Lib.Run

/-!
# Inputs that commute

Two inputs swap when, wherever both succeed in one order, both succeed in the other and lead to the
same state (`Swaps`). A batch of inputs that swap pairwise can be executed in any order, with the
same outcome (`batch_perm`).
-/

namespace Machine

variable {σ ι ε : Type*} {exec : σ → ι → Except ε σ}

/-- Where `i` and then `j` succeed, `j` and then `i` do, and lead to the same state. -/
def Swaps (exec : σ → ι → Except ε σ) (i j : ι) : Prop :=
  ∀ s t s', exec s i = .ok t → exec t j = .ok s' → ∃ t', exec s j = .ok t' ∧ exec t' i = .ok s'

/-- A batch that succeeds in one order succeeds in every other, and leads to the same state. -/
theorem batch_perm {is js : List ι} (hperm : is.Perm js)
    (hswaps : is.Pairwise fun i j => Swaps exec i j ∧ Swaps exec j i) {s s' : σ}
    (h : batch exec s is = .ok s') : batch exec s js = .ok s' := by
  induction hperm generalizing s with
  | nil => exact h
  | cons i _ ih =>
    obtain ⟨t, ht, h⟩ := batch_cons_ok_iff.1 h
    exact batch_cons_ok_iff.2 ⟨t, ht, ih (List.pairwise_cons.1 hswaps).2 h⟩
  | swap i j is =>
    obtain ⟨t, ht, h⟩ := batch_cons_ok_iff.1 h
    obtain ⟨u, hu, h⟩ := batch_cons_ok_iff.1 h
    obtain ⟨t', ht', hu'⟩ :=
      ((List.pairwise_cons.1 hswaps).1 i List.mem_cons_self).1 s t u ht hu
    exact batch_cons_ok_iff.2 ⟨t', ht', batch_cons_ok_iff.2 ⟨u, hu', h⟩⟩
  | trans hperm₁ _ ih₁ ih₂ =>
    exact ih₂ ((hperm₁.pairwise_iff fun h => h.symm).1 hswaps) (ih₁ hswaps h)

end Machine
