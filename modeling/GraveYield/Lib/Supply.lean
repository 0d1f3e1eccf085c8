import Mathlib.Algebra.Order.BigOperators.Group.Finset
import Mathlib.Tactic

/-!
# Holdings within a supply

`Within f total` says that no finite set of holders holds more than `total`, over any type of
holders. Taking an amount away takes it from the total too (`Within.take`), giving adds it
(`Within.give`), and a move within the holdings is one after the other (`Within.move`).
`Rearranged f g` says that the holdings only changed hands.
-/

namespace Supply

variable {α : Type*} {f g : α → ℕ} {total n : ℕ} {a b : α}

/-- No finite set of holders holds more than `total`. -/
def Within (f : α → ℕ) (total : ℕ) : Prop :=
  ∀ s : Finset α, ∑ a ∈ s, f a ≤ total

theorem Within.mono (h : Within f total) (hle : ∀ a, g a ≤ f a) : Within g total := fun s =>
  (Finset.sum_le_sum fun a _ => hle a).trans (h s)

/-- The holders are all in one finite set. -/
theorem within_of_support {t : Finset α} (ht : ∀ a, f a ≠ 0 → a ∈ t) (h : ∑ a ∈ t, f a ≤ total) :
    Within f total := fun _ =>
  (Finset.sum_le_sum_of_ne_zero fun a _ ha => ht a ha).trans h

theorem Within.le (h : Within f total) (a : α) : f a ≤ total := by
  simpa using h {a}

variable [DecidableEq α]

/-- Two holders. -/
theorem Within.pair (h : Within f total) (hne : a ≠ b) : f a + f b ≤ total := by
  simpa [Finset.sum_pair hne] using h {a, b}

theorem Within.give (h : Within f total) (a : α) (n : ℕ) :
    Within (Function.update f a (f a + n)) (total + n) := by
  intro s
  by_cases ha : a ∈ s
  · have hsum := h s
    rw [← Finset.add_sum_erase s f ha] at hsum
    rw [Finset.sum_update_of_mem ha, Finset.sdiff_singleton_eq_erase]
    omega
  · rw [Finset.sum_update_of_notMem ha]
    exact (h s).trans (Nat.le_add_right _ _)

theorem Within.take (h : Within f total) (hn : n ≤ f a) :
    Within (Function.update f a (f a - n)) (total - n) := by
  intro s
  -- the holder itself is counted in, to see its loss
  have hsum := h (insert a s)
  rw [← Finset.add_sum_erase _ f (Finset.mem_insert_self a s)] at hsum
  calc ∑ x ∈ s, Function.update f a (f a - n) x
      ≤ ∑ x ∈ insert a s, Function.update f a (f a - n) x :=
        Finset.sum_le_sum_of_subset (Finset.subset_insert a s)
    _ = (f a - n) + ∑ x ∈ (insert a s).erase a, f x := by
        rw [Finset.sum_update_of_mem (Finset.mem_insert_self a s),
          Finset.sdiff_singleton_eq_erase]
    _ ≤ total - n := by omega

/-- A move keeps the total. -/
theorem Within.move (h : Within f total) (hne : a ≠ b) (hn : n ≤ f a) :
    Within (Function.update (Function.update f a (f a - n)) b (f b + n)) total := by
  have hgive := (h.take hn).give b n
  have hle := h.le a
  rwa [Function.update_of_ne hne.symm, Nat.sub_add_cancel (hn.trans hle)] at hgive

/-! ## Rearrangements -/

/-- From `f` to `g` only finitely many holdings changed, and their sum did not. -/
def Rearranged (f g : α → ℕ) : Prop :=
  ∃ t : Finset α, (∀ a ∉ t, g a = f a) ∧ ∑ a ∈ t, g a = ∑ a ∈ t, f a

omit [DecidableEq α] in
theorem Rearranged.of_eq (h : ∀ a, g a = f a) : Rearranged f g :=
  ⟨∅, fun a _ => h a, rfl⟩

/-- What did not change can be added to a sum. -/
theorem sum_eq_iff {s t : Finset α} (hst : s ⊆ t) (hs : ∀ a ∉ s, g a = f a) :
    ∑ a ∈ t, g a = ∑ a ∈ t, f a ↔ ∑ a ∈ s, g a = ∑ a ∈ s, f a := by
  have hrest : ∑ a ∈ t \ s, g a = ∑ a ∈ t \ s, f a :=
    Finset.sum_congr rfl fun a ha => hs a (Finset.mem_sdiff.1 ha).2
  rw [← Finset.sum_sdiff hst, ← Finset.sum_sdiff hst, hrest, Nat.add_left_cancel_iff]

/-- The sum over any finite set outside which nothing changed is the same. -/
theorem Rearranged.sum_eq (h : Rearranged f g) {s : Finset α} (hs : ∀ a ∉ s, g a = f a) :
    ∑ a ∈ s, g a = ∑ a ∈ s, f a := by
  obtain ⟨t, ht, hsum⟩ := h
  rw [← sum_eq_iff Finset.subset_union_left hs]
  exact (sum_eq_iff Finset.subset_union_right ht).2 hsum

theorem Rearranged.trans {h : α → ℕ} (h₁ : Rearranged f g) (h₂ : Rearranged g h) :
    Rearranged f h := by
  obtain ⟨t, ht, _⟩ := id h₁
  obtain ⟨u, hu, _⟩ := id h₂
  refine ⟨t ∪ u, fun a ha => ?_, ?_⟩
  · rw [Finset.notMem_union] at ha
    rw [hu a ha.2, ht a ha.1]
  · rw [h₂.sum_eq fun a ha => hu a (Finset.notMem_union.1 ha).2,
      h₁.sum_eq fun a ha => ht a (Finset.notMem_union.1 ha).1]

/-- What two holders exchange. -/
theorem Rearranged.pair (hne : a ≠ b) (hoff : ∀ x, x ≠ a → x ≠ b → g x = f x)
    (hsum : g a + g b = f a + f b) : Rearranged f g := by
  refine ⟨{a, b}, fun x hx => ?_, ?_⟩
  · rw [Finset.mem_insert, Finset.mem_singleton, not_or] at hx
    exact hoff x hx.1 hx.2
  · rw [Finset.sum_pair hne, Finset.sum_pair hne, hsum]

end Supply
