import Mathlib.Tactic

/-!
# Lists that agree up to order and bystanders

Two lists agree up to `P` if they are a common core in some order, each with further elements of
`P` anywhere. What does not look at elements of `P` cannot tell them apart : membership, the
quantifiers, a sublist up to order, a search whose hits are all one element, and a sum to which
they contribute nothing. A list of some of the elements that has the whole sum agrees with the
whole list up to zeros (`of_subperm`).
-/

variable {α : Type*}

/-- The same core in some order, and elements of `P` besides. -/
def PermUpTo (P : α → Prop) (l₁ l₂ : List α) : Prop :=
  ∃ core extra₁ extra₂, l₁.Perm (core ++ extra₁) ∧ l₂.Perm (core ++ extra₂) ∧
    ∀ a ∈ extra₁ ++ extra₂, P a

namespace PermUpTo

variable {P : α → Prop} {l₁ l₂ : List α}

theorem symm (h : PermUpTo P l₁ l₂) : PermUpTo P l₂ l₁ := by
  obtain ⟨core, extra₁, extra₂, h₁, h₂, hP⟩ := h
  exact ⟨core, extra₂, extra₁, h₂, h₁, fun a ha => hP a (List.mem_append.2
    (List.mem_append.1 ha).symm)⟩

/-- An element that is no bystander is in both lists. -/
theorem mem (h : PermUpTo P l₁ l₂) {a : α} (ha : a ∈ l₁) (hP : ¬P a) : a ∈ l₂ := by
  obtain ⟨core, extra₁, extra₂, h₁, h₂, hextra⟩ := h
  rcases List.mem_append.1 (h₁.mem_iff.1 ha) with hcore | hextra₁
  · exact h₂.mem_iff.2 (List.mem_append_left _ hcore)
  · exact absurd (hextra a (List.mem_append_left _ hextra₁)) hP

theorem exists_iff (h : PermUpTo P l₁ l₂) {q : α → Prop} (hq : ∀ a, q a → ¬P a) :
    (∃ a ∈ l₁, q a) ↔ ∃ a ∈ l₂, q a := by
  constructor
  · rintro ⟨a, ha, hqa⟩
    exact ⟨a, h.mem ha (hq a hqa), hqa⟩
  · rintro ⟨a, ha, hqa⟩
    exact ⟨a, h.symm.mem ha (hq a hqa), hqa⟩

theorem forall_iff (h : PermUpTo P l₁ l₂) {q r : α → Prop} (hq : ∀ a, q a → ¬P a) :
    (∀ a ∈ l₁, q a → r a) ↔ ∀ a ∈ l₂, q a → r a := by
  constructor
  · exact fun hr a ha hqa => hr a (h.symm.mem ha (hq a hqa)) hqa
  · exact fun hr a ha hqa => hr a (h.mem ha (hq a hqa)) hqa

/-- A sublist without bystanders is the same up to order. -/
theorem filter_perm (h : PermUpTo P l₁ l₂) {q : α → Bool} (hq : ∀ a, q a = true → ¬P a) :
    (l₁.filter q).Perm (l₂.filter q) := by
  obtain ⟨core, extra₁, extra₂, h₁, h₂, hextra⟩ := h
  have hnil : ∀ extra ⊆ extra₁ ++ extra₂, extra.filter q = [] := fun extra hsub =>
    List.filter_eq_nil_iff.2 fun a ha hqa => hq a hqa (hextra a (hsub ha))
  have hcore₁ := h₁.filter q
  have hcore₂ := h₂.filter q
  rw [List.filter_append, hnil _ (List.subset_append_left _ _), List.append_nil] at hcore₁
  rw [List.filter_append, hnil _ (List.subset_append_right _ _), List.append_nil] at hcore₂
  exact hcore₁.trans hcore₂.symm

/-- A search for one element finds the same in both. -/
theorem find?_eq (h : PermUpTo P l₁ l₂) {q : α → Bool} (hq : ∀ a, q a = true → ¬P a)
    (hunique : ∀ a ∈ l₁, ∀ b ∈ l₁, q a = true → q b = true → a = b) :
    l₁.find? q = l₂.find? q := by
  cases h₁ : l₁.find? q with
  | none =>
    rw [List.find?_eq_none] at h₁
    refine (List.find?_eq_none.2 fun a ha hqa => ?_).symm
    exact h₁ a (h.symm.mem ha (hq a hqa)) hqa
  | some a =>
    have hqa := List.find?_some h₁
    have ha := List.mem_of_find?_eq_some h₁
    cases h₂ : l₂.find? q with
    | none => exact absurd hqa (List.find?_eq_none.1 h₂ a (h.mem ha (hq a hqa)))
    | some b =>
      have hqb := List.find?_some h₂
      have hb := h.symm.mem (List.mem_of_find?_eq_some h₂) (hq b hqb)
      rw [hunique a ha b hb hqa hqb]

/-- Sums over the elements that meet a condition agree. -/
theorem sum_filter_eq {f : α → ℕ} (h : PermUpTo (fun a => f a = 0) l₁ l₂) (q : α → Prop)
    [DecidablePred q] : ((l₁.filter q).map f).sum = ((l₂.filter q).map f).sum := by
  obtain ⟨core, extra₁, extra₂, h₁, h₂, hextra⟩ := h
  have hzero : ∀ extra ⊆ extra₁ ++ extra₂, ((extra.filter q).map f).sum = 0 := by
    intro extra hsub
    refine List.sum_eq_zero fun x hx => ?_
    obtain ⟨a, ha, rfl⟩ := List.mem_map.1 hx
    exact hextra a (hsub (List.mem_of_mem_filter ha))
  rw [((h₁.filter q).map f).sum_eq, ((h₂.filter q).map f).sum_eq, List.filter_append,
    List.filter_append, List.map_append, List.map_append, List.sum_append, List.sum_append,
    hzero _ (List.subset_append_left _ _), hzero _ (List.subset_append_right _ _)]

/-- Some of the elements, if they have the whole sum. -/
theorem of_subperm {f : α → ℕ} (h : l₁.Subperm l₂) (hsum : (l₂.map f).sum ≤ (l₁.map f).sum) :
    PermUpTo (fun a => f a = 0) l₁ l₂ := by
  obtain ⟨l, hl, hsub⟩ := h
  obtain ⟨rest, hrest⟩ := hsub.exists_perm_append
  have hperm : l₂.Perm (l₁ ++ rest) := hrest.trans (hl.append_right rest)
  refine ⟨l₁, [], rest, by simp, hperm, fun a ha => ?_⟩
  rw [(hperm.map f).sum_eq, List.map_append, List.sum_append] at hsum
  have hle : f a ≤ (rest.map f).sum := List.single_le_sum (fun _ _ => Nat.zero_le _) _
    (List.mem_map_of_mem (by simpa using ha))
  omega

end PermUpTo
