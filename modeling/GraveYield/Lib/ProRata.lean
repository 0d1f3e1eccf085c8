import Mathlib.Algebra.BigOperators.Group.Finset.Basic
import Mathlib.Algebra.Order.BigOperators.Group.Finset
import Mathlib.Tactic

/-!
# Pro-rata shares of a bucket

A bucket of `total` is paid out in shares `total * balance / supply`, rounded down. `Book` is who
was paid what, and `Book.paid` the sum of it. Rounding down never pays out more than the bucket
as long as the balances fit in the supply (`sum_share_le`), and leaves less than one unit for
each balance when they make up the supply (`total_lt_sum_share_add`). Where one of them is paid
the `remainder` instead, that is between `share_le_remainder` and `remainder_lt`. Against the exact
quotient a share loses less than one unit, and a share of a share less than two
(`sub_two_lt_share_share`). Whoever has not been paid still finds its share
(`Book.paid_add_share_le`).
-/

namespace ProRata

/-! ## Payments -/

variable {α : Type*} [Fintype α]

/-- Who was paid what. Nobody is paid twice. -/
abbrev Book (α : Type*) := α → Option ℕ

/-- The sum of all payments. -/
def Book.paid (b : Book α) : ℕ :=
  ∑ a, (b a).getD 0

theorem Book.paid_eq_zero {b : Book α} (h : ∀ a, b a = none) : b.paid = 0 := by
  simp [Book.paid, h]

/-- A first payment adds its amount. -/
theorem Book.paid_update [DecidableEq α] {b : Book α} {a : α} (h : b a = none) (n : ℕ) :
    Book.paid (Function.update b a (some n)) = b.paid + n := by
  have hrest : ∑ x ∈ Finset.univ.erase a, (Function.update b a (some n) x).getD 0 =
      ∑ x ∈ Finset.univ.erase a, (b x).getD 0 := by
    refine Finset.sum_congr rfl fun x hx => ?_
    rw [Function.update_of_ne (Finset.ne_of_mem_erase hx)]
  rw [Book.paid, Book.paid, ← Finset.add_sum_erase _ _ (Finset.mem_univ a),
    ← Finset.add_sum_erase _ (fun x => (b x).getD 0) (Finset.mem_univ a), hrest,
    Function.update_self, h]
  simp only [Option.getD_some, Option.getD_none]
  omega

/-! ## Rounding -/

/-- The share of `balance` in a bucket of `total` over `supply`, rounded down. -/
def share (total supply balance : ℕ) : ℕ :=
  total * balance / supply

section Rounding

/-- A share falls short of the exact quotient by less than one unit. -/
theorem sub_one_lt_share (total balance : ℕ) {supply : ℕ} (hsupply : 0 < supply) :
    (total * balance / supply - 1 : ℚ) < share total supply balance := by
  have hlt : total * balance < (share total supply balance + 1) * supply := by
    rw [mul_comm _ supply]
    exact Nat.lt_mul_div_succ _ hsupply
  have hpos : (0 : ℚ) < supply := by exact_mod_cast hsupply
  rw [sub_lt_iff_lt_add, div_lt_iff₀ hpos]
  exact_mod_cast hlt

/-- A share of a share falls short by less than two. -/
theorem sub_two_lt_share_share (total balance : ℕ) {supply whole part : ℕ}
    (hsupply : 0 < supply) (hwhole : 0 < whole) (hpart : part ≤ whole) :
    (total * balance / supply * (part / whole) - 2 : ℚ) <
      share (share total supply balance) whole part := by
  have hinner := sub_one_lt_share total balance hsupply
  have houter := sub_one_lt_share (share total supply balance) part hwhole
  have hratio : (part / whole : ℚ) ≤ 1 :=
    div_le_one_of_le₀ (by exact_mod_cast hpart) (by positivity)
  have hscaled : (total * balance / supply - 1 : ℚ) * (part / whole) ≤
      share total supply balance * (part / whole) :=
    mul_le_mul_of_nonneg_right hinner.le (by positivity)
  rw [mul_div_assoc] at houter
  linarith

theorem share_le_share {total supply balance balance' : ℕ} (h : balance ≤ balance') :
    share total supply balance ≤ share total supply balance' :=
  Nat.div_le_div_right (Nat.mul_le_mul_left _ h)

variable {ι : Type*} {s : Finset ι} {balance : ι → ℕ} {supply : ℕ}

/-- The shares of balances within the supply are within the bucket. -/
theorem sum_share_le (total : ℕ) (hsupply : 0 < supply) (h : ∑ i ∈ s, balance i ≤ supply) :
    ∑ i ∈ s, share total supply (balance i) ≤ total := by
  refine Nat.le_of_mul_le_mul_right ?_ hsupply
  calc (∑ i ∈ s, share total supply (balance i)) * supply
      = ∑ i ∈ s, share total supply (balance i) * supply := Finset.sum_mul _ _ _
    _ ≤ ∑ i ∈ s, total * balance i := Finset.sum_le_sum fun i _ => Nat.div_mul_le_self _ _
    _ = total * ∑ i ∈ s, balance i := (Finset.mul_sum _ _ _).symm
    _ ≤ total * supply := Nat.mul_le_mul_left _ h

/-- The shares of balances that make up the supply leave less than one unit for each of them. -/
theorem total_lt_sum_share_add (total : ℕ) (hsupply : 0 < supply)
    (h : ∑ i ∈ s, balance i = supply) :
    total < ∑ i ∈ s, share total supply (balance i) + s.card := by
  have hne : s.Nonempty := by
    rw [Finset.nonempty_iff_ne_empty]
    rintro rfl
    simp [← h] at hsupply
  refine Nat.lt_of_mul_lt_mul_right (a := supply) ?_
  calc total * supply = ∑ i ∈ s, total * balance i := by rw [← h, Finset.mul_sum]
    _ < ∑ i ∈ s, (share total supply (balance i) + 1) * supply :=
        Finset.sum_lt_sum_of_nonempty hne fun i _ => by
          rw [mul_comm _ supply]
          exact Nat.lt_mul_div_succ _ hsupply
    _ = (∑ i ∈ s, share total supply (balance i) + s.card) * supply := by
        rw [← Finset.sum_mul, Finset.sum_add_distrib, Finset.sum_const, smul_eq_mul, mul_one]

variable [DecidableEq ι] {k : ι}

/-- What is left of the bucket for `k` when everyone else has been paid a share. -/
def remainder (total supply : ℕ) (s : Finset ι) (balance : ι → ℕ) (k : ι) : ℕ :=
  total - ∑ i ∈ s.erase k, share total supply (balance i)

/-- Who takes the rest gets at least the share. -/
theorem share_le_remainder (total : ℕ) (hsupply : 0 < supply) (hk : k ∈ s)
    (h : ∑ i ∈ s, balance i ≤ supply) :
    share total supply (balance k) ≤ remainder total supply s balance k := by
  have hsum := sum_share_le total hsupply h
  rw [← Finset.add_sum_erase s _ hk] at hsum
  rw [remainder]
  omega

/-- And less than one unit more for each of the others. -/
theorem remainder_lt (total : ℕ) (hsupply : 0 < supply) (hk : k ∈ s)
    (h : ∑ i ∈ s, balance i = supply) :
    remainder total supply s balance k < share total supply (balance k) + s.card := by
  have hlt := total_lt_sum_share_add total hsupply h
  have hle := sum_share_le total hsupply h.le
  rw [← Finset.add_sum_erase s _ hk] at hlt hle
  rw [remainder]
  omega

end Rounding

/-! ## Payments within a bucket -/

/-- If everyone who was paid got at most the share of an allocation within the supply, then the
share of someone who was not is still in the bucket. -/
theorem Book.paid_add_share_le [DecidableEq α] {b : Book α} {alloc : α → ℕ} {total supply : ℕ}
    (hsupply : 0 < supply) (hsum : ∑ a, alloc a ≤ supply)
    (hb : ∀ a n, b a = some n → n ≤ share total supply (alloc a)) {a : α} (ha : b a = none) :
    b.paid + share total supply (alloc a) ≤ total := by
  have hrest : ∑ x ∈ Finset.univ.erase a, (b x).getD 0 ≤
      ∑ x ∈ Finset.univ.erase a, share total supply (alloc x) := by
    refine Finset.sum_le_sum fun x _ => ?_
    cases hx : b x with
    | none => exact Nat.zero_le _
    | some n => exact hb x n hx
  have hall := sum_share_le total hsupply hsum
  rw [← Finset.add_sum_erase _ _ (Finset.mem_univ a)] at hall
  rw [Book.paid, ← Finset.add_sum_erase _ _ (Finset.mem_univ a), ha, Option.getD_none]
  omega

end ProRata
