import Mathlib.Algebra.BigOperators.Group.Finset.Basic
import Mathlib.Data.List.Perm.Basic
import Mathlib.Order.Compare
import Mathlib.Tactic
import GraveYield.Lib.Checked
import GraveYield.Lib.Word

/-!
# Tallies

A tally is an ordered map from keys to amounts of `w` bits. `add` adds to the amount of a key,
which starts at zero, and fails if the sum does not fit; `tally` adds a list of amounts.

`amount` and `keySum` are what a tally and a list give to a key, as natural numbers, and
`tally_ok` says that the former grows by the latter. Since amounts are not negative, a list that
fits in one order fits in every order, and the tallies agree (`tally_perm`). The total of a tally
is a sum over any set that contains its keys (`sum_toList`), so that identities between totals
are proved key by key.
-/

set_option linter.unusedSectionVars false

namespace Machine.Tally

open Checked

variable {κ ε : Type} {cmp : κ → κ → Ordering} {w : ℕ}

/-- The amount of `k`, zero if there is none. -/
def amount (m : Std.TreeMap κ (Word w) cmp) (k : κ) : ℕ :=
  (m[k]?.getD 0).val

/-- Add to the amount of `k`. -/
def add (e : ε) (m : Std.TreeMap κ (Word w) cmp) (k : κ) (a : Word w) :
    Except ε (Std.TreeMap κ (Word w) cmp) := do
  let sum ← okOr ((m[k]?.getD 0).checkedAdd a) e
  return m.insert k sum

/-- Add the amounts of a list. -/
def tally (e : ε) (m : Std.TreeMap κ (Word w) cmp) (l : List (κ × Word w)) :
    Except ε (Std.TreeMap κ (Word w) cmp) :=
  l.foldlM (fun m x => add e m x.1 x.2) m

/-! ## Lists of amounts -/

variable [DecidableEq κ]

/-- What a list gives to `k`. -/
def keySum (l : List (κ × Word w)) (k : κ) : ℕ :=
  ((l.filter fun x => x.1 = k).map fun x => x.2.val).sum

@[simp] theorem keySum_nil (k : κ) : keySum ([] : List (κ × Word w)) k = 0 :=
  rfl

@[simp] theorem keySum_cons (x : κ × Word w) (l : List (κ × Word w)) (k : κ) :
    keySum (x :: l) k = (if x.1 = k then x.2.val else 0) + keySum l k := by
  unfold keySum
  by_cases h : x.1 = k
  · simp [h]
  · simp [h]

/-- The order of the amounts does not matter. -/
theorem keySum_perm {l l' : List (κ × Word w)} (h : l.Perm l') (k : κ) :
    keySum l k = keySum l' k :=
  ((h.filter _).map _).sum_eq

/-- A key that does not occur has no amount. -/
theorem keySum_eq_zero {l : List (κ × Word w)} {k : κ} (h : k ∉ l.map Prod.fst) :
    keySum l k = 0 := by
  induction l with
  | nil => rfl
  | cons x l ih =>
    rw [List.map_cons, List.mem_cons, not_or] at h
    rw [keySum_cons, if_neg (Ne.symm h.1), ih h.2]

/-- In a list without repeated keys, an entry is all that its key is given. -/
theorem keySum_of_mem {l : List (κ × Word w)} (hl : (l.map Prod.fst).Nodup) {x : κ × Word w}
    (hx : x ∈ l) : keySum l x.1 = x.2.val := by
  induction l with
  | nil => cases hx
  | cons y l ih =>
    rw [List.map_cons, List.nodup_cons] at hl
    rcases List.mem_cons.1 hx with rfl | hx
    · rw [keySum_cons, if_pos rfl, keySum_eq_zero hl.1, add_zero]
    · have hne : y.1 ≠ x.1 := fun heq => hl.1 (heq ▸ List.mem_map_of_mem hx)
      rw [keySum_cons, if_neg hne, ih hl.2 hx, zero_add]

/-- What a list gives to `k` once it is restricted to some keys. -/
theorem keySum_filter (l : List (κ × Word w)) (p : κ → Prop) [DecidablePred p] (k : κ) :
    keySum (l.filter fun x => p x.1) k = if p k then keySum l k else 0 := by
  induction l with
  | nil => simp
  | cons x l ih =>
    by_cases hx : p x.1
    · rw [List.filter_cons_of_pos (by simpa using hx), keySum_cons, keySum_cons, ih]
      by_cases hk : x.1 = k
      · simp [hk, hk ▸ hx]
      · simp [hk]
    · rw [List.filter_cons_of_neg (by simpa using hx), keySum_cons, ih]
      by_cases hk : x.1 = k
      · simp [hk ▸ hx]
      · simp [hk]

/-- The total of a list, key by key. -/
theorem sum_keySum {l : List (κ × Word w)} {S : Finset κ} (hS : ∀ x ∈ l, x.1 ∈ S) :
    ∑ k ∈ S, keySum l k = (l.map fun x => x.2.val).sum := by
  induction l with
  | nil => simp
  | cons x l ih =>
    have hx : x.1 ∈ S := hS x List.mem_cons_self
    have hl := ih fun y hy => hS y (List.mem_cons_of_mem x hy)
    simp only [keySum_cons, Finset.sum_add_distrib, List.map_cons, List.sum_cons, hl]
    rw [Finset.sum_ite_eq, if_pos hx]

/-! ## Maps -/

variable [Std.TransCmp cmp] [Std.LawfulEqCmp cmp] {e : ε} {m m' : Std.TreeMap κ (Word w) cmp}

/-- The amounts after an insertion. -/
theorem amount_insert (k k' : κ) (v : Word w) :
    amount (m.insert k v) k' = if k = k' then v.val else amount m k' := by
  unfold amount
  rw [Std.TreeMap.getElem?_insert]
  simp only [Std.LawfulEqCmp.compare_eq_iff_eq]
  split_ifs with h
  · rfl
  · rfl

/-- The amounts after an erasure. -/
theorem amount_erase (k k' : κ) : amount (m.erase k) k' = if k = k' then 0 else amount m k' := by
  unfold amount
  rw [Std.TreeMap.getElem?_erase]
  simp only [Std.LawfulEqCmp.compare_eq_iff_eq]
  split_ifs with h
  · rfl
  · rfl

/-- A key that is not in the map has no amount. -/
theorem amount_of_not_mem {k : κ} (h : k ∉ m) : amount m k = 0 := by
  unfold amount
  rw [Std.TreeMap.getElem?_eq_none h]
  rfl

theorem nodup_keys_toList (m : Std.TreeMap κ (Word w) cmp) : (m.toList.map Prod.fst).Nodup := by
  rw [List.Nodup, List.pairwise_map]
  refine Std.TreeMap.distinct_keys_toList.imp ?_
  intro a b h heq
  rw [heq] at h
  exact h Std.ReflCmp.compare_self

theorem mem_keys_toList {k : κ} : k ∈ m.toList.map Prod.fst ↔ k ∈ m := by
  simp

/-- Maps with the same keys and the same amounts are the same. -/
theorem equiv_of_amount (hmem : ∀ k, k ∈ m ↔ k ∈ m') (hamount : ∀ k, amount m k = amount m' k) :
    m.Equiv m' := by
  refine Std.TreeMap.Equiv.of_forall_constGet?_eq fun k => ?_
  by_cases hk : k ∈ m
  · obtain ⟨v, hv⟩ := Option.isSome_iff_exists.1 (Std.TreeMap.mem_iff_isSome_getElem?.1 hk)
    obtain ⟨v', hv'⟩ := Option.isSome_iff_exists.1
      (Std.TreeMap.mem_iff_isSome_getElem?.1 ((hmem k).1 hk))
    have heq := hamount k
    simp only [amount, hv, hv', Option.getD_some] at heq
    rw [hv, hv', Fin.ext heq]
  · rw [Std.TreeMap.getElem?_eq_none hk, Std.TreeMap.getElem?_eq_none ((hmem k).not.1 hk)]

/-- The entries of a map give to each key its amount. -/
@[simp] theorem keySum_toList (k : κ) : keySum m.toList k = amount m k := by
  by_cases hk : k ∈ m
  · obtain ⟨v, hv⟩ := Option.isSome_iff_exists.1 (Std.TreeMap.mem_iff_isSome_getElem?.1 hk)
    have hmem : (k, v) ∈ m.toList := Std.TreeMap.mem_toList_iff_getElem?_eq_some.2 hv
    rw [keySum_of_mem (nodup_keys_toList m) hmem, amount, hv]
    rfl
  · rw [keySum_eq_zero (mem_keys_toList.not.2 hk), amount_of_not_mem hk]

/-- The total of a map, over any set that contains its keys. -/
theorem sum_toList {S : Finset κ} (hS : ∀ k, k ∈ m → k ∈ S) :
    (m.toList.map fun x => x.2.val).sum = ∑ k ∈ S, amount m k := by
  rw [← sum_keySum fun x hx => hS _ (mem_keys_toList.1 (List.mem_map_of_mem hx))]
  exact Finset.sum_congr rfl fun k _ => keySum_toList k

/-! ## Adding -/

/-- An amount is added where the sum is a word. -/
theorem add_ok_iff {k : κ} {a : Word w} : add e m k a = .ok m' ↔
    ∃ v : Word w, v.val = amount m k + a.val ∧ m.insert k v = m' := by
  unfold add
  rw [okOr_bind_ok_iff]
  simp only [Word.checkedAdd_eq_some, pure_ok_iff]
  rfl

theorem add_error {k : κ} {a : Word w} {e' : ε} (h : add e m k a = .error e') : e' = e := by
  unfold add okOr at h
  cases hsum : (m[k]?.getD 0).checkedAdd a with
  | none =>
    rw [hsum] at h
    exact (Except.error.inj h).symm
  | some v =>
    rw [hsum] at h
    cases h

theorem tally_cons (x : κ × Word w) (l : List (κ × Word w)) :
    tally e m (x :: l) = add e m x.1 x.2 >>= fun m' => tally e m' l :=
  List.foldlM_cons

/-- Every amount grows by what the list gives to its key. -/
theorem tally_ok {l : List (κ × Word w)} (h : tally e m l = .ok m') :
    (∀ k, amount m' k = amount m k + keySum l k) ∧
      ∀ k, k ∈ m' ↔ k ∈ m ∨ k ∈ l.map Prod.fst := by
  induction l generalizing m with
  | nil =>
    obtain rfl := Except.ok.inj h
    simp
  | cons x l ih =>
    rw [tally_cons, bind_ok_iff] at h
    obtain ⟨m₁, hadd, h⟩ := h
    obtain ⟨v, hv, rfl⟩ := add_ok_iff.1 hadd
    obtain ⟨hamount, hmem⟩ := ih h
    constructor
    · intro k
      rw [hamount, amount_insert, keySum_cons]
      split_ifs with hk
      · rw [hv, hk]
        omega
      · omega
    · intro k
      rw [hmem, Std.TreeMap.mem_insert, Std.LawfulEqCmp.compare_eq_iff_eq, List.map_cons,
        List.mem_cons]
      tauto

theorem tally_error {l : List (κ × Word w)} {e' : ε} (h : tally e m l = .error e') : e' = e := by
  induction l generalizing m with
  | nil => cases h
  | cons x l ih =>
    rw [tally_cons] at h
    cases hadd : add e m x.1 x.2 with
    | error e₁ =>
      rw [hadd] at h
      obtain rfl := Except.error.inj h
      exact add_error hadd
    | ok m₁ =>
      rw [hadd] at h
      exact ih h

/-- A list is added if what it gives to each key fits. -/
theorem exists_tally (e : ε) {l : List (κ × Word w)}
    (h : ∀ k, amount m k + keySum l k < 2 ^ w) : ∃ m', tally e m l = .ok m' := by
  induction l generalizing m with
  | nil => exact ⟨m, rfl⟩
  | cons x l ih =>
    have hx := h x.1
    rw [keySum_cons, if_pos rfl] at hx
    have hadd : add e m x.1 x.2 = .ok (m.insert x.1 ⟨amount m x.1 + x.2.val, by omega⟩) :=
      add_ok_iff.2 ⟨_, rfl, rfl⟩
    rw [tally_cons, hadd]
    refine ih fun k => ?_
    have hk := h k
    rw [keySum_cons] at hk
    rw [amount_insert]
    split_ifs at hk ⊢ with heq
    · subst heq
      simp only
      omega
    · omega

/-- The order of a list does not matter : it fails in every order, or the tallies agree. -/
theorem tally_perm (e : ε) (m : Std.TreeMap κ (Word w) cmp) {l l' : List (κ × Word w)}
    (hp : l.Perm l') : Agree Std.TreeMap.Equiv (tally e m l) (tally e m l') := by
  have hfits : ∀ {l₁ l₂ : List (κ × Word w)} {m₁}, l₁.Perm l₂ → tally e m l₁ = .ok m₁ →
      ∃ m₂, tally e m l₂ = .ok m₂ := by
    intro l₁ l₂ m₁ h12 h1
    refine exists_tally e fun k => ?_
    rw [← keySum_perm h12, ← (tally_ok h1).1 k]
    exact Fin.isLt _
  cases h : tally e m l with
  | ok m₁ =>
    obtain ⟨m₂, h₂⟩ := hfits hp h
    obtain ⟨ha₁, hk₁⟩ := tally_ok h
    obtain ⟨ha₂, hk₂⟩ := tally_ok h₂
    rw [h₂]
    refine .ok (equiv_of_amount (fun k => ?_) fun k => ?_)
    · rw [hk₁, hk₂, (hp.map Prod.fst).mem_iff]
    · rw [ha₁, ha₂, keySum_perm hp]
  | error e₁ =>
    obtain rfl := tally_error h
    cases h' : tally e₁ m l' with
    | ok m₂ =>
      obtain ⟨m₁, h₁⟩ := hfits hp.symm h'
      rw [h] at h₁
      cases h₁
    | error e₂ =>
      obtain rfl := tally_error h'
      exact .error e₂

end Machine.Tally
