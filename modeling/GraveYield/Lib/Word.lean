import Mathlib.Data.Fintype.Vector
import Mathlib.Data.List.Lex
import Mathlib.Tactic

/-!
# Machine words and byte strings

A word of `w` bits is a number below `2 ^ w` (`Word`). Checked operations return
`none` where the exact result does not fit, and `checkedAdd_eq_some`,
`checkedSub_eq_some` and `checkedMul_eq_some` turn a checked result into the exact
equation. Signed 64-bit arithmetic is on `ℤ` with the range test explicit.

Byte strings are lists of bytes. `leBytes` and `ofLeBytes` are the little-endian
encoding; `leBytes_inj` is its injectivity on words and `ofLeBytes_leBytes` the round
trip. A byte array of fixed length (`Bytes n`) carries its length and is ordered
lexicographically, as arrays are compared.
-/

namespace Machine

/-! ## Words -/

/-- Unsigned words of `w` bits. -/
abbrev Word (w : ℕ) := Fin (2 ^ w)

namespace Word

/-! The literals of the usual widths. -/

/-- The width is found before the general instance for powers, which unfolds them. -/
instance (priority := 2000) neZeroU8 : NeZero (2 ^ 8) := ⟨by decide⟩

/-- The width of a `u16`. -/
instance (priority := 2000) neZeroU16 : NeZero (2 ^ 16) := ⟨by decide⟩

/-- The width of a `u32`. -/
instance (priority := 2000) neZeroU32 : NeZero (2 ^ 32) := ⟨by decide⟩

/-- The width of a `u64`. -/
instance (priority := 2000) neZeroU64 : NeZero (2 ^ 64) := ⟨by decide⟩

/-- The width of a `u128`. -/
instance (priority := 2000) neZeroU128 : NeZero (2 ^ 128) := ⟨by decide⟩

theorem u64_le_u128 : 64 ≤ 128 := by decide

variable {w : ℕ}

/-- The word of value `n`, if it fits. -/
def ofNat? (w n : ℕ) : Option (Word w) :=
  if h : n < 2 ^ w then some ⟨n, h⟩ else none

/-- `a + b`, if it fits. -/
def checkedAdd (a b : Word w) : Option (Word w) :=
  ofNat? w (a.val + b.val)

/-- `a - b`, if it is not negative. -/
def checkedSub (a b : Word w) : Option (Word w) :=
  if b.val ≤ a.val then some ⟨a.val - b.val, by omega⟩ else none

/-- `a * b`, if it fits. -/
def checkedMul (a b : Word w) : Option (Word w) :=
  ofNat? w (a.val * b.val)

/-- `a / b`, if `b` is not zero. -/
def checkedDiv (a b : Word w) : Option (Word w) :=
  if b.val = 0 then none else some ⟨a.val / b.val, lt_of_le_of_lt (Nat.div_le_self _ _) a.isLt⟩

/-- `a - b`, or zero if it is negative. -/
def saturatingSub (a b : Word w) : Word w :=
  ⟨a.val - b.val, by omega⟩

@[simp] theorem saturatingSub_val (a b : Word w) : (a.saturatingSub b).val = a.val - b.val :=
  rfl

/-- `a + b`, or the largest word if it does not fit. -/
def saturatingAdd (a b : Word w) : Word w :=
  ⟨min (a.val + b.val) (2 ^ w - 1), by have := Nat.two_pow_pos w; omega⟩

@[simp] theorem saturatingAdd_val (a b : Word w) :
    (a.saturatingAdd b).val = min (a.val + b.val) (2 ^ w - 1) :=
  rfl

/-- A number is a word iff it is the word's value. -/
theorem ofNat?_eq_some {n : ℕ} {c : Word w} : ofNat? w n = some c ↔ c.val = n := by
  unfold ofNat?
  split_ifs with h
  · simp [Fin.ext_iff, eq_comm]
  · simp only [false_iff]
    intro hc
    exact h (hc ▸ c.isLt)

/-- A number is no word iff it is too large. -/
theorem ofNat?_eq_none {n : ℕ} : ofNat? w n = none ↔ 2 ^ w ≤ n := by
  unfold ofNat?
  split_ifs with h
  · simpa using h
  · simpa using h

theorem ofNat?_of_lt {n : ℕ} (h : n < 2 ^ w) : ofNat? w n = some ⟨n, h⟩ :=
  ofNat?_eq_some.2 rfl

/-- A checked sum is the sum. -/
theorem checkedAdd_eq_some {a b c : Word w} : checkedAdd a b = some c ↔ c.val = a.val + b.val :=
  ofNat?_eq_some

/-- A checked difference is the difference, and does not go below zero. -/
theorem checkedSub_eq_some {a b c : Word w} :
    checkedSub a b = some c ↔ a.val = b.val + c.val := by
  unfold checkedSub
  split_ifs with h
  · simp only [Option.some.injEq, Fin.ext_iff]
    omega
  · simp only [false_iff]
    omega

/-- A checked product is the product. -/
theorem checkedMul_eq_some {a b c : Word w} : checkedMul a b = some c ↔ c.val = a.val * b.val :=
  ofNat?_eq_some

/-- A checked quotient is the quotient by something else than zero. -/
theorem checkedDiv_eq_some {a b c : Word w} :
    checkedDiv a b = some c ↔ 0 < b.val ∧ c.val = a.val / b.val := by
  unfold checkedDiv
  split_ifs with h
  · simp [h]
  · simp only [Option.some.injEq, Fin.ext_iff]
    omega

/-- Widening keeps the value. -/
def widen (a : Word w) (v : ℕ) (h : w ≤ v) : Word v :=
  ⟨a.val, lt_of_lt_of_le a.isLt (Nat.pow_le_pow_right (by decide) h)⟩

@[simp] theorem widen_val (a : Word w) (v : ℕ) (h : w ≤ v) : (a.widen v h).val = a.val :=
  rfl

/-- The lowest `v` bits. -/
def truncate (a : Word w) (v : ℕ) : Word v :=
  ⟨a.val % 2 ^ v, Nat.mod_lt _ (Nat.two_pow_pos v)⟩

/-- Truncation keeps what fits. -/
theorem truncate_val (a : Word w) {v : ℕ} (h : a.val < 2 ^ v) : (a.truncate v).val = a.val :=
  Nat.mod_eq_of_lt h

end Word

/-- Signed 64-bit `a + b`, if it fits. -/
def checkedAddI64 (a b : ℤ) : Option ℤ :=
  if -2 ^ 63 ≤ a + b ∧ a + b < 2 ^ 63 then some (a + b) else none

/-- A checked sum of signed numbers is the sum. -/
theorem eq_of_checkedAddI64 {a b c : ℤ} (h : checkedAddI64 a b = some c) : c = a + b := by
  unfold checkedAddI64 at h
  split_ifs at h
  exact (Option.some.inj h).symm

/-! ## Byte strings -/

/-- A byte. -/
abbrev Byte := Word 8

/-- Little-endian encoding of `n` on `k` bytes; higher digits are dropped. -/
def leBytes : ℕ → ℕ → List Byte
  | 0, _ => []
  | k + 1, n => ⟨n % 2 ^ 8, Nat.mod_lt _ (by decide)⟩ :: leBytes k (n / 2 ^ 8)

/-- The number a byte string denotes, least significant byte first. -/
def ofLeBytes : List Byte → ℕ
  | [] => 0
  | b :: bs => b.val + 2 ^ 8 * ofLeBytes bs

@[simp] theorem length_leBytes : ∀ k n : ℕ, (leBytes k n).length = k
  | 0, _ => rfl
  | k + 1, n => by simp [leBytes, length_leBytes k]

/-- A number that fits in its bytes is read back. -/
theorem ofLeBytes_leBytes : ∀ {k n : ℕ}, n < 2 ^ (8 * k) → ofLeBytes (leBytes k n) = n
  | 0, n, h => by
    simp only [mul_zero, pow_zero] at h
    simp only [leBytes, ofLeBytes]
    omega
  | k + 1, n, h => by
    have hq : n / 2 ^ 8 < 2 ^ (8 * k) := by
      rw [Nat.div_lt_iff_lt_mul (by decide), ← pow_add]
      exact h
    rw [leBytes, ofLeBytes, ofLeBytes_leBytes hq]
    exact Nat.mod_add_div n (2 ^ 8)

/-- Numbers that fit are determined by their bytes. -/
theorem leBytes_inj {k m n : ℕ} (hm : m < 2 ^ (8 * k)) (hn : n < 2 ^ (8 * k))
    (h : leBytes k m = leBytes k n) : m = n := by
  rw [← ofLeBytes_leBytes hm, ← ofLeBytes_leBytes hn, h]

/-- What some bytes hold fits in them. -/
theorem ofLeBytes_lt : ∀ l : List Byte, ofLeBytes l < 2 ^ (8 * l.length)
  | [] => by simp [ofLeBytes]
  | b :: bs => by
    have ih := ofLeBytes_lt bs
    have hb := b.isLt
    rw [ofLeBytes, List.length_cons, Nat.mul_succ, pow_add, mul_comm (2 ^ (8 * bs.length))]
    have : 2 ^ 8 * (ofLeBytes bs + 1) ≤ 2 ^ 8 * 2 ^ (8 * bs.length) := Nat.mul_le_mul_left _ ih
    omega

/-- As many bytes are determined by the number that they hold. -/
theorem ofLeBytes_inj : ∀ {l m : List Byte}, l.length = m.length → ofLeBytes l = ofLeBytes m → l = m
  | [], [], _, _ => rfl
  | b :: bs, c :: cs, hlength, h => by
    have hb := b.isLt
    have hc := c.isLt
    rw [ofLeBytes, ofLeBytes] at h
    have hhead : b = c := Fin.ext (by omega)
    have htail : bs = cs := ofLeBytes_inj (by simpa using hlength) (by omega)
    rw [hhead, htail]

/-- Two's complement reading of a 64-bit number. -/
def toSigned64 (n : ℕ) : ℤ :=
  if n < 2 ^ 63 then n else (n : ℤ) - 2 ^ 64

/-- `compare` on byte strings is the lexicographic order. -/
theorem compare_list_eq_lt_iff : ∀ a b : List Byte, compare a b = .lt ↔ a < b
  | [], [] => by simp [compare, List.compareLex_nil_nil]
  | [], b :: bs => by simp [compare, List.compareLex_nil_cons]
  | a :: as, [] => by simp [compare, List.compareLex_cons_nil]
  | a :: as, b :: bs => by
    have ih := compare_list_eq_lt_iff as bs
    rw [List.cons_lt_cons_iff, ← ih]
    change List.compareLex compare (a :: as) (b :: bs) = .lt ↔ _
    rw [List.compareLex_cons_cons]
    rcases lt_trichotomy a b with h | rfl | h
    · rw [compare_lt_iff_lt.2 h]
      simp [h]
    · rw [compare_eq_iff_eq.2 rfl]
      simp
      rfl
    · rw [compare_gt_iff_gt.2 h]
      simp [h.not_gt, h.ne']

/-- Byte arrays of length `n`, compared lexicographically. -/
abbrev Bytes (n : ℕ) := {l : List Byte // l.length = n}

namespace Bytes

variable {n : ℕ}

/-- There are finitely many byte strings of a length. -/
instance : Fintype (Bytes n) :=
  inferInstanceAs (Fintype (List.Vector Byte n))

/-- The big-endian array of the number `m`. -/
def ofNat (n m : ℕ) : Bytes n :=
  ⟨(leBytes n m).reverse, by simp⟩

/-- The array a byte string of the right length is. -/
def ofList? (n : ℕ) (l : List Byte) : Option (Bytes n) :=
  if h : l.length = n then some ⟨l, h⟩ else none

@[simp] theorem length_val (b : Bytes n) : b.val.length = n :=
  b.2

/-- A list of the right length is a byte string. -/
theorem ofList?_eq_some {l : List Byte} {b : Bytes n} : ofList? n l = some b ↔ b.val = l := by
  unfold ofList?
  split_ifs with h
  · simp [Subtype.ext_iff, eq_comm]
  · simp only [false_iff]
    rintro rfl
    exact h b.2

/-- Byte strings are compared as lists. -/
theorem compare_eq (a b : Bytes n) : compare a b = compare a.val b.val :=
  rfl

/-- The comparison is the order. -/
theorem compare_eq_lt_iff (a b : Bytes n) : compare a b = .lt ↔ a < b :=
  compare_list_eq_lt_iff a.val b.val

/-- The comparison is transitive. -/
instance : Std.TransOrd (Bytes n) where
  eq_swap {a b} := by
    rw [compare_eq, compare_eq]
    exact Std.OrientedOrd.eq_swap
  isLE_trans {a b c} h h' := by
    rw [compare_eq] at *
    exact Std.TransOrd.isLE_trans h h'

/-- The comparison is equal on equal byte strings only. -/
instance : Std.LawfulEqOrd (Bytes n) where
  eq_of_compare {a b} h := Subtype.ext (Std.LawfulEqOrd.eq_of_compare h)
  compare_self {a} := by
    rw [compare_eq]
    exact Std.ReflOrd.compare_self

end Bytes

/-- The `len` bytes of `d` from `off`; shorter if `d` ends before. -/
def slice (d : List Byte) (off len : ℕ) : List Byte :=
  (d.drop off).take len

/-- A slice inside the data has its length. -/
theorem length_slice {d : List Byte} {off len : ℕ} (h : off + len ≤ d.length) :
    (slice d off len).length = len := by
  simp only [slice, List.length_take, List.length_drop]
  omega

/-- A slice of the first part. -/
theorem slice_append_left {a b : List Byte} {off len : ℕ} (h : off + len ≤ a.length) :
    slice (a ++ b) off len = slice a off len := by
  rw [slice, slice, List.drop_append_of_le_length (by omega),
    List.take_append_of_le_length (by rw [List.length_drop]; omega)]

/-- A slice of the second part. -/
theorem slice_append_right {a b : List Byte} {off len : ℕ} (h : a.length ≤ off) :
    slice (a ++ b) off len = slice b (off - a.length) len := by
  rw [slice, slice, List.drop_append, List.drop_eq_nil_of_le h, List.nil_append]

theorem slice_head {a b : List Byte} {len : ℕ} (h : a.length = len) :
    slice (a ++ b) 0 len = a := by
  rw [slice_append_left (by omega), slice, List.drop_zero, ← h, List.take_length]

theorem slice_all {a : List Byte} {len : ℕ} (h : a.length = len) : slice a 0 len = a := by
  rw [slice, List.drop_zero, ← h, List.take_length]

/-- The little-endian word of `8 * k` bits at `off`. -/
def leWordAt (k : ℕ) (d : List Byte) (off : ℕ) : Word (8 * k) :=
  ⟨ofLeBytes (slice d off k), by
    refine lt_of_lt_of_le (ofLeBytes_lt _) (Nat.pow_le_pow_right (by decide) ?_)
    exact Nat.mul_le_mul_left _ (by simp [slice])⟩

/-- A word of the data is the number that its bytes hold. -/
theorem leWordAt_val (k : ℕ) (d : List Byte) (off : ℕ) :
    (leWordAt k d off).val = ofLeBytes (slice d off k) :=
  rfl

/-- A word read where its encoding stands. -/
theorem leWordAt_of_slice {k off n : ℕ} {d : List Byte} (hn : n < 2 ^ (8 * k))
    (h : slice d off k = leBytes k n) : (leWordAt k d off).val = n := by
  rw [leWordAt_val, h, ofLeBytes_leBytes hn]

end Machine
