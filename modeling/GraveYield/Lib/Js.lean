import GraveYield.Lib.Word
import Mathlib.Data.Int.Log
import Mathlib.Data.List.DropRight

/-!
# Numbers and texts of JavaScript

`Number` is a number, taken as the rational that it is; what an operation gives exactly is rounded
to the nearest double (`toDouble`). `bigInt?` is `BigInt` of a text : decimal
digits with or without a sign, or binary, octal or hexadecimal ones with their prefix, between white
space; an empty text is zero. `utf8` and `hex` are the bytes of a text and the text of bytes.
-/

namespace Js

open Machine

/-- A number : a rational, an infinity or NaN. -/
inductive Number where
  | finite (value : ℚ)
  | notFinite
  deriving DecidableEq

/-! ## Doubles -/

/-- The nearest integer, of two the even one. -/
def roundHalfEven (x : ℚ) : ℤ :=
  if Int.fract x < 1 / 2 ∨ Int.fract x = 1 / 2 ∧ ⌊x⌋ % 2 = 0 then ⌊x⌋ else ⌊x⌋ + 1

/-- The distance of neighbouring doubles at `x` : they have 53 bits, and no exponent below that of
the subnormal ones. -/
def ulp (x : ℚ) : ℚ :=
  2 ^ (max (Int.log 2 |x|) (-1022) - 52)

/-- The nearest double of a number in their range, of two the even one. -/
def toDouble (x : ℚ) : ℚ :=
  roundHalfEven (x / ulp x) * ulp x

theorem le_roundHalfEven {m : ℤ} {x : ℚ} (h : m ≤ x) : m ≤ roundHalfEven x := by
  have hfloor : m ≤ ⌊x⌋ := Int.le_floor.2 h
  unfold roundHalfEven
  split_ifs <;> omega

theorem roundHalfEven_le {m : ℤ} {x : ℚ} (h : x ≤ m) : roundHalfEven x ≤ m := by
  have hfloor : ⌊x⌋ ≤ m := (Int.floor_mono h).trans_eq (Int.floor_intCast m)
  unfold roundHalfEven
  split_ifs with hdown
  · exact hfloor
  · -- an integer has no fraction to round up
    suffices hne : ⌊x⌋ ≠ m by omega
    rintro rfl
    have hfract : Int.fract x = 0 := by
      rw [Int.fract, sub_eq_zero]
      exact le_antisymm h (Int.floor_le x)
    exact hdown (Or.inl (by rw [hfract]; norm_num))

theorem ulp_pos (x : ℚ) : 0 < ulp x := by
  unfold ulp
  positivity

theorem toDouble_nonneg {x : ℚ} (h : 0 ≤ x) : 0 ≤ toDouble x := by
  have hround : (0 : ℤ) ≤ roundHalfEven (x / ulp x) :=
    le_roundHalfEven (by simpa using div_nonneg h (ulp_pos x).le)
  exact mul_nonneg (by exact_mod_cast hround) (ulp_pos x).le

/-- An integer of 53 bits is a whole number of steps at whatever is below it. -/
theorem exists_ulp_mul {x : ℚ} {m : ℕ} (h0 : 0 ≤ x) (h : x ≤ m) (hm : m < 2 ^ 53) :
    ∃ k : ℕ, ulp x * 2 ^ k = 1 := by
  have hlog : Int.log 2 |x| < 53 := by
    rcases h0.eq_or_lt with rfl | hpos
    · simp
    · rw [abs_of_pos hpos, ← Int.lt_zpow_iff_log_lt (by norm_num) hpos]
      refine h.trans_lt ?_
      exact_mod_cast hm
  refine ⟨(52 - max (Int.log 2 |x|) (-1022)).toNat, ?_⟩
  rw [ulp, ← zpow_natCast, ← zpow_add₀ two_ne_zero, Int.toNat_of_nonneg (by omega)]
  simp

/-- Integers of 53 bits are doubles, so nothing is rounded past them. -/
theorem toDouble_le {x : ℚ} {m : ℕ} (h0 : 0 ≤ x) (h : x ≤ m) (hm : m < 2 ^ 53) :
    toDouble x ≤ m := by
  obtain ⟨k, hk⟩ := exists_ulp_mul h0 h hm
  have hdiv : x / ulp x ≤ ((m * 2 ^ k : ℕ) : ℤ) := by
    rw [div_le_iff₀ (ulp_pos x)]
    push_cast
    rw [mul_assoc, mul_comm (2 ^ k), hk, mul_one]
    exact h
  calc toDouble x ≤ ((m * 2 ^ k : ℕ) : ℤ) * ulp x :=
        mul_le_mul_of_nonneg_right (by exact_mod_cast roundHalfEven_le hdiv) (ulp_pos x).le
    _ = m * (ulp x * 2 ^ k) := by push_cast; ring
    _ = m := by rw [hk, mul_one]

example : toDouble (1 / 10) = 3602879701896397 / 36028797018963968 := by
  decide +kernel

/-! ## Texts -/

/-- White space and line terminators. -/
def isWhiteSpace (c : Char) : Bool :=
  c.toNat ∈ [9, 10, 11, 12, 13, 0x20, 0xa0, 0x1680, 0x2028, 0x2029, 0x202f, 0x205f, 0x3000,
    0xfeff] || (0x2000 ≤ c.toNat && c.toNat ≤ 0x200a)

/-- `trim` : without the white space at both ends. -/
def trim (cs : List Char) : List Char :=
  (cs.dropWhile isWhiteSpace).rdropWhile isWhiteSpace

/-- The value of a digit, of any base up to 36. -/
def digitValue? (c : Char) : Option ℕ :=
  if c.isDigit then some (c.toNat - '0'.toNat)
  else if c.isLower then some (c.toNat - 'a'.toNat + 10)
  else if c.isUpper then some (c.toNat - 'A'.toNat + 10)
  else none

/-- One more digit. -/
def pushDigit? (base n : ℕ) (c : Char) : Option ℕ := do
  let d ← digitValue? c
  if d < base then some (n * base + d) else none

/-- A number of at least one digit. -/
def digits? (base : ℕ) (cs : List Char) : Option ℕ :=
  if cs = [] then none else cs.foldlM (pushDigit? base) 0

/-- `BigInt` of a text, or `none` where it throws. -/
def bigInt? (s : String) : Option ℤ :=
  match trim s.toList with
  | [] => some 0
  | '-' :: cs => (digits? 10 cs).map fun n => -(n : ℤ)
  | '+' :: cs => (digits? 10 cs).map Int.ofNat
  | '0' :: 'b' :: cs | '0' :: 'B' :: cs => (digits? 2 cs).map Int.ofNat
  | '0' :: 'o' :: cs | '0' :: 'O' :: cs => (digits? 8 cs).map Int.ofNat
  | '0' :: 'x' :: cs | '0' :: 'X' :: cs => (digits? 16 cs).map Int.ofNat
  | cs => (digits? 10 cs).map Int.ofNat

example : bigInt? " 0xff\n" = some 255 ∧ bigInt? "-12" = some (-12) ∧ bigInt? "1e3" = none := by
  decide +kernel

/-- The bytes of a text. -/
def utf8 (s : String) : List Byte :=
  s.toUTF8.toList.map fun b => ⟨b.toNat, b.toNat_lt⟩

/-- The lower-case hexadecimal text of bytes. -/
def hex (bs : List Byte) : String :=
  String.ofList (bs.flatMap fun b => [Nat.digitChar (b.val / 16), Nat.digitChar (b.val % 16)])

end Js
