import GraveYield.Basic
import GraveYield.Lib.Borsh
import GraveYield.Lib.Wire

/-!
# The Borsh writer and reader of the SDK

Every instruction builder precomputes a size and fills a buffer of that size field by field;
`done` refuses a buffer that is not full. Every account decoder reads field by field. Numbers
are unbounded integers that each write checks against the range of its type.
-/

namespace GraveYield.Sdk

open Machine Checked Wire

/-! ## The source -/

/-- The integer types of the wire. -/
inductive IntType where
  | u8
  | u16
  | u32
  | u64
  | i64
  | u128
  deriving DecidableEq

/-- What the writer, the reader and the loops around them throw. -/
inductive BorshError where
  | outOfRange (type : IntType) (v : ℤ)
  | writerOverflow (pos need size : ℕ)
  | writerFilled (pos size : ℕ)
  | readerUnderflow (pos need size : ℕ)
  | seekOutOfBounds (n : ℕ)
  | tooShort (length : ℕ)
  | discriminatorMismatch
  | proofElementLength (length : ℕ)
  deriving DecidableEq

namespace Writer

/-- Bytes at the position of the writer. -/
def bytes (b : List Byte) : Write BorshError := fun w => do
  require (w.pos + b.length ≤ w.bytes.length) (.writerOverflow w.pos b.length w.bytes.length)
  return w.put b

/-- The little-endian bytes of a number in the range of an unsigned type. -/
def unsigned (type : IntType) (size : ℕ) (v : ℤ) : Write BorshError := fun w => do
  require (0 ≤ v ∧ v < 2 ^ (8 * size)) (.outOfRange type v)
  bytes (leBytes size v.toNat) w

/-- A `u8`. -/
def u8 : ℤ → Write BorshError := unsigned .u8 1

/-- A `u16`. -/
def u16 : ℤ → Write BorshError := unsigned .u16 2

/-- A `u32`. -/
def u32 : ℤ → Write BorshError := unsigned .u32 4

/-- A `u64`. -/
def u64 : ℤ → Write BorshError := unsigned .u64 8

/-- A `u128`. -/
def u128 : ℤ → Write BorshError := unsigned .u128 16

/-- An `i64`, in two's complement. -/
def i64 (v : ℤ) : Write BorshError := fun w => do
  require (-2 ^ 63 ≤ v ∧ v < 2 ^ 63) (.outOfRange .i64 v)
  bytes (leBytes 8 (Borsh.twosComplement64 v)) w

/-- A boolean, as a byte. -/
def bool (v : Bool) : Write BorshError :=
  u8 (if v then 1 else 0)

/-- An option, behind its tag. -/
def option {α : Type} (v : Option α) (some : α → Write BorshError) : Write BorshError :=
  match v with
  | .none => u8 0
  | .some a => writeAll [u8 1, some a]

/-- A vector, behind its length. -/
def vec {α : Type} (items : List α) (each : α → Write BorshError) : Write BorshError :=
  writeAll (u32 items.length :: items.map each)

end Writer

/-- The writes of a chain on `writer(size)`, and `done`. -/
def writer (size : ℕ) (writes : List (Write BorshError)) : Except BorshError (List Byte) := do
  let w ← writeAll writes (.zeroed size)
  require (w.pos = w.bytes.length) (.writerFilled w.pos w.bytes.length)
  return w.bytes

namespace Reader

/-- `new PublicKey(r.bytes(32))`. -/
def publicKey : Read BorshError Pubkey := fun buf pos =>
  if h : pos + 32 ≤ buf.length then .ok (⟨slice buf pos 32, length_slice h⟩, pos + 32)
  else .error (.readerUnderflow pos 32 buf.length)

/-- A little-endian number of `size` bytes. -/
def unsigned (size : ℕ) : Read BorshError (Word (8 * size)) := fun buf pos => do
  require (pos + size ≤ buf.length) (.readerUnderflow pos size buf.length)
  return (leWordAt size buf pos, pos + size)

/-- A `u8`. -/
def u8 : Read BorshError U8 := unsigned 1

/-- A `u16`. -/
def u16 : Read BorshError U16 := unsigned 2

/-- A `u64`. -/
def u64 : Read BorshError U64 := unsigned 8

/-- A `u128`. -/
def u128 : Read BorshError U128 := unsigned 16

/-- An `i64`, in two's complement. -/
def i64 : Read BorshError ℤ :=
  (fun v : U64 => toSigned64 v.val) <$> u64

/-- A boolean. Every byte but zero is true. -/
def bool : Read BorshError Bool :=
  (fun v : U8 => decide (v.val ≠ 0)) <$> u8

/-- The reader moves to a position, if the buffer reaches that far. -/
def seek (n : ℕ) : Read BorshError Unit := fun buf _ => do
  require (n ≤ buf.length) (.seekOutOfBounds n)
  return ((), n)

end Reader

/-! ## What the writes append -/

namespace Writer

/-- Bytes are appended as they are. -/
theorem appends_bytes (b : List Byte) : Appends (bytes b) b := by
  intro pre n
  have hroom : (Buffer.filled pre (b.length + n)).pos + b.length ≤
      (Buffer.filled pre (b.length + n)).bytes.length := by
    rw [Buffer.length_filled]
    change pre.length + b.length ≤ _
    omega
  rw [bytes, require_of hroom, ok_bind, Buffer.put_filled]
  rfl

/-- A number that fits is appended in little endian. -/
theorem appends_unsigned (type : IntType) {size v : ℕ} (h : v < 2 ^ (8 * size)) :
    Appends (unsigned type size v) (leBytes size v) := by
  intro pre n
  have hrange : 0 ≤ (v : ℤ) ∧ (v : ℤ) < 2 ^ (8 * size) :=
    ⟨Int.natCast_nonneg v, by exact_mod_cast h⟩
  rw [unsigned, require_of hrange, ok_bind, Int.toNat_natCast]
  exact appends_bytes _ pre n

theorem appends_word (type : IntType) {size : ℕ} (v : Word (8 * size)) :
    Appends (unsigned type size v.val) (Borsh.word size v) :=
  appends_unsigned type v.isLt

theorem appends_u8 (v : U8) : Appends (u8 v.val) (Borsh.u8 v) :=
  @appends_word .u8 1 v

theorem appends_u16 (v : U16) : Appends (u16 v.val) (Borsh.u16 v) :=
  @appends_word .u16 2 v

theorem appends_u64 (v : U64) : Appends (u64 v.val) (Borsh.u64 v) :=
  @appends_word .u64 8 v

theorem appends_u128 (v : U128) : Appends (u128 v.val) (Borsh.u128 v) :=
  @appends_word .u128 16 v

theorem appends_i64 {v : ℤ} (h : Borsh.InI64 v) : Appends (i64 v) (Borsh.i64 v) := by
  intro pre n
  have hrange : -2 ^ 63 ≤ v ∧ v < 2 ^ 63 := h
  rw [i64, require_of hrange, ok_bind]
  exact appends_bytes _ pre n

theorem appends_bool (v : Bool) : Appends (bool v) (Borsh.bool v) := by
  cases v with
  | false => exact appends_u8 0
  | true => exact appends_u8 1

/-- An option is appended as Borsh encodes it. -/
theorem appends_option {α : Type} {enc : α → List Byte} {some : α → Write BorshError}
    (henc : ∀ a, Appends (some a) (enc a)) (v : Option α) :
    Appends (option v some) (Borsh.option enc v) := by
  cases v with
  | none => exact appends_u8 0
  | some a =>
    have h := Appends.all (.cons (appends_u8 1) (.cons (henc a) .nil))
    rw [List.flatten_cons, List.flatten_cons, List.flatten_nil, List.append_nil] at h
    exact h

/-- A vector of fewer than `2 ^ 32` elements is appended as Borsh encodes it. -/
theorem appends_vec {α : Type} {enc : α → List Byte} {each : α → Write BorshError}
    (henc : ∀ a, Appends (each a) (enc a)) {items : List α} (h : items.length < 2 ^ 32) :
    Appends (vec items each) (Borsh.vec enc items) := by
  have hitems : List.Forall₂ Appends (items.map each) (items.map enc) := by
    rw [List.forall₂_map_left_iff, List.forall₂_map_right_iff, List.forall₂_same]
    exact fun a _ => henc a
  have hlength : Appends (u32 items.length) (leBytes 4 items.length) := appends_unsigned .u32 h
  have hall := Appends.all (.cons hlength hitems)
  rw [List.flatten_cons] at hall
  exact hall

end Writer

/-- A chain of writes into a buffer of the size of what they append. -/
theorem writer_eq {size : ℕ} {writes : List (Write BorshError)} {encs : List (List Byte)}
    (h : List.Forall₂ Appends writes encs) (hsize : size = encs.flatten.length) :
    writer size writes = .ok encs.flatten := by
  rw [writer, (Appends.all h).zeroed hsize, ok_bind, require_of rfl]
  rfl

/-! ## What the reads consume -/

namespace Reader

/-- What stands between two others. -/
theorem slice_middle (pre bs post : List Byte) :
    slice (pre ++ bs ++ post) pre.length bs.length = bs := by
  rw [List.append_assoc, slice_append_right le_rfl, Nat.sub_self]
  exact slice_head rfl

/-- A key is read back. -/
theorem reads_publicKey (key : Pubkey) : Reads publicKey key.val key := by
  intro pre post
  have hroom : pre.length + 32 ≤ (pre ++ key.val ++ post).length := by
    rw [List.length_append, List.length_append, Bytes.length_val]
    omega
  have hslice : slice (pre ++ key.val ++ post) pre.length 32 = key.val := by
    have h := slice_middle pre key.val post
    rwa [Bytes.length_val] at h
  rw [publicKey, dif_pos hroom, List.length_append, Bytes.length_val]
  exact congrArg (fun k => Except.ok (k, pre.length + 32)) (Subtype.ext hslice)

/-- A word is read back. -/
theorem reads_unsigned {size : ℕ} (v : Word (8 * size)) :
    Reads (unsigned size) (Borsh.word size v) v := by
  intro pre post
  have hlength : (Borsh.word size v).length = size := length_leBytes size _
  have hroom : pre.length + size ≤ (pre ++ Borsh.word size v ++ post).length := by
    rw [List.length_append, List.length_append, hlength]
    omega
  have hslice : slice (pre ++ Borsh.word size v ++ post) pre.length size = leBytes size v.val := by
    have h := slice_middle pre (Borsh.word size v) post
    rwa [hlength] at h
  have hword : leWordAt size (pre ++ Borsh.word size v ++ post) pre.length = v :=
    Fin.ext (leWordAt_of_slice v.isLt hslice)
  rw [unsigned, require_of hroom, ok_bind, hword, List.length_append, hlength]
  rfl

theorem reads_u8 (v : U8) : Reads u8 (Borsh.u8 v) v :=
  @reads_unsigned 1 v

theorem reads_u16 (v : U16) : Reads u16 (Borsh.u16 v) v :=
  @reads_unsigned 2 v

theorem reads_u64 (v : U64) : Reads u64 (Borsh.u64 v) v :=
  @reads_unsigned 8 v

theorem reads_u128 (v : U128) : Reads u128 (Borsh.u128 v) v :=
  @reads_unsigned 16 v

/-- A value of an `i64` is read back. -/
theorem reads_i64 {v : ℤ} (h : Borsh.InI64 v) : Reads i64 (Borsh.i64 v) v := by
  have hread := (reads_u64 ⟨Borsh.twosComplement64 v, Borsh.twosComplement64_lt v⟩).map
    fun w : U64 => toSigned64 w.val
  rwa [Borsh.toSigned64_twosComplement64 h] at hread

/-- A boolean is read back. -/
theorem reads_bool (v : Bool) : Reads bool (Borsh.bool v) v := by
  cases v with
  | false => exact (reads_u8 0).map fun w : U8 => decide (w.val ≠ 0)
  | true => exact (reads_u8 1).map fun w : U8 => decide (w.val ≠ 0)

end Reader

end GraveYield.Sdk
