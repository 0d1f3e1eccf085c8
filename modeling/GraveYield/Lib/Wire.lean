import GraveYield.Lib.Checked
import GraveYield.Lib.Word

/-!
# Cursors over a buffer

A writer fills a zeroed buffer of fixed size from the left, a reader takes a buffer apart from
the left. Both may fail.

`Appends w bs` : wherever there is room, `w` writes `bs`. `Reads r bs v` : wherever `bs` stands,
`r` consumes it and returns `v`. Both compose along a sequence of fields : what a list of writers
appends is the concatenation of what each of them appends (`Appends.all`), and a reader followed
by another reads the concatenation (`Reads.cons`).
-/

namespace Wire

open Machine Checked

variable {ε α β : Type}

/-! ## Writers -/

/-- A buffer with the position of the next write. -/
structure Buffer where
  bytes : List Byte
  pos : ℕ
  deriving DecidableEq

namespace Buffer

/-- A fresh buffer. -/
def zeroed (size : ℕ) : Buffer :=
  ⟨List.replicate size 0, 0⟩

/-- Overwrite from the position on, and advance. -/
def put (b : Buffer) (bs : List Byte) : Buffer :=
  ⟨b.bytes.take b.pos ++ bs ++ b.bytes.drop (b.pos + bs.length), b.pos + bs.length⟩

/-- The buffer that holds `bs` before the position and has room for `n` bytes. -/
def filled (bs : List Byte) (n : ℕ) : Buffer :=
  ⟨bs ++ List.replicate n 0, bs.length⟩

/-- Bytes that are put take the place of as many zeros. -/
theorem put_filled (pre bs : List Byte) (n : ℕ) :
    (filled pre (bs.length + n)).put bs = filled (pre ++ bs) n := by
  have hdrop : (pre ++ List.replicate (bs.length + n) (0 : Byte)).drop (pre.length + bs.length) =
      List.replicate n 0 := by
    rw [List.drop_append, List.drop_eq_nil_of_le (Nat.le_add_right _ _), List.nil_append,
      List.drop_replicate]
    congr 1
    omega
  simp only [filled, put, List.take_left, hdrop, List.length_append]

theorem length_filled (bs : List Byte) (n : ℕ) : (filled bs n).bytes.length = bs.length + n := by
  rw [filled, List.length_append, List.length_replicate]

end Buffer

/-- One write. -/
abbrev Write (ε : Type) := Buffer → Except ε Buffer

/-- Writes one after the other. -/
def writeAll (ws : List (Write ε)) : Write ε :=
  fun b => ws.foldlM (fun b w => w b) b

/-- Where there is room, `w` appends `bs`. -/
def Appends (w : Write ε) (bs : List Byte) : Prop :=
  ∀ pre n, w (.filled pre (bs.length + n)) = .ok (.filled (pre ++ bs) n)

/-- Writes append what each of them does, in order. -/
theorem Appends.all {ws : List (Write ε)} {encs : List (List Byte)}
    (h : List.Forall₂ Appends ws encs) : Appends (writeAll ws) encs.flatten := by
  induction h with
  | nil =>
    intro pre n
    rw [List.flatten_nil, List.length_nil, zero_add, List.append_nil]
    rfl
  | @cons w bs ws encs hw _ ih =>
    intro pre n
    have hfirst := hw pre (encs.flatten.length + n)
    rw [List.flatten_cons, List.length_append, add_assoc, writeAll, List.foldlM_cons, hfirst,
      ok_bind, ← List.append_assoc]
    exact ih (pre ++ bs) n

/-- A buffer of the right size is filled exactly. -/
theorem Appends.zeroed {w : Write ε} {bs : List Byte} (h : Appends w bs) {size : ℕ}
    (hsize : size = bs.length) : w (.zeroed size) = .ok ⟨bs, bs.length⟩ := by
  have hfull := h [] 0
  rw [List.nil_append, add_zero] at hfull
  have hstart : Buffer.filled [] bs.length = .zeroed size := by rw [hsize]; rfl
  have hend : Buffer.filled bs 0 = ⟨bs, bs.length⟩ := by
    rw [Buffer.filled, List.replicate_zero, List.append_nil]
  rw [← hstart, hfull, hend]

/-! ## Writes at fixed offsets -/

/-- `bs` in the place of what stands at an offset. -/
def setAt (buf : List Byte) (field : ℕ × List Byte) : List Byte :=
  ((⟨buf, field.1⟩ : Buffer).put field.2).bytes

/-- Fields written one after the other into a zeroed buffer. -/
def setAll (size : ℕ) (fields : List (ℕ × List Byte)) : List Byte :=
  fields.foldl setAt (List.replicate size 0)

/-- Every field stands where the one before it ends. -/
def Contiguous : ℕ → List (ℕ × List Byte) → Prop
  | _, [] => True
  | pos, field :: fields => field.1 = pos ∧ Contiguous (pos + field.2.length) fields

/-- Contiguous fields of the size of the buffer are concatenated. -/
theorem setAll_eq {size : ℕ} {fields : List (ℕ × List Byte)} (h : Contiguous 0 fields)
    (hsize : size = (fields.map Prod.snd).flatten.length) :
    setAll size fields = (fields.map Prod.snd).flatten := by
  have hfold : ∀ (fields : List (ℕ × List Byte)) (pre : List Byte),
      Contiguous pre.length fields →
      fields.foldl setAt (Buffer.filled pre (fields.map Prod.snd).flatten.length).bytes =
        pre ++ (fields.map Prod.snd).flatten := by
    intro fields
    induction fields with
    | nil =>
      intro pre _
      simp [Buffer.filled]
    | cons field fields ih =>
      intro pre hpre
      have hput := Buffer.put_filled pre field.2 (fields.map Prod.snd).flatten.length
      have hset : setAt (Buffer.filled pre (field.2.length +
          (fields.map Prod.snd).flatten.length)).bytes field =
            (Buffer.filled (pre ++ field.2) (fields.map Prod.snd).flatten.length).bytes := by
        rw [setAt, hpre.1]
        exact congrArg Buffer.bytes hput
      rw [List.map_cons, List.flatten_cons, List.length_append, List.foldl_cons, hset,
        ih (pre ++ field.2) (by rw [List.length_append]; exact hpre.2), List.append_assoc]
  have hzero : List.replicate size 0 =
      (Buffer.filled [] (fields.map Prod.snd).flatten.length).bytes := by
    rw [hsize]
    rfl
  rw [setAll, hzero, hfold fields [] h, List.nil_append]

/-- A field of a concatenation stands behind the fields before it. -/
theorem slice_flatten (pre post : List (List Byte)) (b : List Byte) {off len : ℕ}
    (hoff : off = pre.flatten.length) (hlen : len = b.length) :
    slice (pre ++ b :: post).flatten off len = b := by
  rw [List.flatten_append, List.flatten_cons, hoff, slice_append_right le_rfl, Nat.sub_self]
  exact slice_head hlen.symm

/-! ## Readers -/

/-- Read at a position, and advance. -/
abbrev Read (ε α : Type) := ReaderT (List Byte) (StateT ℕ (Except ε)) α

/-- Where `bs` stands, `r` consumes it and returns `v`. -/
def Reads (r : Read ε α) (bs : List Byte) (v : α) : Prop :=
  ∀ pre post, r (pre ++ bs ++ post) pre.length = .ok (v, (pre ++ bs).length)

theorem Reads.nil (v : α) : Reads (Pure.pure v : Read ε α) ([] : List (List Byte)).flatten v := by
  intro pre post
  rw [List.flatten_nil, List.append_nil]
  rfl

theorem Reads.cons {r : Read ε α} {f : α → Read ε β} {bs : List Byte} {rest : List (List Byte)}
    {v : α} {u : β} (hr : Reads r bs v) (hf : Reads (f v) rest.flatten u) :
    Reads (r >>= f) (bs :: rest).flatten u := by
  intro pre post
  have hfirst := hr pre (rest.flatten ++ post)
  have hrest := hf (pre ++ bs) post
  rw [← List.append_assoc] at hfirst
  rw [List.flatten_cons, ← List.append_assoc]
  change (r (pre ++ bs ++ rest.flatten ++ post) pre.length >>= fun x => f x.1 _ x.2) = _
  rw [hfirst]
  exact hrest

theorem Reads.map {r : Read ε α} {bs : List Byte} {v : α} (h : Reads r bs v) (f : α → β) :
    Reads (f <$> r) bs (f v) := by
  intro pre post
  change (r (pre ++ bs ++ post) pre.length >>= fun x => Pure.pure (f x.1, x.2)) = _
  rw [h]
  rfl

end Wire
