import GraveYield.Lib.Borsh

/-!
# Codecs

A codec decodes a value off the front of a byte string. `decode_eq_some` is both directions at
once : what was encoded is decoded again, whatever follows it, and only what was encoded is
decoded, so no value has two encodings. Codecs are closed under pairs, options, sequences and
bijections, and `Codec.word` to `Codec.vec` are those of Borsh.

An `Entry` is a named codec. `dispatch` selects the entry by the tag in front (`dispatch_ok_iff`).
-/

namespace Wire

open Machine

/-- A prefix code for the valid values of a type. -/
structure Codec (α : Type) where
  Valid : α → Prop
  encode : α → List Byte
  decode : List Byte → Option (α × List Byte)
  decode_eq_some : ∀ {bs rest : List Byte} {a : α},
    decode bs = some (a, rest) ↔ Valid a ∧ bs = encode a ++ rest

namespace Codec

variable {α β : Type}

/-- `n` bytes. -/
def bytes (n : ℕ) : Codec (Bytes n) where
  Valid _ := True
  encode := Subtype.val
  decode bs := (Bytes.ofList? n (bs.take n)).map fun b => (b, bs.drop n)
  decode_eq_some {bs rest b} := by
    simp only [Option.map_eq_some_iff, Bytes.ofList?_eq_some, Prod.mk.injEq, true_and]
    constructor
    · rintro ⟨b', hb, rfl, rfl⟩
      rw [hb, List.take_append_drop]
    · rintro rfl
      exact ⟨b, (List.take_left' b.2).symm, rfl, List.drop_left' b.2⟩

/-- The same codec for another type with the same values. -/
def map (c : Codec α) (e : α ≃ β) : Codec β where
  Valid b := c.Valid (e.symm b)
  encode b := c.encode (e.symm b)
  decode bs := (c.decode bs).map fun p => (e p.1, p.2)
  decode_eq_some {bs rest b} := by
    simp only [Option.map_eq_some_iff, Prod.exists, Prod.mk.injEq]
    constructor
    · rintro ⟨a, r, h, rfl, rfl⟩
      rw [e.symm_apply_apply]
      exact c.decode_eq_some.1 h
    · intro h
      exact ⟨e.symm b, rest, c.decode_eq_some.2 h, e.apply_symm_apply b, rfl⟩

/-- One value after the other. -/
def pair (c : Codec α) (d : Codec β) : Codec (α × β) where
  Valid p := c.Valid p.1 ∧ d.Valid p.2
  encode p := c.encode p.1 ++ d.encode p.2
  decode bs := (c.decode bs).bind fun p => (d.decode p.2).map fun q => ((p.1, q.1), q.2)
  decode_eq_some {bs rest p} := by
    obtain ⟨a, b⟩ := p
    simp only [Option.bind_eq_some_iff, Option.map_eq_some_iff, Prod.exists, Prod.mk.injEq,
      c.decode_eq_some, d.decode_eq_some]
    constructor
    · rintro ⟨_, _, ⟨ha, rfl⟩, _, _, ⟨hb, rfl⟩, ⟨rfl, rfl⟩, rfl⟩
      exact ⟨⟨ha, hb⟩, (List.append_assoc _ _ _).symm⟩
    · rintro ⟨⟨ha, hb⟩, rfl⟩
      exact ⟨a, _, ⟨ha, List.append_assoc _ _ _⟩, b, rest, ⟨hb, rfl⟩, ⟨rfl, rfl⟩, rfl⟩

/-- `n` bytes, of which every string stands for one valid value. -/
def ofBytes {n : ℕ} (P : α → Prop) (enc : α → Bytes n) (dec : Bytes n → α)
    (hdec : ∀ b, P (dec b) ∧ enc (dec b) = b) (henc : ∀ a, P a → dec (enc a) = a) : Codec α where
  Valid := P
  encode a := (enc a).val
  decode bs := ((bytes n).decode bs).map fun p => (dec p.1, p.2)
  decode_eq_some {bs rest a} := by
    simp only [Option.map_eq_some_iff, Prod.exists, Prod.mk.injEq]
    constructor
    · rintro ⟨b, r, h, rfl, rfl⟩
      refine ⟨(hdec b).1, ?_⟩
      rw [(hdec b).2]
      exact ((bytes n).decode_eq_some.1 h).2
    · rintro ⟨ha, rfl⟩
      exact ⟨enc a, rest, (bytes n).decode_eq_some.2 ⟨trivial, rfl⟩, henc a ha, rfl⟩

/-! ## Borsh -/

/-- Bytes are the encoding of the number that they hold. -/
theorem leBytes_ofLeBytes {k : ℕ} (b : Bytes k) : leBytes k (ofLeBytes b.val) = b.val := by
  have hlt : ofLeBytes b.val < 2 ^ (8 * k) := by simpa using ofLeBytes_lt b.val
  exact ofLeBytes_inj (by simp) (ofLeBytes_leBytes hlt)

/-- An unsigned integer of `8 * k` bits. -/
def word (k : ℕ) : Codec (Word (8 * k)) :=
  ofBytes (fun _ => True) (fun v => ⟨Borsh.word k v, length_leBytes k _⟩)
    (fun b => ⟨ofLeBytes b.val, by simpa using ofLeBytes_lt b.val⟩)
    (fun b => ⟨trivial, Subtype.ext (leBytes_ofLeBytes b)⟩)
    (fun v _ => Fin.ext (ofLeBytes_leBytes v.isLt))

/-- A `u8`. -/
def u8 : Codec (Word 8) :=
  word 1

/-- A `u16`. -/
def u16 : Codec (Word 16) :=
  word 2

/-- A `u64`. -/
def u64 : Codec (Word 64) :=
  word 8

/-- A `u128`. -/
def u128 : Codec (Word 128) :=
  word 16

/-- A signed integer of 64 bits. -/
def i64 : Codec ℤ :=
  ofBytes Borsh.InI64 (fun z => ⟨Borsh.i64 z, length_leBytes 8 _⟩)
    (fun b => toSigned64 (ofLeBytes b.val))
    (fun b => by
      have hlt : ofLeBytes b.val < 2 ^ 64 := by simpa using ofLeBytes_lt b.val
      have hsigned : Borsh.InI64 (toSigned64 (ofLeBytes b.val)) ∧
          Borsh.twosComplement64 (toSigned64 (ofLeBytes b.val)) = ofLeBytes b.val := by
        unfold Borsh.InI64 Borsh.twosComplement64 toSigned64
        split_ifs
        · omega
        · omega
      refine ⟨hsigned.1, Subtype.ext ?_⟩
      change leBytes 8 (Borsh.twosComplement64 (toSigned64 (ofLeBytes b.val))) = b.val
      rw [hsigned.2, leBytes_ofLeBytes])
    (fun z hz => by
      change toSigned64 (ofLeBytes (leBytes 8 (Borsh.twosComplement64 z))) = z
      rw [ofLeBytes_leBytes (Borsh.twosComplement64_lt z), Borsh.toSigned64_twosComplement64 hz])

/-- A byte that is 0 or 1. -/
def bool : Codec Bool where
  Valid _ := True
  encode := Borsh.bool
  decode
    | b :: bs => if b = 0 then some (false, bs) else if b = 1 then some (true, bs) else none
    | [] => none
  decode_eq_some {bs rest a} := by
    cases bs with
    | nil => cases a <;> simp [Borsh.bool]
    | cons b bs =>
      by_cases h0 : b = 0
      · cases a <;> simp [Borsh.bool, h0]
      · by_cases h1 : b = 1
        · cases a <;> simp [Borsh.bool, h1]
        · cases a <;> simp [Borsh.bool, h0, h1]

/-- A tag that is 0 or 1, and the value after a 1. -/
def option (c : Codec α) : Codec (Option α) where
  Valid o := ∀ a ∈ o, c.Valid a
  encode := Borsh.option c.encode
  decode bs := (bool.decode bs).bind fun p =>
    if p.1 then (c.decode p.2).map fun q => (some q.1, q.2) else some (none, p.2)
  decode_eq_some {bs rest o} := by
    simp only [Option.bind_eq_some_iff, Prod.exists, bool.decode_eq_some]
    constructor
    · rintro ⟨tag, r, ⟨_, rfl⟩, h⟩
      cases tag with
      | false =>
        obtain ⟨rfl, rfl⟩ := Prod.mk.inj (Option.some.inj h)
        exact ⟨by simp, rfl⟩
      | true =>
        obtain ⟨⟨a, r'⟩, ha, heq⟩ := Option.map_eq_some_iff.1 h
        obtain ⟨rfl, rfl⟩ := Prod.mk.inj heq
        obtain ⟨hvalid, rfl⟩ := c.decode_eq_some.1 ha
        exact ⟨by simpa using hvalid, rfl⟩
    · rintro ⟨hvalid, rfl⟩
      cases o with
      | none => exact ⟨false, rest, ⟨trivial, rfl⟩, rfl⟩
      | some a =>
        refine ⟨true, c.encode a ++ rest, ⟨trivial, rfl⟩, ?_⟩
        simp [c.decode_eq_some.2 ⟨hvalid a rfl, rfl⟩]

/-- `n` values, one after the other. -/
def decodeMany (c : Codec α) : ℕ → List Byte → Option (List α × List Byte)
  | 0, bs => some ([], bs)
  | n + 1, bs => (c.decode bs).bind fun p =>
    (decodeMany c n p.2).map fun q => (p.1 :: q.1, q.2)

/-- What is decoded `n` times is the encodings of `n` valid values. -/
theorem decodeMany_eq_some {c : Codec α} {n : ℕ} {bs rest : List Byte} {l : List α} :
    c.decodeMany n bs = some (l, rest) ↔
      l.length = n ∧ (∀ a ∈ l, c.Valid a) ∧ bs = (l.map c.encode).flatten ++ rest := by
  induction n generalizing bs l rest with
  | zero =>
    rw [decodeMany, Option.some.injEq, Prod.mk.injEq, List.length_eq_zero_iff]
    constructor
    · rintro ⟨rfl, rfl⟩
      exact ⟨rfl, by simp, rfl⟩
    · rintro ⟨rfl, _, rfl⟩
      exact ⟨rfl, rfl⟩
  | succ n ih =>
    simp only [decodeMany, Option.bind_eq_some_iff, Option.map_eq_some_iff, Prod.exists,
      Prod.mk.injEq, c.decode_eq_some, ih]
    constructor
    · rintro ⟨a, _, ⟨ha, rfl⟩, l', _, ⟨hlength, hl', rfl⟩, rfl, rfl⟩
      exact ⟨by simp [hlength], by simpa using ⟨ha, hl'⟩, by simp⟩
    · rintro ⟨hlength, hl, rfl⟩
      cases l with
      | nil => cases hlength
      | cons a l =>
        rw [List.forall_mem_cons] at hl
        exact ⟨a, _, ⟨hl.1, by simp⟩, l, rest, ⟨by simpa using hlength, hl.2, rfl⟩, rfl, rfl⟩

/-- A count on four bytes, and as many values. -/
def vec (c : Codec α) : Codec (List α) where
  Valid l := l.length < 2 ^ 32 ∧ ∀ a ∈ l, c.Valid a
  encode := Borsh.vec c.encode
  decode bs := ((word 4).decode bs).bind fun p => c.decodeMany p.1.val p.2
  decode_eq_some {bs rest l} := by
    simp only [Option.bind_eq_some_iff, Prod.exists, (word 4).decode_eq_some, decodeMany_eq_some]
    constructor
    · rintro ⟨n, _, ⟨_, rfl⟩, hlength, hl, rfl⟩
      refine ⟨⟨hlength ▸ n.isLt, hl⟩, ?_⟩
      rw [Borsh.vec, hlength, List.append_assoc]
      rfl
    · rintro ⟨⟨hlt, hl⟩, rfl⟩
      exact ⟨⟨l.length, hlt⟩, _, ⟨trivial, List.append_assoc _ _ _⟩, rfl, hl, rfl⟩

/-- Nothing at all. -/
def unit : Codec Unit where
  Valid _ := True
  encode _ := []
  decode bs := some ((), bs)
  decode_eq_some := by simp

section Simp

variable (c : Codec α) (d : Codec β) (e : α ≃ β)

@[simp] theorem valid_bytes {n : ℕ} (b : Bytes n) : (bytes n).Valid b := trivial
@[simp] theorem valid_u8 (v : Word 8) : u8.Valid v := trivial
@[simp] theorem valid_u16 (v : Word 16) : u16.Valid v := trivial
@[simp] theorem valid_u64 (v : Word 64) : u64.Valid v := trivial
@[simp] theorem valid_u128 (v : Word 128) : u128.Valid v := trivial
@[simp] theorem valid_bool (b : Bool) : bool.Valid b := trivial
@[simp] theorem valid_unit (u : Unit) : unit.Valid u := trivial
@[simp] theorem valid_i64 (z : ℤ) : i64.Valid z ↔ Borsh.InI64 z := Iff.rfl
@[simp] theorem valid_map (b : β) : (c.map e).Valid b ↔ c.Valid (e.symm b) := Iff.rfl
@[simp] theorem valid_pair (p : α × β) : (c.pair d).Valid p ↔ c.Valid p.1 ∧ d.Valid p.2 := Iff.rfl
@[simp] theorem valid_option (o : Option α) : c.option.Valid o ↔ ∀ a ∈ o, c.Valid a := Iff.rfl

@[simp] theorem valid_vec (l : List α) :
    c.vec.Valid l ↔ l.length < 2 ^ 32 ∧ ∀ a ∈ l, c.Valid a := Iff.rfl

@[simp] theorem encode_bytes (n : ℕ) : (bytes n).encode = Subtype.val := rfl
@[simp] theorem encode_u8 : u8.encode = Borsh.u8 := rfl
@[simp] theorem encode_u16 : u16.encode = Borsh.u16 := rfl
@[simp] theorem encode_u64 : u64.encode = Borsh.u64 := rfl
@[simp] theorem encode_u128 : u128.encode = Borsh.u128 := rfl
@[simp] theorem encode_i64 : i64.encode = Borsh.i64 := rfl
@[simp] theorem encode_bool : bool.encode = Borsh.bool := rfl
@[simp] theorem encode_unit (u : Unit) : unit.encode u = [] := rfl
@[simp] theorem encode_map (b : β) : (c.map e).encode b = c.encode (e.symm b) := rfl
@[simp] theorem encode_option : c.option.encode = Borsh.option c.encode := rfl
@[simp] theorem encode_vec : c.vec.encode = Borsh.vec c.encode := rfl

@[simp] theorem encode_pair (p : α × β) : (c.pair d).encode p = c.encode p.1 ++ d.encode p.2 :=
  rfl

end Simp

end Codec

/-! ## Tagged values -/

/-- A named codec, of some of the values of a type. -/
structure Entry (ι : Type) where
  name : String
  Payload : Type
  codec : Codec Payload
  wrap : Payload → ι

/-- What a dispatcher returns for data that it does not know. -/
inductive DispatchError where
  /-- No entry has the tag. -/
  | fallbackNotFound
  /-- The payload does not decode. -/
  | didNotDeserialize
  deriving DecidableEq

section Dispatch

variable {ι : Type} (tag : String → List Byte)

/-- The first entry whose tag stands in front, and its payload. -/
def dispatch (entries : List (Entry ι)) (data : List Byte) : Except DispatchError (ι × List Byte) :=
  match entries.find? fun e => (tag e.name).isPrefixOf data with
  | none => .error .fallbackNotFound
  | some e =>
    match e.codec.decode (data.drop (tag e.name).length) with
    | none => .error .didNotDeserialize
    | some (a, rest) => .ok (e.wrap a, rest)

variable {tag} {entries : List (Entry ι)}

/-- Two tags of one length in front of one string are one tag. -/
theorem tag_eq_of_prefix {n : ℕ} (hlength : ∀ name, (tag name).length = n) {x y : String}
    {data : List Byte} (hx : tag x <+: data) (hy : tag y <+: data) : tag x = tag y := by
  obtain ⟨r, rfl⟩ := hx
  exact (List.prefix_of_prefix_length_le (List.prefix_append _ _) hy
    (by rw [hlength, hlength])).eq_of_length (by rw [hlength, hlength])

/-- What is decoded was encoded by an entry. -/
theorem encoded_of_dispatch {data rest : List Byte} {i : ι}
    (h : dispatch tag entries data = .ok (i, rest)) :
    ∃ e ∈ entries, ∃ a, e.wrap a = i ∧ e.codec.Valid a ∧
      data = tag e.name ++ e.codec.encode a ++ rest := by
  simp only [dispatch] at h
  split at h
  · cases h
  · next e hfind =>
    split at h
    · cases h
    · next a r hdecode =>
      obtain ⟨hi, rfl⟩ := Prod.mk.inj (Except.ok.inj h)
      obtain ⟨hvalid, hdrop⟩ := e.codec.decode_eq_some.1 hdecode
      have hprefix : tag e.name <+: data := by
        simpa using List.find?_some hfind
      refine ⟨e, List.mem_of_find?_eq_some hfind, a, hi, hvalid, ?_⟩
      rw [List.append_assoc, ← hdrop]
      obtain ⟨r', rfl⟩ := hprefix
      rw [List.drop_left]

/-- Where the tags tell the entries apart, a value is decoded iff it was encoded by an entry. -/
theorem dispatch_ok_iff {n : ℕ} (hlength : ∀ name, (tag name).length = n)
    (hnodup : (entries.map fun e => tag e.name).Nodup) {data rest : List Byte} {i : ι} :
    dispatch tag entries data = .ok (i, rest) ↔
      ∃ e ∈ entries, ∃ a, e.wrap a = i ∧ e.codec.Valid a ∧
        data = tag e.name ++ e.codec.encode a ++ rest := by
  constructor
  · exact encoded_of_dispatch
  · rintro ⟨e, he, a, rfl, hvalid, rfl⟩
    have hprefix : tag e.name <+: tag e.name ++ e.codec.encode a ++ rest := by
      rw [List.append_assoc]
      exact List.prefix_append _ _
    have hfind : (entries.find? fun x =>
        (tag x.name).isPrefixOf (tag e.name ++ e.codec.encode a ++ rest)) = some e := by
      cases hfind : entries.find? fun x =>
          (tag x.name).isPrefixOf (tag e.name ++ e.codec.encode a ++ rest) with
      | none =>
        exact absurd (List.isPrefixOf_iff_prefix.2 hprefix) (List.find?_eq_none.1 hfind e he)
      | some x =>
        have hx : tag x.name <+: tag e.name ++ e.codec.encode a ++ rest := by
          simpa using List.find?_some hfind
        have htag : tag x.name = tag e.name := tag_eq_of_prefix hlength hx hprefix
        rw [List.inj_on_of_nodup_map hnodup (List.mem_of_find?_eq_some hfind) he htag]
    have hdrop : (tag e.name ++ e.codec.encode a ++ rest).drop (tag e.name).length =
        e.codec.encode a ++ rest := by
      rw [List.append_assoc, List.drop_left]
    simp only [dispatch, hfind, hdrop, e.codec.decode_eq_some.2 ⟨hvalid, rfl⟩]

end Dispatch

end Wire
