import GraveYield.Attestation

/-!
# The lookup in `SlotHashes`

The data of the sysvar is not trusted : the number of its entries is whatever its first eight bytes
say. `ByteSlice.slotHashLookup` is the loop with the machine's own arithmetic, where a product or a
sum that does not fit and a range outside the slice are panics. The loop stops at the first entry
that is not within the slice, before any of that can happen (`lookupLoop_ok`).
-/

namespace GraveYield.Scanner

open Machine Checked

/-! ## The loop on machine words -/

/-- A byte slice. No allocation is larger than `isize::MAX` bytes. -/
structure ByteSlice where
  bytes : List Byte
  length_lt : bytes.length < 2 ^ 63

/-- What aborts the program. -/
inductive Panic
  | overflow
  | outOfBounds
  | expect
  deriving DecidableEq

/-- `a + b` on `usize`. -/
def plainAdd (a b : U64) : Except Panic U64 :=
  okOr (a.checkedAdd b) .overflow

/-- `a * b` on `usize`. -/
def plainMul (a b : U64) : Except Panic U64 :=
  okOr (a.checkedMul b) .overflow

/-- `d[start..stop]` as an array of `n` bytes. -/
def ByteSlice.range (d : ByteSlice) (n : ℕ) (start stop : U64) : Except Panic (Bytes n) := do
  require (start.val ≤ stop.val ∧ stop.val ≤ d.bytes.length) .outOfBounds
  okOr (Bytes.ofList? n (slice d.bytes start.val (stop.val - start.val))) .expect

/-- The body of the loop of `slot_hash_lookup` at entry `i` : what it returns, or nothing if the
loop goes on. -/
def lookupEntry (d : ByteSlice) (targetSlot i : U64) : Except Panic (Option (Option Hash)) := do
  let offset ← plainMul i 40
  match (8 : U64).checkedAdd offset with
  | none => return some none
  | some base =>
    let stop ← plainAdd base 40
    if d.bytes.length < stop.val then return some none
    else
      let hashStart ← plainAdd base 8
      let slot ← d.range 8 base hashStart
      if ofLeBytes slot.val = targetSlot.val then
        let hash ← d.range 32 hashStart stop
        return some (some hash)
      else return none

/-- The loop from entry `i`, for at most `n` entries, with the number of times that its body has
run. -/
def lookupLoop (d : ByteSlice) (targetSlot : U64) : ℕ → ℕ → Except Panic (Option Hash × ℕ)
  | 0, i => return (none, i)
  | n + 1, i => do
    match ← lookupEntry d targetSlot (Fin.ofNat (2 ^ 64) i) with
    | some result => return (result, i + 1)
    | none => lookupLoop d targetSlot n (i + 1)

/-- `slot_hash_lookup`. -/
def ByteSlice.slotHashLookup (d : ByteSlice) (targetSlot : U64) :
    Except Panic (Option Hash × ℕ) := do
  if d.bytes.length < 8 then return (none, 0)
  else
    let count ← d.range 8 0 8
    lookupLoop d targetSlot (ofLeBytes count.val) 0

section Machine

variable {d : ByteSlice} {targetSlot : U64} {i n : ℕ}

theorem plainAdd_eq {a b : U64} {c : ℕ} (hc : c < 2 ^ 64) (h : a.val + b.val = c) :
    plainAdd a b = .ok ⟨c, hc⟩ :=
  okOr_ok_iff.2 (Word.checkedAdd_eq_some.2 h.symm)

theorem plainMul_eq {a b : U64} {c : ℕ} (hc : c < 2 ^ 64) (h : a.val * b.val = c) :
    plainMul a b = .ok ⟨c, hc⟩ :=
  okOr_ok_iff.2 (Word.checkedMul_eq_some.2 h.symm)

theorem range_eq {start stop : U64} (hstart : start.val + n = stop.val)
    (hstop : stop.val ≤ d.bytes.length) :
    d.range n start stop = .ok ⟨slice d.bytes start.val n, length_slice (by omega)⟩ := by
  have hlength : stop.val - start.val = n := by omega
  rw [ByteSlice.range, require_of ⟨by omega, hstop⟩, ok_bind, okOr_ok_iff, Bytes.ofList?_eq_some,
    hlength]

/-- While the entries before `i` lie within the slice, the body at `i` does not panic. -/
theorem lookupEntry_ok (hi : 8 + i * 40 ≤ d.bytes.length) :
    lookupEntry d targetSlot (Fin.ofNat (2 ^ 64) i) =
      .ok (if d.bytes.length < 8 + i * 40 + 40 then some none
        else if (leWordAt 8 d.bytes (8 + i * 40)).val = targetSlot.val then
          some (Bytes.ofList? 32 (slice d.bytes (8 + i * 40 + 8) 32))
        else none) := by
  have hlt := d.length_lt
  have hword : (Fin.ofNat (2 ^ 64) i).val = i := Nat.mod_eq_of_lt (by omega)
  have hbase : (8 : U64).checkedAdd ⟨i * 40, by omega⟩ = some ⟨8 + i * 40, by omega⟩ :=
    Word.checkedAdd_eq_some.2 rfl
  have hstop : plainAdd ⟨8 + i * 40, by omega⟩ 40 = .ok ⟨8 + i * 40 + 40, by omega⟩ :=
    plainAdd_eq _ rfl
  have hstart : plainAdd ⟨8 + i * 40, by omega⟩ 8 = .ok ⟨8 + i * 40 + 8, by omega⟩ :=
    plainAdd_eq _ rfl
  rw [lookupEntry, plainMul_eq (c := i * 40) (by omega) (by rw [hword]; rfl), ok_bind, hbase]
  dsimp only
  rw [hstop, ok_bind]
  dsimp only
  split_ifs with hlength hslot
  · rfl
  · rw [hstart, ok_bind, range_eq (by rfl) (by dsimp only; omega), ok_bind]
    dsimp only
    rw [if_pos (by exact hslot), range_eq (by rfl) (by dsimp only; omega), ok_bind]
    have hhash : Bytes.ofList? 32 (slice d.bytes (8 + i * 40 + 8) 32) =
        some ⟨slice d.bytes (8 + i * 40 + 8) 32, length_slice (by omega)⟩ :=
      Bytes.ofList?_eq_some.2 rfl
    rw [hhash]
    rfl
  · rw [hstart, ok_bind, range_eq (by rfl) (by dsimp only; omega), ok_bind]
    dsimp only
    rw [if_neg (by exact hslot)]
    rfl

/-- So neither does the loop, and it runs once for each of the entries that the slice has room for,
and once more. -/
theorem lookupLoop_ok (targetSlot : U64) (hi : 8 + i * 40 ≤ d.bytes.length) : ∃ iterations,
    lookupLoop d targetSlot n i =
        .ok (slotHashScan d.bytes targetSlot n i, iterations) ∧
      iterations * 40 ≤ d.bytes.length + 32 := by
  induction n generalizing i with
  | zero => exact ⟨i, rfl, by omega⟩
  | succ n ih =>
    rw [lookupLoop, lookupEntry_ok hi, ok_bind, slotHashScan]
    split_ifs with hlength hslot
    · exact ⟨i + 1, rfl, by omega⟩
    · exact ⟨i + 1, rfl, by omega⟩
    · exact ih (by omega)

/-- The lookup with the machine's arithmetic is the one without, for any bytes. -/
theorem ByteSlice.slotHashLookup_ok (d : ByteSlice) (targetSlot : U64) : ∃ iterations,
    d.slotHashLookup targetSlot =
        .ok (Scanner.slotHashLookup d.bytes targetSlot, iterations) ∧
      iterations ≤ d.bytes.length / 40 + 1 := by
  unfold ByteSlice.slotHashLookup Scanner.slotHashLookup
  split_ifs with hlength
  · exact ⟨0, rfl, Nat.zero_le _⟩
  · have hcount : d.range 8 0 8 = .ok ⟨slice d.bytes 0 8, length_slice (by omega)⟩ :=
      range_eq (by rfl) (by exact not_lt.1 hlength)
    rw [hcount, ok_bind]
    obtain ⟨iterations, h, hle⟩ := lookupLoop_ok (d := d)
      (n := (leWordAt 8 d.bytes 0).val) (i := 0) targetSlot (by omega)
    exact ⟨iterations, h, by omega⟩

end Machine

/-! ## What it finds -/

/-- Entry `i` lies within the claimed count and the data, is for `slot` with `hash`, and no entry
before it is for `slot`. -/
structure FirstListed (data : List Byte) (slot : U64) (i : ℕ) (hash : Hash) : Prop where
  counted : i < (leWordAt 8 data 0).val
  within : 8 + 40 * (i + 1) ≤ data.length
  slot_eq : (leWordAt 8 data (8 + i * 40)).val = slot.val
  hash_eq : hash.val = slice data (8 + i * 40 + 8) 32
  first : ∀ j < i, (leWordAt 8 data (8 + j * 40)).val ≠ slot.val

section Lookup

variable {data : List Byte} {slot : U64} {hash : Hash} {n i : ℕ}

theorem slotHashScan_eq_some_iff : slotHashScan data slot n i = some hash ↔
    ∃ j, i ≤ j ∧ j < i + n ∧ 8 + 40 * (j + 1) ≤ data.length ∧
      (leWordAt 8 data (8 + j * 40)).val = slot.val ∧
      hash.val = slice data (8 + j * 40 + 8) 32 ∧
      ∀ k, i ≤ k → k < j → (leWordAt 8 data (8 + k * 40)).val ≠ slot.val := by
  induction n generalizing i with
  | zero =>
    simp only [slotHashScan, reduceCtorEq, false_iff]
    rintro ⟨j, hij, hj, _⟩
    omega
  | succ n ih =>
    rw [slotHashScan]
    split_ifs with hlength hslot
    · simp only [false_iff]
      rintro ⟨j, hij, _, hwithin, _⟩
      omega
    · rw [Bytes.ofList?_eq_some]
      constructor
      · exact fun h => ⟨i, le_rfl, by omega, by omega, hslot, h, fun k hk hki => by omega⟩
      · rintro ⟨j, hij, _, _, _, hhash, hfirst⟩
        obtain rfl : i = j := by
          by_contra hne
          exact hfirst i le_rfl (by omega) hslot
        exact hhash
    · rw [ih]
      constructor
      · rintro ⟨j, hij, hj, hwithin, hjslot, hhash, hfirst⟩
        refine ⟨j, by omega, by omega, hwithin, hjslot, hhash, fun k hk hkj => ?_⟩
        rcases Nat.eq_or_lt_of_le hk with rfl | hlt
        · exact hslot
        · exact hfirst k hlt hkj
      · rintro ⟨j, hij, hj, hwithin, hjslot, hhash, hfirst⟩
        have hne : i ≠ j := fun h => hslot (h ▸ hjslot)
        exact ⟨j, by omega, by omega, hwithin, hjslot, hhash,
          fun k hk hkj => hfirst k (by omega) hkj⟩

/-- The lookup finds the first entry for the slot. -/
theorem slotHashLookup_eq_some_iff : slotHashLookup data slot = some hash ↔
    ∃ i, FirstListed data slot i hash := by
  have hscan : slotHashScan data slot (leWordAt 8 data 0).val 0 = some hash ↔
      ∃ i, FirstListed data slot i hash := by
    rw [slotHashScan_eq_some_iff]
    constructor
    · rintro ⟨j, _, hj, hwithin, hslot, hhash, hfirst⟩
      exact ⟨j, by omega, hwithin, hslot, hhash, fun k => hfirst k (Nat.zero_le k)⟩
    · rintro ⟨j, hj, hwithin, hslot, hhash, hfirst⟩
      exact ⟨j, Nat.zero_le j, by omega, hwithin, hslot, hhash, fun k _ => hfirst k⟩
  unfold slotHashLookup
  split_ifs with hlength
  · simp only [false_iff]
    rintro ⟨i, h⟩
    have hwithin := h.within
    omega
  · exact hscan

/-! ## Encoded entries -/

/-- One entry : the slot and its hash. -/
def encodeEntry (e : U64 × Hash) : List Byte :=
  leBytes 8 e.1.val ++ e.2.val

/-- The number of entries, and the entries. -/
def encodeSlotHashes (entries : List (U64 × Hash)) : List Byte :=
  leBytes 8 entries.length ++ entries.flatMap encodeEntry

@[simp] theorem length_encodeEntry (e : U64 × Hash) : (encodeEntry e).length = 40 := by
  simp [encodeEntry]

@[simp] theorem length_flatMap_encodeEntry (entries : List (U64 × Hash)) :
    (entries.flatMap encodeEntry).length = entries.length * 40 := by
  simp [List.length_flatMap]

/-- From where the entries `rest` start, the loop finds the first of them for the slot. -/
theorem slotHashScan_encoded {header : List Byte} (hheader : header.length = 8 + i * 40)
    (rest : List (U64 × Hash)) :
    slotHashScan (header ++ rest.flatMap encodeEntry) slot rest.length i =
      (rest.find? (fun e => e.1 = slot)).map Prod.snd := by
  induction rest generalizing header i with
  | nil => rfl
  | cons e rest ih =>
    have hdata : header ++ (e :: rest).flatMap encodeEntry =
        header ++ (leBytes 8 e.1.val ++ (e.2.val ++ rest.flatMap encodeEntry)) := by
      simp [encodeEntry]
    have hslot : (leWordAt 8 (header ++ (e :: rest).flatMap encodeEntry) (8 + i * 40)).val =
        e.1.val := by
      refine leWordAt_of_slice (k := 8) e.1.isLt ?_
      rw [hdata, slice_append_right hheader.le, hheader, Nat.sub_self,
        slice_head (length_leBytes 8 _)]
    have hhash : slice (header ++ (e :: rest).flatMap encodeEntry) (8 + i * 40 + 8) 32 =
        e.2.val := by
      rw [hdata, ← List.append_assoc, slice_append_right (by simp [hheader]), List.length_append,
        hheader, length_leBytes, Nat.sub_self, slice_head e.2.2]
    have hlength : ¬(header ++ (e :: rest).flatMap encodeEntry).length < 8 + i * 40 + 40 := by
      rw [List.length_append, hheader, length_flatMap_encodeEntry, List.length_cons]
      omega
    rw [List.length_cons, slotHashScan, if_neg hlength, hslot, hhash]
    by_cases he : e.1 = slot
    · rw [if_pos (congrArg Fin.val he), List.find?_cons_of_pos (by simpa using he)]
      exact Bytes.ofList?_eq_some.2 rfl
    · have hne : ¬e.1.val = slot.val := fun h => he (Fin.ext h)
      have hnext : (header ++ encodeEntry e).length = 8 + (i + 1) * 40 := by
        rw [List.length_append, hheader, length_encodeEntry]
        omega
      rw [if_neg hne, List.find?_cons_of_neg (by simpa using he), ← ih hnext, List.append_assoc]
      rfl

/-- Over the encoding of a list the lookup returns the first match. -/
theorem slotHashLookup_encoded {entries : List (U64 × Hash)} (h : entries.length < 2 ^ 64) :
    slotHashLookup (encodeSlotHashes entries) slot =
      (entries.find? (fun e => e.1 = slot)).map Prod.snd := by
  have hcount : (leWordAt 8 (encodeSlotHashes entries) 0).val = entries.length :=
    leWordAt_of_slice (k := 8) h (slice_head (length_leBytes 8 _))
  have hlength : ¬(encodeSlotHashes entries).length < 8 := by
    simp [encodeSlotHashes]
  rw [slotHashLookup, if_neg hlength, hcount]
  exact slotHashScan_encoded (by simp) entries

end Lookup

/-! ## The message -/

/-- What an accepted message says : the pool, a time in the past, and a slot whose hash it knows. -/
theorem verifyAttestationMessage_ok_iff {msg : Bytes 112} {ammProgramId poolAddress : Pubkey}
    {now ts : ℤ} {nowSlot : U64} {data : List Byte} :
    verifyAttestationMessage msg ammProgramId poolAddress now nowSlot data = .ok ts ↔
      ts = messageLastSwapUnixTs msg ∧
      (slice msg.val 0 32 = ammProgramId.val ∧ slice msg.val 32 32 = poolAddress.val) ∧
      (0 < ts ∧ ts ≤ now) ∧
      (0 < (messageIssuedSlot msg).val ∧ (messageIssuedSlot msg).val ≤ nowSlot.val) ∧
      ∃ hash : Hash, hash.val = slice msg.val 80 32 ∧
        slotHashLookup data (messageIssuedSlot msg) = some hash := by
  have hfield : Bytes.ofList? 32 (slice msg.val 80 32) =
      some ⟨slice msg.val 80 32, length_slice (by rw [msg.2])⟩ := Bytes.ofList?_eq_some.2 rfl
  simp only [verifyAttestationMessage, require_bind_ok_iff, pure_ok_iff, hfield]
  constructor
  · rintro ⟨hkeys, hts, hslot, _, hhash, rfl⟩
    exact ⟨rfl, hkeys, hts, hslot, _, rfl, hhash⟩
  · rintro ⟨rfl, hkeys, hts, hslot, hash, hval, hlookup⟩
    have heq : hash = ⟨slice msg.val 80 32, length_slice (by rw [msg.2])⟩ := Subtype.ext hval
    exact ⟨hkeys, hts, hslot, by rw [hlookup]; rfl, by rw [hlookup, heq], rfl⟩

/-- The lookup is safe on any slice, with any count, and finds the first entry for the slot ; on
encoded entries, as many as a count can say, that is the first match. A message is accepted iff it
names the pool, its time and its slot are in range, and the lookup of the slot returns its hash. -/
theorem slotHashLookup_exact :
    (∀ (d : ByteSlice) (targetSlot : U64), ∃ iterations,
      d.slotHashLookup targetSlot = .ok (slotHashLookup d.bytes targetSlot, iterations) ∧
        iterations ≤ d.bytes.length / 40 + 1) ∧
    (∀ data targetSlot hash, slotHashLookup data targetSlot = some hash ↔
      ∃ i, FirstListed data targetSlot i hash) ∧
    (∀ entries targetSlot, entries.length < 2 ^ 64 →
      slotHashLookup (encodeSlotHashes entries) targetSlot =
        (entries.find? (fun e => e.1 = targetSlot)).map Prod.snd) ∧
    ∀ (msg : Bytes 112) (ammProgramId poolAddress : Pubkey) (now ts : ℤ) (nowSlot : U64)
      (data : List Byte),
      verifyAttestationMessage msg ammProgramId poolAddress now nowSlot data = .ok ts ↔
        ts = messageLastSwapUnixTs msg ∧
        (slice msg.val 0 32 = ammProgramId.val ∧ slice msg.val 32 32 = poolAddress.val) ∧
        (0 < ts ∧ ts ≤ now) ∧
        (0 < (messageIssuedSlot msg).val ∧ (messageIssuedSlot msg).val ≤ nowSlot.val) ∧
        ∃ hash : Hash, hash.val = slice msg.val 80 32 ∧
          slotHashLookup data (messageIssuedSlot msg) = some hash :=
  ⟨ByteSlice.slotHashLookup_ok, fun _ _ _ => slotHashLookup_eq_some_iff,
    fun _ _ h => slotHashLookup_encoded h, fun _ _ _ _ _ _ _ => verifyAttestationMessage_ok_iff⟩

end GraveYield.Scanner
