import GraveYield.Sdk.Instructions
import GraveYield.Sdk.Merkle

/-!
# The attestations of the SDK

The message builders set the fields at fixed offsets, the verify instruction names the span of a
message by its offset and its size inside the instruction that carries it, and the instruction
builders put the message behind the other parameters. The scanner checks the verify instruction
against its own constants and reads the fields at its own offsets.

`attestations_agree` : what the SDK builds at two consecutive positions the scanner accepts,
for the span of the instruction and not for the other one, and reads back field by field.
-/

namespace GraveYield.Sdk

open Machine Checked Wire

/-! ## The source -/

/-- `ATTESTATION_MSG_LEN`. -/
def ATTESTATION_MSG_LEN : ℕ := 112

/-- The offset of `params.msg` in the data of an evaluation. -/
def IX_DATA_MSG_OFFSET : ℤ := 72

/-- Where the public key stands in the verify instruction. -/
def PRECOMPILE_PK_OFFSET : ℕ := 16

/-- Where the signature stands in the verify instruction. -/
def PRECOMPILE_SIG_OFFSET : ℕ := 48

/-- The length of the verify instruction. -/
def PRECOMPILE_MIN_LEN : ℕ := 112

/-- The index that stands for the verify instruction itself. -/
def CUR_INSTRUCTION_INDEX : ℕ := 0xffff

/-- `LAUNCH_PRICE_MSG_LEN`. -/
def LAUNCH_PRICE_MSG_LEN : ℕ := 168

/-- The offset of `params.msg` in the data of `record_launch_price`. -/
def LAUNCH_PRICE_MSG_OFFSET : ℤ := 152

/-- What the message and verify-instruction builders throw. -/
inductive AttestationError where
  | slotHashLength (length : ℕ)
  | messageLength (length : ℕ)
  | launchPriceRange (v : ℤ)
  | signatureLength (length : ℕ)
  | instructionIndex (v : ℤ)
  | addressOffset (v : ℤ)
  | span (offset : ℤ) (length : ℕ)
  deriving DecidableEq

/-- `Number` of a bigint : the nearest double, ties to the even one. -/
def toNumber (z : ℤ) : ℤ :=
  if z.natAbs ≤ 2 ^ 53 then z
  else
    let ulp := 2 ^ (z.natAbs.log2 - 52)
    let q := z.natAbs / ulp
    let r := z.natAbs % ulp
    let q := if ulp < 2 * r ∨ (ulp = 2 * r ∧ q % 2 = 1) then q + 1 else q
    z.sign * (q * ulp : ℕ)

/-- `DataView.setBigInt64`, little-endian. -/
def setBigInt64 (v : ℤ) : List Byte :=
  leBytes 8 (Borsh.twosComplement64 v)

/-- `new PublicKey(bytes.slice(off, off + 32))`. -/
def publicKeyAt (bytes : List Byte) (off : ℕ) (h : off + 32 ≤ bytes.length) : Pubkey :=
  ⟨slice bytes off 32, length_key h⟩

/-- `LastSwapAttestation`. -/
structure LastSwapAttestation where
  ammProgramId : Pubkey
  poolAddress : Pubkey
  lastSwapUnixTs : ℤ
  issuedSlot : ℤ
  slotHash : List Byte
  deriving DecidableEq

/-- The message of a last-swap attestation, in fixed offsets. -/
def buildAttestationMessage (att : LastSwapAttestation) : Except AttestationError (List Byte) := do
  require (att.slotHash.length = 32) (.slotHashLength att.slotHash.length)
  return setAll ATTESTATION_MSG_LEN [
    (0, att.ammProgramId.val),
    (32, att.poolAddress.val),
    (64, setBigInt64 att.lastSwapUnixTs),
    (72, setBigUint64 att.issuedSlot),
    (80, att.slotHash)]

/-- `parseAttestationMessage`. A message of another length throws. -/
def parseAttestationMessage (bytes : List Byte) : Except AttestationError LastSwapAttestation :=
  if h : bytes.length = ATTESTATION_MSG_LEN then
    .ok {
      ammProgramId := publicKeyAt bytes 0 (by rw [h]; decide)
      poolAddress := publicKeyAt bytes 32 (by rw [h]; decide)
      lastSwapUnixTs := toNumber (toSigned64 (leWordAt 8 bytes 64).val)
      issuedSlot := toNumber (leWordAt 8 bytes 72).val
      slotHash := slice bytes 80 32 }
  else .error (.messageLength bytes.length)

/-- `LaunchPriceAttestation`. -/
structure LaunchPriceAttestation where
  ammProgramId : Pubkey
  poolAddress : Pubkey
  baseMint : Pubkey
  quoteMint : Pubkey
  firstSwapSlot : ℤ
  firstSwapUnixTs : ℤ
  launchPriceQ64x64 : ℤ
  issuedSlot : ℤ
  deriving DecidableEq

/-- The message of a launch-price attestation, in fixed offsets. -/
def buildLaunchPriceMessage (att : LaunchPriceAttestation) :
    Except AttestationError (List Byte) := do
  require (0 ≤ att.launchPriceQ64x64 ∧ att.launchPriceQ64x64 < 2 ^ 128)
    (.launchPriceRange att.launchPriceQ64x64)
  return setAll LAUNCH_PRICE_MSG_LEN [
    (0, att.ammProgramId.val),
    (32, att.poolAddress.val),
    (64, att.baseMint.val),
    (96, att.quoteMint.val),
    (128, setBigUint64 att.firstSwapSlot),
    (136, setBigInt64 att.firstSwapUnixTs),
    (144, leBytes 16 att.launchPriceQ64x64.toNat),
    (160, setBigUint64 att.issuedSlot)]

/-- `parseLaunchPriceMessage`. A message of another length throws. -/
def parseLaunchPriceMessage (bytes : List Byte) :
    Except AttestationError LaunchPriceAttestation :=
  if h : bytes.length = LAUNCH_PRICE_MSG_LEN then
    .ok {
      ammProgramId := publicKeyAt bytes 0 (by rw [h]; decide)
      poolAddress := publicKeyAt bytes 32 (by rw [h]; decide)
      baseMint := publicKeyAt bytes 64 (by rw [h]; decide)
      quoteMint := publicKeyAt bytes 96 (by rw [h]; decide)
      firstSwapSlot := toNumber (leWordAt 8 bytes 128).val
      firstSwapUnixTs := toNumber (toSigned64 (leWordAt 8 bytes 136).val)
      launchPriceQ64x64 := (leWordAt 16 bytes 144).val
      issuedSlot := toNumber (leWordAt 8 bytes 160).val }
  else .error (.messageLength bytes.length)

/-- The options of `buildEd25519VerifyInstruction`. -/
structure VerifyOpts where
  signature : List Byte
  oraclePublicKey : Pubkey
  message : List Byte
  scannerInstructionIndex : ℤ
  messageAddressOffset : Option ℤ

/-- The verify instruction of a signature, with the message in the instruction at an index. -/
def buildEd25519VerifyInstruction (opts : VerifyOpts) :
    Except AttestationError TransactionInstruction := do
  require (opts.signature.length = 64) (.signatureLength opts.signature.length)
  require (0 ≤ opts.scannerInstructionIndex ∧ opts.scannerInstructionIndex ≤ 0xfffe)
    (.instructionIndex opts.scannerInstructionIndex)
  let messageAddressOffset := opts.messageAddressOffset.getD IX_DATA_MSG_OFFSET
  require (0 ≤ messageAddressOffset ∧ messageAddressOffset ≤ 0xffff)
    (.addressOffset messageAddressOffset)
  require ((messageAddressOffset = IX_DATA_MSG_OFFSET ∧
      opts.message.length = ATTESTATION_MSG_LEN) ∨
    (messageAddressOffset = 152 ∧ opts.message.length = 168))
    (.span messageAddressOffset opts.message.length)
  let w := fun v : ℕ => leBytes 2 v
  return {
    programId := ed25519ProgramId
    keys := []
    data := setAll PRECOMPILE_MIN_LEN [
      (0, [1]),
      (1, [0]),
      (2, w PRECOMPILE_SIG_OFFSET),
      (4, w CUR_INSTRUCTION_INDEX),
      (6, w PRECOMPILE_PK_OFFSET),
      (8, w CUR_INSTRUCTION_INDEX),
      (10, w messageAddressOffset.toNat),
      (12, w opts.message.length),
      (14, w opts.scannerInstructionIndex.toNat),
      (PRECOMPILE_PK_OFFSET, opts.oraclePublicKey.val),
      (PRECOMPILE_SIG_OFFSET, opts.signature)] }

/-- The message is a placeholder : only its length is used. -/
def buildLaunchPriceEd25519VerifyInstruction (signature : List Byte) (oraclePublicKey : Pubkey)
    (recordInstructionIndex : ℤ) : Except AttestationError TransactionInstruction :=
  buildEd25519VerifyInstruction {
    signature
    oraclePublicKey
    message := List.replicate LAUNCH_PRICE_MSG_LEN 0
    scannerInstructionIndex := recordInstructionIndex
    messageAddressOffset := some LAUNCH_PRICE_MSG_OFFSET }

/-! ## Numbers -/

/-- A number that is exact as a double. -/
def SafeInteger (z : ℤ) : Prop :=
  -2 ^ 53 < z ∧ z < 2 ^ 53

/-- Both bounds are compared. -/
instance (z : ℤ) : Decidable (SafeInteger z) :=
  inferInstanceAs (Decidable (_ ∧ _))

/-- A safe integer is its own double. -/
theorem toNumber_of_safe {z : ℤ} (h : SafeInteger z) : toNumber z = z := by
  unfold SafeInteger at h
  rw [toNumber, if_pos (by omega)]

/-- A safe integer is a value of an `i64`. -/
theorem inI64_of_safe {z : ℤ} (h : SafeInteger z) : Borsh.InI64 z := by
  unfold SafeInteger at h
  unfold Borsh.InI64
  omega

@[simp] theorem length_setBigInt64 (v : ℤ) : (setBigInt64 v).length = 8 :=
  length_leBytes 8 _

@[simp] theorem length_setBigUint64 (v : ℤ) : (setBigUint64 v).length = 8 :=
  length_leBytes 8 _

/-- A signed number read where it was set. -/
theorem toSigned64_of_slice {d : List Byte} {off : ℕ} {z : ℤ} (hz : SafeInteger z)
    (h : slice d off 8 = setBigInt64 z) : toSigned64 (leWordAt 8 d off).val = z := by
  rw [leWordAt_of_slice (k := 8) (Borsh.twosComplement64_lt z) h,
    Borsh.toSigned64_twosComplement64 (inI64_of_safe hz)]

/-- An unsigned number read where it was set. -/
theorem leWordAt_of_setBigUint64 {d : List Byte} {off : ℕ} {z : ℤ} (h0 : 0 ≤ z)
    (hz : SafeInteger z) (h : slice d off 8 = setBigUint64 z) :
    ((leWordAt 8 d off).val : ℤ) = z := by
  unfold SafeInteger at hz
  have hlt : (z % 2 ^ 64).toNat < 2 ^ (8 * 8) := by omega
  rw [leWordAt_of_slice (k := 8) hlt h]
  omega

/-! ## The messages -/

/-- The fields of the last-swap message. -/
def LastSwapAttestation.fields (att : LastSwapAttestation) : List (List Byte) :=
  [att.ammProgramId.val, att.poolAddress.val, setBigInt64 att.lastSwapUnixTs,
    setBigUint64 att.issuedSlot, att.slotHash]

/-- The fields of a last-swap attestation are 112 bytes. -/
theorem length_lastSwapFields {att : LastSwapAttestation} (h : att.slotHash.length = 32) :
    att.fields.flatten.length = 112 := by
  simp [LastSwapAttestation.fields, h]

/-- The message is its fields one after the other. -/
theorem buildAttestationMessage_eq {att : LastSwapAttestation} (h : att.slotHash.length = 32) :
    buildAttestationMessage att = .ok att.fields.flatten := by
  have hset : setAll ATTESTATION_MSG_LEN [(0, att.ammProgramId.val), (32, att.poolAddress.val),
      (64, setBigInt64 att.lastSwapUnixTs), (72, setBigUint64 att.issuedSlot),
      (80, att.slotHash)] = att.fields.flatten :=
    setAll_eq (by simp [Contiguous]) (length_lastSwapFields h).symm
  rw [buildAttestationMessage, require_of h, ok_bind, hset]
  rfl

/-- The fields of the launch-price message. -/
def LaunchPriceAttestation.fields (att : LaunchPriceAttestation) : List (List Byte) :=
  [att.ammProgramId.val, att.poolAddress.val, att.baseMint.val, att.quoteMint.val,
    setBigUint64 att.firstSwapSlot, setBigInt64 att.firstSwapUnixTs,
    leBytes 16 att.launchPriceQ64x64.toNat, setBigUint64 att.issuedSlot]

/-- The fields of a launch-price attestation are 168 bytes. -/
theorem length_launchPriceFields (att : LaunchPriceAttestation) :
    att.fields.flatten.length = 168 := by
  simp [LaunchPriceAttestation.fields]

/-- The message is its fields one after the other. -/
theorem buildLaunchPriceMessage_eq {att : LaunchPriceAttestation}
    (h : 0 ≤ att.launchPriceQ64x64 ∧ att.launchPriceQ64x64 < 2 ^ 128) :
    buildLaunchPriceMessage att = .ok att.fields.flatten := by
  have hset : setAll LAUNCH_PRICE_MSG_LEN [(0, att.ammProgramId.val), (32, att.poolAddress.val),
      (64, att.baseMint.val), (96, att.quoteMint.val), (128, setBigUint64 att.firstSwapSlot),
      (136, setBigInt64 att.firstSwapUnixTs), (144, leBytes 16 att.launchPriceQ64x64.toNat),
      (160, setBigUint64 att.issuedSlot)] = att.fields.flatten :=
    setAll_eq (by simp [Contiguous]) (length_launchPriceFields att).symm
  rw [buildLaunchPriceMessage, require_of h, ok_bind, hset]
  rfl

/-- The numbers of a last-swap attestation are safe integers, and the slot is not negative. -/
structure LastSwapAttestation.Valid (att : LastSwapAttestation) : Prop where
  lastSwapUnixTs : SafeInteger att.lastSwapUnixTs
  issuedSlot : 0 ≤ att.issuedSlot ∧ SafeInteger att.issuedSlot
  slotHash : att.slotHash.length = 32

/-- The numbers of a launch-price attestation are safe integers, the slots are not negative, and
the price has 128 bits. -/
structure LaunchPriceAttestation.Valid (att : LaunchPriceAttestation) : Prop where
  firstSwapSlot : 0 ≤ att.firstSwapSlot ∧ SafeInteger att.firstSwapSlot
  firstSwapUnixTs : SafeInteger att.firstSwapUnixTs
  launchPriceQ64x64 : 0 ≤ att.launchPriceQ64x64 ∧ att.launchPriceQ64x64 < 2 ^ 128
  issuedSlot : 0 ≤ att.issuedSlot ∧ SafeInteger att.issuedSlot

/-- The fields of a message at the offsets of the scanner. -/
structure ReadsLastSwap (msg : Bytes 112) (att : LastSwapAttestation) : Prop where
  ammProgramId : slice msg.val 0 32 = att.ammProgramId.val
  poolAddress : slice msg.val 32 32 = att.poolAddress.val
  lastSwapUnixTs : Scanner.messageLastSwapUnixTs msg = att.lastSwapUnixTs
  issuedSlot : ((Scanner.messageIssuedSlot msg).val : ℤ) = att.issuedSlot
  slotHash : slice msg.val 80 32 = att.slotHash

/-- The scanner reads back the fields of a valid last-swap attestation. -/
theorem readsLastSwap {att : LastSwapAttestation} (h : att.Valid) {msg : Bytes 112}
    (hmsg : msg.val = att.fields.flatten) : ReadsLastSwap msg att := by
  have hts : slice msg.val 64 8 = setBigInt64 att.lastSwapUnixTs := by
    rw [hmsg]
    exact slice_flatten [att.ammProgramId.val, att.poolAddress.val] _ _ (by simp) (by simp)
  have hslot : slice msg.val 72 8 = setBigUint64 att.issuedSlot := by
    rw [hmsg]
    exact slice_flatten [att.ammProgramId.val, att.poolAddress.val,
      setBigInt64 att.lastSwapUnixTs] _ _ (by simp) (by simp)
  refine ⟨?_, ?_, toSigned64_of_slice h.lastSwapUnixTs hts,
    leWordAt_of_setBigUint64 h.issuedSlot.1 h.issuedSlot.2 hslot, ?_⟩
  · rw [hmsg]
    exact slice_flatten [] _ _ rfl (by simp)
  · rw [hmsg]
    exact slice_flatten [att.ammProgramId.val] _ _ (by simp) (by simp)
  · rw [hmsg]
    exact slice_flatten [att.ammProgramId.val, att.poolAddress.val,
      setBigInt64 att.lastSwapUnixTs, setBigUint64 att.issuedSlot] [] _ (by simp) h.slotHash.symm

/-- The fields of a message at the offsets of the scanner. -/
structure ReadsLaunchPrice (msg : Bytes 168) (att : LaunchPriceAttestation) : Prop where
  ammProgramId : slice msg.val 0 32 = att.ammProgramId.val
  poolAddress : slice msg.val 32 32 = att.poolAddress.val
  baseMint : slice msg.val 64 32 = att.baseMint.val
  quoteMint : slice msg.val 96 32 = att.quoteMint.val
  firstSwapSlot : ((Scanner.launchPriceMessageFirstSwapSlot msg).val : ℤ) = att.firstSwapSlot
  firstSwapUnixTs : Scanner.launchPriceMessageFirstSwapTs msg = att.firstSwapUnixTs
  launchPriceQ64x64 : ((Scanner.launchPriceMessagePrice msg).val : ℤ) = att.launchPriceQ64x64
  issuedSlot : ((Scanner.launchPriceMessageIssuedSlot msg).val : ℤ) = att.issuedSlot

/-- The scanner reads back the fields of a valid launch-price attestation. -/
theorem readsLaunchPrice {att : LaunchPriceAttestation} (h : att.Valid) {msg : Bytes 168}
    (hmsg : msg.val = att.fields.flatten) : ReadsLaunchPrice msg att := by
  have hslot : slice msg.val 128 8 = setBigUint64 att.firstSwapSlot := by
    rw [hmsg]
    exact slice_flatten [att.ammProgramId.val, att.poolAddress.val, att.baseMint.val,
      att.quoteMint.val] _ _ (by simp) (by simp)
  have hts : slice msg.val 136 8 = setBigInt64 att.firstSwapUnixTs := by
    rw [hmsg]
    exact slice_flatten [att.ammProgramId.val, att.poolAddress.val, att.baseMint.val,
      att.quoteMint.val, setBigUint64 att.firstSwapSlot] _ _ (by simp) (by simp)
  have hprice : slice msg.val 144 16 = leBytes 16 att.launchPriceQ64x64.toNat := by
    rw [hmsg]
    exact slice_flatten [att.ammProgramId.val, att.poolAddress.val, att.baseMint.val,
      att.quoteMint.val, setBigUint64 att.firstSwapSlot, setBigInt64 att.firstSwapUnixTs] _ _
      (by simp) (by simp)
  have hissued : slice msg.val 160 8 = setBigUint64 att.issuedSlot := by
    rw [hmsg]
    exact slice_flatten [att.ammProgramId.val, att.poolAddress.val, att.baseMint.val,
      att.quoteMint.val, setBigUint64 att.firstSwapSlot, setBigInt64 att.firstSwapUnixTs,
      leBytes 16 att.launchPriceQ64x64.toNat] [] _ (by simp) (by simp)
  have hrange := h.launchPriceQ64x64
  have hlt : att.launchPriceQ64x64.toNat < 2 ^ (8 * 16) := by omega
  refine ⟨?_, ?_, ?_, ?_, leWordAt_of_setBigUint64 h.firstSwapSlot.1 h.firstSwapSlot.2 hslot,
    toSigned64_of_slice h.firstSwapUnixTs hts, ?_,
    leWordAt_of_setBigUint64 h.issuedSlot.1 h.issuedSlot.2 hissued⟩
  · rw [hmsg]
    exact slice_flatten [] _ _ rfl (by simp)
  · rw [hmsg]
    exact slice_flatten [att.ammProgramId.val] _ _ (by simp) (by simp)
  · rw [hmsg]
    exact slice_flatten [att.ammProgramId.val, att.poolAddress.val] _ _ (by simp) (by simp)
  · rw [hmsg]
    exact slice_flatten [att.ammProgramId.val, att.poolAddress.val, att.baseMint.val] _ _
      (by simp) (by simp)
  · rw [Scanner.launchPriceMessagePrice, leWordAt_of_slice (k := 16) hlt hprice]
    omega

/-! ## Parsing -/

/-- Parsing inverts building, for a last-swap attestation. -/
theorem parseAttestationMessage_eq {att : LastSwapAttestation} (h : att.Valid) :
    parseAttestationMessage att.fields.flatten = .ok att := by
  have hlength : att.fields.flatten.length = ATTESTATION_MSG_LEN :=
    length_lastSwapFields h.slotHash
  obtain ⟨hamm, hpool, hts, hslot, hhash⟩ := @readsLastSwap att h ⟨_, hlength⟩ rfl
  have hts' : toSigned64 (leWordAt 8 att.fields.flatten 64).val = att.lastSwapUnixTs := hts
  have hslot' : ((leWordAt 8 att.fields.flatten 72).val : ℤ) = att.issuedSlot := hslot
  rw [parseAttestationMessage, dif_pos hlength]
  refine congrArg Except.ok ?_
  rw [LastSwapAttestation.mk.injEq, hts', hslot', toNumber_of_safe h.lastSwapUnixTs,
    toNumber_of_safe h.issuedSlot.2]
  exact ⟨Subtype.ext hamm, Subtype.ext hpool, rfl, rfl, hhash⟩

/-- Parsing inverts building, for a launch-price attestation. -/
theorem parseLaunchPriceMessage_eq {att : LaunchPriceAttestation} (h : att.Valid) :
    parseLaunchPriceMessage att.fields.flatten = .ok att := by
  have hlength : att.fields.flatten.length = LAUNCH_PRICE_MSG_LEN := length_launchPriceFields att
  obtain ⟨hamm, hpool, hbase, hquote, hslot, hts, hprice, hissued⟩ :=
    @readsLaunchPrice att h ⟨_, hlength⟩ rfl
  have hslot' : ((leWordAt 8 att.fields.flatten 128).val : ℤ) = att.firstSwapSlot := hslot
  have hts' : toSigned64 (leWordAt 8 att.fields.flatten 136).val = att.firstSwapUnixTs := hts
  have hissued' : ((leWordAt 8 att.fields.flatten 160).val : ℤ) = att.issuedSlot := hissued
  rw [parseLaunchPriceMessage, dif_pos hlength]
  refine congrArg Except.ok ?_
  rw [LaunchPriceAttestation.mk.injEq, hslot', hts', hissued', toNumber_of_safe h.firstSwapSlot.2,
    toNumber_of_safe h.firstSwapUnixTs, toNumber_of_safe h.issuedSlot.2]
  exact ⟨Subtype.ext hamm, Subtype.ext hpool, Subtype.ext hbase, Subtype.ext hquote, rfl, rfl,
    hprice, rfl⟩

/-! ## The verify instruction -/

/-- An instruction as the sysvar shows it. -/
def TransactionInstruction.toInstruction (ix : TransactionInstruction) : Scanner.Instruction :=
  ⟨ix.programId, ix.data⟩

/-- The fields of the verify instruction for a span of the instruction `index`. -/
def verifyFields (offset length index : U16) (oracle : Pubkey) (signature : List Byte) :
    List (List Byte) :=
  [[1], [0], leBytes 2 PRECOMPILE_SIG_OFFSET, leBytes 2 CUR_INSTRUCTION_INDEX,
    leBytes 2 PRECOMPILE_PK_OFFSET, leBytes 2 CUR_INSTRUCTION_INDEX, leBytes 2 offset.val,
    leBytes 2 length.val, leBytes 2 index.val, oracle.val, signature]

/-- One of the two spans. -/
def CanonicalSpan (offset length : U16) : Prop :=
  offset.val = 72 ∧ length.val = 112 ∨ offset.val = 152 ∧ length.val = 168

/-- On a canonical span the verify instruction is its fields one after the other. -/
theorem buildEd25519VerifyInstruction_eq {opts : VerifyOpts} {offset length index : U16}
    (hsig : opts.signature.length = 64) (hspan : CanonicalSpan offset length)
    (hoffset : opts.messageAddressOffset.getD IX_DATA_MSG_OFFSET = offset.val)
    (hlength : opts.message.length = length.val)
    (hindex : opts.scannerInstructionIndex = index.val) (hlt : index.val ≤ 0xfffe) :
    buildEd25519VerifyInstruction opts = .ok ⟨ed25519ProgramId, [],
      (verifyFields offset length index opts.oraclePublicKey opts.signature).flatten⟩ := by
  have hindex' : 0 ≤ opts.scannerInstructionIndex ∧ opts.scannerInstructionIndex ≤ 0xfffe := by
    omega
  have haddress : 0 ≤ opts.messageAddressOffset.getD IX_DATA_MSG_OFFSET ∧
      opts.messageAddressOffset.getD IX_DATA_MSG_OFFSET ≤ 0xffff := by
    have hfits := offset.isLt
    omega
  have hcanonical : (opts.messageAddressOffset.getD IX_DATA_MSG_OFFSET = IX_DATA_MSG_OFFSET ∧
      opts.message.length = ATTESTATION_MSG_LEN) ∨
      (opts.messageAddressOffset.getD IX_DATA_MSG_OFFSET = 152 ∧ opts.message.length = 168) := by
    rw [hoffset, hlength, IX_DATA_MSG_OFFSET, ATTESTATION_MSG_LEN]
    unfold CanonicalSpan at hspan
    omega
  simp only [buildEd25519VerifyInstruction, require_of hsig, require_of hindex',
    require_of haddress, require_of hcanonical, ok_bind]
  rw [hoffset, hlength, hindex, Int.toNat_natCast, Int.toNat_natCast]
  refine congrArg (fun data => Except.ok (TransactionInstruction.mk ed25519ProgramId [] data)) ?_
  refine setAll_eq ?_ ?_
  · simp [Contiguous, PRECOMPILE_PK_OFFSET, PRECOMPILE_SIG_OFFSET]
  · simp [PRECOMPILE_MIN_LEN, hsig]

/-- A verify instruction that is built is one of the two spans. -/
theorem buildEd25519VerifyInstruction_ok {opts : VerifyOpts} {ix : TransactionInstruction}
    (h : buildEd25519VerifyInstruction opts = .ok ix) : ∃ offset length index : U16,
      CanonicalSpan offset length ∧ opts.signature.length = 64 ∧
      opts.messageAddressOffset.getD IX_DATA_MSG_OFFSET = offset.val ∧
      ix = ⟨ed25519ProgramId, [],
        (verifyFields offset length index opts.oraclePublicKey opts.signature).flatten⟩ := by
  have hchecks := h
  dsimp only [buildEd25519VerifyInstruction] at hchecks
  simp only [require_bind_ok_iff] at hchecks
  obtain ⟨hsig, hindex, haddress, hspan, _⟩ := hchecks
  rw [IX_DATA_MSG_OFFSET] at haddress
  rw [IX_DATA_MSG_OFFSET, ATTESTATION_MSG_LEN] at hspan
  have hoffset : (opts.messageAddressOffset.getD 72).toNat < 2 ^ 16 := by omega
  have hlength : opts.message.length < 2 ^ 16 := by omega
  have hindex' : opts.scannerInstructionIndex.toNat < 2 ^ 16 := by omega
  have haddress' : opts.messageAddressOffset.getD IX_DATA_MSG_OFFSET =
      (opts.messageAddressOffset.getD 72).toNat := (Int.toNat_of_nonneg haddress.1).symm
  have hcanonical : CanonicalSpan ⟨_, hoffset⟩ ⟨_, hlength⟩ := by
    unfold CanonicalSpan
    dsimp only
    omega
  refine ⟨⟨_, hoffset⟩, ⟨_, hlength⟩, ⟨_, hindex'⟩, hcanonical, hsig, haddress', ?_⟩
  refine Except.ok.inj (h.symm.trans ?_)
  exact buildEd25519VerifyInstruction_eq hsig hcanonical haddress' rfl
    (Int.toNat_of_nonneg hindex.1).symm (by dsimp only; omega)

section Verify

variable {offset length index : U16} {pk : Pubkey} {signature : List Byte}

/-- The header as the scanner reads it. -/
theorem signatureOffsetsAt_verifyFields :
    Scanner.signatureOffsetsAt (verifyFields offset length index pk signature).flatten 2 =
      ⟨48, 0xffff, 16, 0xffff, offset, length, index⟩ := by
  have hword : ∀ (pre post : List (List Byte)) (v : U16) (off : ℕ), off = pre.flatten.length →
      leWordAt 2 (pre ++ leBytes 2 v.val :: post).flatten off = v := fun pre post v off hoff =>
    Fin.ext (leWordAt_of_slice (k := 2) v.isLt (slice_flatten pre post _ hoff (by simp)))
  rw [Scanner.signatureOffsetsAt, Scanner.SignatureOffsets.mk.injEq]
  refine ⟨?_, ?_, ?_, ?_, ?_, ?_, ?_⟩
  · exact hword [[1], [0]] _ 48 2 rfl
  · exact hword [[1], [0], leBytes 2 48] _ 0xffff 4 rfl
  · exact hword [[1], [0], leBytes 2 48, leBytes 2 0xffff] _ 16 6 rfl
  · exact hword [[1], [0], leBytes 2 48, leBytes 2 0xffff, leBytes 2 16] _ 0xffff 8 rfl
  · exact hword [[1], [0], leBytes 2 48, leBytes 2 0xffff, leBytes 2 16, leBytes 2 0xffff] _ offset
      10 rfl
  · exact hword [[1], [0], leBytes 2 48, leBytes 2 0xffff, leBytes 2 16, leBytes 2 0xffff,
      leBytes 2 offset.val] _ length 12 (by simp)
  · exact hword [[1], [0], leBytes 2 48, leBytes 2 0xffff, leBytes 2 16, leBytes 2 0xffff,
      leBytes 2 offset.val, leBytes 2 length.val] _ index 14 (by simp)

variable (hsig : signature.length = 64)

include hsig

theorem length_verifyFields :
    (verifyFields offset length index pk signature).flatten.length = 112 := by
  simp [verifyFields, hsig]

/-- The check of the scanner on a verify instruction of the SDK. -/
theorem verifyEd25519OffsetsAt_iff {i : U16} {data : List Byte} {oracle : Pubkey}
    {msgOffset msgLen minLen : ℕ} :
    Scanner.verifyEd25519OffsetsAt
      ⟨ed25519ProgramId, (verifyFields offset length index pk signature).flatten⟩ i data oracle
        msgOffset msgLen minLen = .ok () ↔
      pk = oracle ∧ index = i ∧ (offset.val = msgOffset ∧ length.val = msgLen) ∧
        minLen ≤ data.length := by
  have hoffsets := @signatureOffsetsAt_verifyFields offset length index pk signature
  have hlength := @length_verifyFields offset length index pk signature hsig
  have hcount : Scanner.numSignatures
      ⟨ed25519ProgramId, (verifyFields offset length index pk signature).flatten⟩ = 1 := rfl
  have hkey : slice (verifyFields offset length index pk signature).flatten
      Scanner.precompilePkOffset Scanner.ed25519PkLen = pk.val :=
    slice_flatten [[1], [0], leBytes 2 PRECOMPILE_SIG_OFFSET, leBytes 2 CUR_INSTRUCTION_INDEX,
      leBytes 2 PRECOMPILE_PK_OFFSET, leBytes 2 CUR_INSTRUCTION_INDEX, leBytes 2 offset.val,
      leBytes 2 length.val, leBytes 2 index.val] _ _ (by simp [Scanner.precompilePkOffset,
      Scanner.ed25519HeaderLen]) (by simp [Scanner.ed25519PkLen])
  have hindex : (0xffff : U16) = Scanner.curInstructionIndex := rfl
  have hsigOffset : (48 : U16).val = Scanner.precompileSigOffset := rfl
  have hkeyOffset : (16 : U16).val = Scanner.precompilePkOffset := rfl
  have hsigFits : Scanner.precompileSigOffset + Scanner.ed25519SigLen ≤ 112 := by decide
  have hkeyFits : Scanner.precompilePkOffset + Scanner.ed25519PkLen ≤ 112 := by decide
  have hmin : Scanner.precompileMinLen ≤ 112 := by decide
  simp only [Scanner.verifyEd25519OffsetsAt, require_bind_ok_iff, require_ok_iff, hoffsets, hlength,
    hcount, hindex, hsigOffset, hkeyOffset, hsigFits, hkeyFits, hkey, hmin, true_and,
    ← Subtype.ext_iff]

end Verify

/-! ## Acceptance -/

/-- The scanner instruction `scannerIx` at position `k + 1` with the verify instruction at `k`. -/
structure Placed (sysvar : Scanner.InstructionsSysvar) (k : ℕ)
    (verifyIx scannerIx : TransactionInstruction) : Prop where
  verify : sysvar.instructions[k]? = some verifyIx.toInstruction
  scanner : sysvar.instructions[k + 1]? = some scannerIx.toInstruction
  current : sysvar.currentIndex.val = k + 1

/-- The scanner finds the two instructions where they are placed. -/
theorem loadInstructionPair_eq {sysvar : Scanner.InstructionsSysvar} {k : ℕ}
    {verifyIx scannerIx : TransactionInstruction} (h : Placed sysvar k verifyIx scannerIx) :
    Scanner.loadInstructionPair sysvar =
      .ok (verifyIx.toInstruction, scannerIx.toInstruction, sysvar.currentIndex) := by
  have hpos : 1 ≤ sysvar.currentIndex.val := by rw [h.current]; omega
  rw [Scanner.loadInstructionPair, require_of hpos, ok_bind, h.current, h.scanner, okOr_some,
    ok_bind, Nat.add_sub_cancel, h.verify]
  rfl

/-- The parameters are read back from their own encoding. -/
theorem decodeEvaluatePoolParams_eq (sha256 : List Byte → Hash) (name : String)
    (p : Scanner.EvaluatePoolParams) :
    Scanner.decodeEvaluatePoolParams (p.instructionData sha256 name) = some p := by
  have hamm : slice (p.instructionData sha256 name) 8 32 = p.ammProgramId.val :=
    slice_flatten [discriminator sha256 "global" name] _ _ (by simp) (by simp)
  have hpool : slice (p.instructionData sha256 name) 40 32 = p.poolAddress.val :=
    slice_flatten [discriminator sha256 "global" name, p.ammProgramId.val] _ _ (by simp) (by simp)
  have hmsg : slice (p.instructionData sha256 name) 72 112 = p.msg.val :=
    slice_flatten [discriminator sha256 "global" name, p.ammProgramId.val, p.poolAddress.val] [] _
      (by simp) (by simp)
  simp only [Scanner.decodeEvaluatePoolParams, hamm, hpool, hmsg, Bytes.ofList?_eq_some.2 rfl]
  rfl

/-- The scanner decodes what it was sent. -/
theorem decodeRecordLaunchPriceParams_eq (sha256 : List Byte → Hash)
    (p : Scanner.RecordLaunchPriceParams) :
    Scanner.decodeRecordLaunchPriceParams (p.instructionData sha256) = some p := by
  have hamm : slice (p.instructionData sha256) 8 32 = p.ammProgramId.val :=
    slice_flatten [discriminator sha256 "global" "record_launch_price"] _ _ (by simp) (by simp)
  have hpool : slice (p.instructionData sha256) 40 32 = p.poolAddress.val :=
    slice_flatten [discriminator sha256 "global" "record_launch_price", p.ammProgramId.val] _ _
      (by simp) (by simp)
  have hbase : slice (p.instructionData sha256) 72 32 = p.baseMint.val :=
    slice_flatten [discriminator sha256 "global" "record_launch_price", p.ammProgramId.val,
      p.poolAddress.val] _ _ (by simp) (by simp)
  have hquote : slice (p.instructionData sha256) 104 32 = p.quoteMint.val :=
    slice_flatten [discriminator sha256 "global" "record_launch_price", p.ammProgramId.val,
      p.poolAddress.val, p.baseMint.val] _ _ (by simp) (by simp)
  have hprice : slice (p.instructionData sha256) 136 16 = leBytes 16 p.launchPriceQ64x64.val :=
    slice_flatten [discriminator sha256 "global" "record_launch_price", p.ammProgramId.val,
      p.poolAddress.val, p.baseMint.val, p.quoteMint.val] _ _ (by simp) (by simp)
  have hmsg : slice (p.instructionData sha256) 152 168 = p.msg.val :=
    slice_flatten [discriminator sha256 "global" "record_launch_price", p.ammProgramId.val,
      p.poolAddress.val, p.baseMint.val, p.quoteMint.val, Borsh.u128 p.launchPriceQ64x64] [] _
      (by simp) (by simp)
  have hword : leWordAt 16 (p.instructionData sha256) 136 = p.launchPriceQ64x64 :=
    Fin.ext (leWordAt_of_slice (k := 16) p.launchPriceQ64x64.isLt hprice)
  simp only [Scanner.decodeRecordLaunchPriceParams, hamm, hpool, hbase, hquote, hmsg, hword,
    Bytes.ofList?_eq_some.2 rfl]
  rfl

/-- The SDK's two builders of an evaluation. -/
inductive PhaseBuilder (rt : Runtime) :
    (EvaluatePoolOpts → Except BuildError TransactionInstruction) → String → Prop
  | phase1 : PhaseBuilder rt (buildEvaluatePoolPhase1Ix rt) "evaluate_pool_phase_1"
  | phase2 : PhaseBuilder rt (buildEvaluatePoolPhase2Ix rt) "evaluate_pool_phase_2"

/-- What the scanner makes of a last-swap attestation that the SDK places at positions `k` and
`k + 1`. -/
structure LastSwapAccepted (att : LastSwapAttestation) (oracle : Pubkey) (k : ℕ)
    (verifyIx evaluateIx : TransactionInstruction) : Prop where
  checked : ∀ sysvar, Placed sysvar k verifyIx evaluateIx →
    Scanner.loadInstructionPair sysvar =
      .ok (verifyIx.toInstruction, evaluateIx.toInstruction, sysvar.currentIndex) ∧
    Scanner.verifyEd25519Offsets verifyIx.toInstruction sysvar.currentIndex evaluateIx.data
      oracle = .ok ()
  message : ∃ msg : Bytes 112, buildAttestationMessage att = .ok msg.val ∧
    slice evaluateIx.data Scanner.ixDataMsgOffset Scanner.attestationMsgLen = msg.val ∧
    Scanner.decodeEvaluatePoolParams evaluateIx.data =
      some ⟨att.ammProgramId, att.poolAddress, msg⟩ ∧ ReadsLastSwap msg att

/-- The attestation of the SDK with either phase is accepted. -/
theorem lastSwapAccepted {rt : Runtime} {att : LastSwapAttestation} (h : att.Valid)
    (oracle : Pubkey) {signature : List Byte} (hsig : signature.length = 64) {k : ℕ}
    (hk : k + 1 ≤ 0xfffe)
    {build : EvaluatePoolOpts → Except BuildError TransactionInstruction} {name : String}
    (hbuild : PhaseBuilder rt build name) {opts : EvaluatePoolOpts}
    (hamm : opts.ammProgramId = att.ammProgramId) (hpool : opts.poolAddress = att.poolAddress)
    {msg : List Byte} (hmsg : buildAttestationMessage att = .ok msg) (hopts : opts.msg = msg)
    {offset : Option ℤ} (hoffset : offset = none ∨ offset = some IX_DATA_MSG_OFFSET) :
    ∃ verifyIx evaluateIx,
      buildEd25519VerifyInstruction ⟨signature, oracle, msg, (k + 1 : ℕ), offset⟩ = .ok verifyIx ∧
      build opts = .ok evaluateIx ∧ LastSwapAccepted att oracle k verifyIx evaluateIx := by
  obtain rfl : att.fields.flatten = msg :=
    Except.ok.inj ((buildAttestationMessage_eq h.slotHash).symm.trans hmsg)
  have hlength := length_lastSwapFields h.slotHash
  have hdata : HasData (build opts) (Scanner.EvaluatePoolParams.instructionData rt.sha256 name
      ⟨att.ammProgramId, att.poolAddress, ⟨att.fields.flatten, hlength⟩⟩) := by
    cases hbuild with
    | phase1 => exact hasData_evaluatePoolPhase1 ⟨hamm, hpool, hopts⟩
    | phase2 => exact hasData_evaluatePoolPhase2 ⟨hamm, hpool, hopts⟩
  obtain ⟨evaluateIx, hevaluate, hix⟩ := hdata
  have hindex : k + 1 < 2 ^ 16 := by omega
  have hdefault : offset.getD IX_DATA_MSG_OFFSET = (72 : U16).val := by
    rcases hoffset with rfl | rfl
    · rfl
    · rfl
  have hverify : buildEd25519VerifyInstruction
      ⟨signature, oracle, att.fields.flatten, (k + 1 : ℕ), offset⟩ = _ :=
    @buildEd25519VerifyInstruction_eq _ 72 112 ⟨k + 1, hindex⟩ hsig (.inl ⟨rfl, rfl⟩) hdefault
      hlength rfl hk
  refine ⟨_, evaluateIx, hverify, hevaluate, fun sysvar hplaced => ?_, ⟨_, hlength⟩, hmsg, ?_⟩
  · refine ⟨loadInstructionPair_eq hplaced, (verifyEd25519OffsetsAt_iff hsig).2 ?_⟩
    refine ⟨rfl, Fin.ext hplaced.current.symm, ⟨rfl, rfl⟩, ?_⟩
    rw [hix, Scanner.EvaluatePoolParams.instructionData]
    simp [Scanner.ixDataMinLen, Scanner.ixDataMsgOffset, Scanner.attestationMsgLen, hlength]
  · rw [hix, decodeEvaluatePoolParams_eq]
    refine ⟨?_, rfl, readsLastSwap h rfl⟩
    exact slice_flatten [discriminator rt.sha256 "global" name, att.ammProgramId.val,
      att.poolAddress.val] [] _ (by simp [Scanner.ixDataMsgOffset])
      (by rw [hlength, Scanner.attestationMsgLen])

/-- What the scanner makes of a launch-price attestation that the SDK places at positions `k`
and `k + 1`. -/
structure LaunchPriceAccepted (att : LaunchPriceAttestation) (oracle : Pubkey) (k : ℕ)
    (verifyIx recordIx : TransactionInstruction) : Prop where
  checked : ∀ sysvar, Placed sysvar k verifyIx recordIx →
    Scanner.loadInstructionPair sysvar =
      .ok (verifyIx.toInstruction, recordIx.toInstruction, sysvar.currentIndex) ∧
    Scanner.verifyEd25519OffsetsAt verifyIx.toInstruction sysvar.currentIndex recordIx.data oracle
      Scanner.launchPriceMsgOffset Scanner.launchPriceMsgLen Scanner.launchPriceIxMinLen = .ok ()
  message : ∃ (msg : Bytes 168) (price : U128), buildLaunchPriceMessage att = .ok msg.val ∧
    (price.val : ℤ) = att.launchPriceQ64x64 ∧
    slice recordIx.data Scanner.launchPriceMsgOffset Scanner.launchPriceMsgLen = msg.val ∧
    Scanner.decodeRecordLaunchPriceParams recordIx.data =
      some ⟨att.ammProgramId, att.poolAddress, att.baseMint, att.quoteMint, price, msg⟩ ∧
    ReadsLaunchPrice msg att

/-- The launch-price attestation of the SDK is accepted. -/
theorem launchPriceAccepted (rt : Runtime) {att : LaunchPriceAttestation} (h : att.Valid)
    (oracle : Pubkey) {signature : List Byte} (hsig : signature.length = 64) {k : ℕ}
    (hk : k + 1 ≤ 0xfffe) {msg : List Byte} (hmsg : buildLaunchPriceMessage att = .ok msg)
    (scannerProgramId payer : Pubkey) : ∃ verifyIx recordIx,
      buildLaunchPriceEd25519VerifyInstruction signature oracle (k + 1 : ℕ) = .ok verifyIx ∧
      buildRecordLaunchPriceIx rt ⟨scannerProgramId, att.ammProgramId, att.poolAddress,
        att.baseMint, att.quoteMint, att.launchPriceQ64x64, msg, payer⟩ = .ok recordIx ∧
      LaunchPriceAccepted att oracle k verifyIx recordIx := by
  obtain rfl : att.fields.flatten = msg :=
    Except.ok.inj ((buildLaunchPriceMessage_eq h.launchPriceQ64x64).symm.trans hmsg)
  have hlength := length_launchPriceFields att
  have hrange := h.launchPriceQ64x64
  have hprice : att.launchPriceQ64x64.toNat < 2 ^ 128 := by omega
  have hvalue : (att.launchPriceQ64x64.toNat : ℤ) = att.launchPriceQ64x64 :=
    Int.toNat_of_nonneg hrange.1
  obtain ⟨recordIx, hrecord, hix⟩ := @hasData_recordLaunchPrice rt
    ⟨scannerProgramId, att.ammProgramId, att.poolAddress, att.baseMint, att.quoteMint,
      att.launchPriceQ64x64, att.fields.flatten, payer⟩
    ⟨att.ammProgramId, att.poolAddress, att.baseMint, att.quoteMint, ⟨_, hprice⟩, ⟨_, hlength⟩⟩
    ⟨rfl, rfl, rfl, rfl, hvalue.symm, rfl⟩
  have hindex : k + 1 < 2 ^ 16 := by omega
  have hverify : buildLaunchPriceEd25519VerifyInstruction signature oracle (k + 1 : ℕ) = _ :=
    @buildEd25519VerifyInstruction_eq _ 152 168 ⟨k + 1, hindex⟩ hsig (.inr ⟨rfl, rfl⟩) rfl
      List.length_replicate rfl hk
  refine ⟨_, recordIx, hverify, hrecord, fun sysvar hplaced => ?_, ⟨_, hlength⟩, ⟨_, hprice⟩, hmsg,
    hvalue, ?_⟩
  · refine ⟨loadInstructionPair_eq hplaced, (verifyEd25519OffsetsAt_iff hsig).2 ?_⟩
    refine ⟨rfl, Fin.ext hplaced.current.symm, ⟨rfl, rfl⟩, ?_⟩
    rw [hix, Scanner.RecordLaunchPriceParams.instructionData]
    simp [Scanner.launchPriceIxMinLen, Scanner.launchPriceMsgOffset, Scanner.launchPriceMsgLen,
      hlength]
  · rw [hix, decodeRecordLaunchPriceParams_eq]
    refine ⟨?_, rfl, readsLaunchPrice h rfl⟩
    exact slice_flatten [discriminator rt.sha256 "global" "record_launch_price",
      att.ammProgramId.val, att.poolAddress.val, att.baseMint.val, att.quoteMint.val,
      Borsh.u128 ⟨_, hprice⟩] [] _ (by simp [Scanner.launchPriceMsgOffset])
      (by rw [hlength, Scanner.launchPriceMsgLen])

/-- The attestations of the SDK are those that the scanner accepts : each verify instruction with
the instruction of its span, and none with that of the other span. Parsing inverts building. -/
structure AttestationsAgree (rt : Runtime) : Prop where
  lastSwap : ∀ (att : LastSwapAttestation) (oracle : Pubkey) (signature : List Byte) (k : ℕ)
    (build : EvaluatePoolOpts → Except BuildError TransactionInstruction) (name : String)
    (opts : EvaluatePoolOpts) (offset : Option ℤ), att.Valid → signature.length = 64 →
    k + 1 ≤ 0xfffe → PhaseBuilder rt build name → opts.ammProgramId = att.ammProgramId →
    opts.poolAddress = att.poolAddress → buildAttestationMessage att = .ok opts.msg →
    (offset = none ∨ offset = some IX_DATA_MSG_OFFSET) → ∃ verifyIx evaluateIx,
      buildEd25519VerifyInstruction ⟨signature, oracle, opts.msg, (k + 1 : ℕ), offset⟩ =
        .ok verifyIx ∧
      build opts = .ok evaluateIx ∧ LastSwapAccepted att oracle k verifyIx evaluateIx
  launchPrice : ∀ (att : LaunchPriceAttestation) (oracle : Pubkey) (signature : List Byte) (k : ℕ)
    (msg : List Byte) (scannerProgramId payer : Pubkey), att.Valid → signature.length = 64 →
    k + 1 ≤ 0xfffe → buildLaunchPriceMessage att = .ok msg → ∃ verifyIx recordIx,
      buildLaunchPriceEd25519VerifyInstruction signature oracle (k + 1 : ℕ) = .ok verifyIx ∧
      buildRecordLaunchPriceIx rt ⟨scannerProgramId, att.ammProgramId, att.poolAddress,
        att.baseMint, att.quoteMint, att.launchPriceQ64x64, msg, payer⟩ = .ok recordIx ∧
      LaunchPriceAccepted att oracle k verifyIx recordIx
  lastSwapOnly : ∀ (opts : VerifyOpts) (ix : TransactionInstruction),
    buildEd25519VerifyInstruction opts = .ok ix →
    opts.messageAddressOffset.getD IX_DATA_MSG_OFFSET = IX_DATA_MSG_OFFSET →
    ∀ i data oracle, Scanner.verifyEd25519OffsetsAt ix.toInstruction i data oracle
      Scanner.launchPriceMsgOffset Scanner.launchPriceMsgLen Scanner.launchPriceIxMinLen ≠ .ok ()
  launchPriceOnly : ∀ (opts : VerifyOpts) (ix : TransactionInstruction),
    buildEd25519VerifyInstruction opts = .ok ix →
    opts.messageAddressOffset = some LAUNCH_PRICE_MSG_OFFSET →
    ∀ i data oracle, Scanner.verifyEd25519Offsets ix.toInstruction i data oracle ≠ .ok ()
  parseLastSwap : ∀ att : LastSwapAttestation, att.Valid → ∃ msg,
    buildAttestationMessage att = .ok msg ∧ parseAttestationMessage msg = .ok att
  parseLaunchPrice : ∀ att : LaunchPriceAttestation, att.Valid → ∃ msg,
    buildLaunchPriceMessage att = .ok msg ∧ parseLaunchPriceMessage msg = .ok att

/-- The four places agree on both messages and both spans. -/
theorem attestations_agree (rt : Runtime) : AttestationsAgree rt where
  lastSwap att oracle signature k build name opts offset h hsig hk hbuild hamm hpool hmsg hoffset :=
    lastSwapAccepted h oracle hsig hk hbuild hamm hpool hmsg rfl hoffset
  launchPrice att oracle signature k msg scannerProgramId payer h hsig hk hmsg :=
    launchPriceAccepted rt h oracle hsig hk hmsg scannerProgramId payer
  lastSwapOnly opts ix hix hspan i data oracle := by
    obtain ⟨offset, length, index, _, hsig, hoffset, rfl⟩ :=
      buildEd25519VerifyInstruction_ok hix
    intro hok
    have hother := ((verifyEd25519OffsetsAt_iff hsig).1 hok).2.2.1.1
    rw [hoffset, IX_DATA_MSG_OFFSET] at hspan
    rw [Scanner.launchPriceMsgOffset] at hother
    omega
  launchPriceOnly opts ix hix hspan i data oracle := by
    obtain ⟨offset, length, index, _, hsig, hoffset, rfl⟩ :=
      buildEd25519VerifyInstruction_ok hix
    intro hok
    have hother := ((verifyEd25519OffsetsAt_iff hsig).1 hok).2.2.1.1
    rw [hspan, Option.getD_some, LAUNCH_PRICE_MSG_OFFSET] at hoffset
    rw [Scanner.ixDataMsgOffset] at hother
    omega
  parseLastSwap att h :=
    ⟨_, buildAttestationMessage_eq h.slotHash, parseAttestationMessage_eq h⟩
  parseLaunchPrice att h :=
    ⟨_, buildLaunchPriceMessage_eq h.launchPriceQ64x64, parseLaunchPriceMessage_eq h⟩

/-! ## An attestation at the third position -/

/-- A last swap before 1970. -/
def wireAttestation : LastSwapAttestation :=
  ⟨raydiumV4ProgramId, Pubkey.fill 1, -5, 899999, (Pubkey.fill 3).val⟩

theorem valid_wireAttestation : wireAttestation.Valid :=
  ⟨by decide, by decide, by decide⟩

/-- A launch price that needs the last bit of its field. -/
def wirePrice : LaunchPriceAttestation :=
  ⟨raydiumV4ProgramId, Pubkey.fill 1, Pubkey.fill 2, wsolMint, 5, 800, 2 ^ 127, 6⟩

theorem valid_wirePrice : wirePrice.Valid :=
  ⟨by decide, by decide, by decide, by decide⟩

/-- The message of the attestation is built and parsed, and its verify instruction is accepted with
a Phase 2 instruction that follows it, behind two others. The message of the launch price is built
and parsed too. -/
theorem attestations_agree_demo : ∃ msg priceMsg,
    buildAttestationMessage wireAttestation = .ok msg ∧
    parseAttestationMessage msg = .ok wireAttestation ∧
    (∃ verifyIx evaluateIx, buildEd25519VerifyInstruction
        ⟨List.replicate 64 1, Pubkey.fill 9, msg, (3 : ℕ), none⟩ = .ok verifyIx ∧
      buildEvaluatePoolPhase2Ix hashRuntime
        ⟨Pubkey.fill 8, raydiumV4ProgramId, Pubkey.fill 1, msg, Pubkey.fill 7, none⟩ =
          .ok evaluateIx ∧
      LastSwapAccepted wireAttestation (Pubkey.fill 9) 2 verifyIx evaluateIx) ∧
    buildLaunchPriceMessage wirePrice = .ok priceMsg ∧
    parseLaunchPriceMessage priceMsg = .ok wirePrice := by
  have hagree := attestations_agree hashRuntime
  obtain ⟨msg, hmsg, hparse⟩ := hagree.parseLastSwap wireAttestation valid_wireAttestation
  obtain ⟨priceMsg, hprice, hparsePrice⟩ := hagree.parseLaunchPrice wirePrice valid_wirePrice
  have haccepted := hagree.lastSwap wireAttestation (Pubkey.fill 9) (List.replicate 64 1) 2
    (buildEvaluatePoolPhase2Ix hashRuntime) _
    ⟨Pubkey.fill 8, raydiumV4ProgramId, Pubkey.fill 1, msg, Pubkey.fill 7, none⟩ none
    valid_wireAttestation List.length_replicate (by decide) .phase2 rfl rfl hmsg (.inl rfl)
  exact ⟨msg, priceMsg, hmsg, hparse, haccepted, hprice, hparsePrice⟩

end GraveYield.Sdk
