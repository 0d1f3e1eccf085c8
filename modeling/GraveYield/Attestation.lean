import GraveYield.Basic
import GraveYield.Errors
import GraveYield.Lib.Checked

/-!
# Oracle attestations

A scanner instruction that needs oracle evidence is preceded by a verify instruction of the
ed25519 precompile. The handler reads both from the instructions sysvar and checks that the
precompile's offsets name the oracle key and the pinned span of the instruction at the
current index. It then trusts the message of its own parameters.

The runtime is modelled as far as the checks rely on it : the precompile entries resolve
to a key and a message (`ed25519Entry`), and a transaction executes only if every entry is
signed (`Executes`). The sysvar reports top-level instructions, also while a CPI is running.
-/

namespace GraveYield.Scanner

open Machine Checked

/-! ## The ed25519 precompile -/

/-- A top-level instruction : the called program and its data. -/
structure Instruction where
  programId : Pubkey
  data : List Byte
  deriving DecidableEq

/-- `Ed25519SignatureOffsets`. -/
structure SignatureOffsets where
  signatureOffset : U16
  signatureInstructionIndex : U16
  publicKeyOffset : U16
  publicKeyInstructionIndex : U16
  messageDataOffset : U16
  messageDataSize : U16
  messageInstructionIndex : U16
  deriving DecidableEq

/-- The seven little-endian fields at `base`. -/
def signatureOffsetsAt (d : List Byte) (base : ℕ) : SignatureOffsets where
  signatureOffset := leWordAt 2 d base
  signatureInstructionIndex := leWordAt 2 d (base + 2)
  publicKeyOffset := leWordAt 2 d (base + 4)
  publicKeyInstructionIndex := leWordAt 2 d (base + 6)
  messageDataOffset := leWordAt 2 d (base + 8)
  messageDataSize := leWordAt 2 d (base + 10)
  messageInstructionIndex := leWordAt 2 d (base + 12)

/-- The index that names the precompile instruction itself. -/
def curInstructionIndex : U16 :=
  0xFFFF

/-- `ED25519_HEADER_LEN`. -/
def ed25519HeaderLen : ℕ := 16

/-- `ED25519_SIG_LEN`. -/
def ed25519SigLen : ℕ := 64

/-- `ED25519_PK_LEN`. -/
def ed25519PkLen : ℕ := 32

/-- The bytes that an index, an offset and a length name, seen from instruction `i`. -/
def resolveSpan (ixs : List Instruction) (i : ℕ) (index offset : U16) (len : ℕ) :
    Option (List Byte) :=
  (ixs[if index = curInstructionIndex then i else index.val]?).bind fun ix =>
    if offset.val + len ≤ ix.data.length then some (slice ix.data offset.val len) else none

/-- The key and the message that entry `k` of the precompile instruction `i` covers. -/
def ed25519Entry (ixs : List Instruction) (i k : ℕ) : Option (Pubkey × List Byte) := do
  let ix ← ixs[i]?
  let o := signatureOffsetsAt ix.data (2 + 14 * k)
  let _ ← resolveSpan ixs i o.signatureInstructionIndex o.signatureOffset ed25519SigLen
  let pk ← resolveSpan ixs i o.publicKeyInstructionIndex o.publicKeyOffset ed25519PkLen
  let key ← Bytes.ofList? 32 pk
  let msg ← resolveSpan ixs i o.messageInstructionIndex o.messageDataOffset o.messageDataSize.val
  return (key, msg)

/-- The number of entries a precompile instruction declares. -/
def numSignatures (ix : Instruction) : ℕ :=
  (leWordAt 1 ix.data 0).val

/-- The transaction passes its precompiles when `signed` is what keys have signed : each
entry of each ed25519 instruction resolves to a key that signed the message. -/
def Executes (signed : Pubkey → List Byte → Prop) (ixs : List Instruction) : Prop :=
  ∀ i ix, ixs[i]? = some ix → ix.programId = ed25519ProgramId →
    2 + 14 * numSignatures ix ≤ ix.data.length ∧
      ∀ k < numSignatures ix, ∃ p, ed25519Entry ixs i k = some p ∧ signed p.1 p.2

/-! ## The instructions sysvar -/

/-- The top-level instructions of the transaction and the index of the one running. The
account stores their number on 16 bits. -/
structure InstructionsSysvar where
  instructions : List Instruction
  currentIndex : U16
  length_lt : instructions.length < 2 ^ 16

/-- `(precompile_ix, scanner_ix, scanner_ix_index)`. -/
def loadInstructionPair (s : InstructionsSysvar) :
    Except ProgramError (Instruction × Instruction × U16) := do
  require (1 ≤ s.currentIndex.val) (.scanner .attestationMissing)
  let scannerIx ← okOr s.instructions[s.currentIndex.val]? (.scanner .attestationMissing)
  let precompileIx ← okOr s.instructions[s.currentIndex.val - 1]? (.scanner .attestationMissing)
  return (precompileIx, scannerIx, s.currentIndex)

/-! ## The handler's checks -/

/-- `ATTESTATION_MSG_LEN`. -/
def attestationMsgLen : ℕ := 112

/-- Where the message stands in the data of an evaluation. -/
def ixDataMsgOffset : ℕ := 8 + 32 + 32

/-- The least size of that data. -/
def ixDataMinLen : ℕ := ixDataMsgOffset + attestationMsgLen

/-- Where the key stands in the data of a verification. -/
def precompilePkOffset : ℕ := ed25519HeaderLen

/-- Where the signature stands. -/
def precompileSigOffset : ℕ := ed25519HeaderLen + ed25519PkLen

/-- The least size of that data. -/
def precompileMinLen : ℕ := ed25519HeaderLen + ed25519PkLen + ed25519SigLen

/-- `LAUNCH_PRICE_MSG_LEN`. -/
def launchPriceMsgLen : ℕ := 168

/-- Where the message stands in the data of `record_launch_price`. -/
def launchPriceMsgOffset : ℕ := 8 + 32 + 32 + 32 + 32 + 16

/-- The least size of that data. -/
def launchPriceIxMinLen : ℕ := launchPriceMsgOffset + launchPriceMsgLen

/-- Check that the precompile instruction has one entry, at the canonical places, for the
oracle key and for the pinned span of the scanner instruction. -/
def verifyEd25519OffsetsAt (precompileIx : Instruction) (scannerIxIndex : U16)
    (scannerIxData : List Byte) (oracle : Pubkey) (msgOffset msgLen minScannerDataLen : ℕ) :
    Except ProgramError Unit := do
  require (precompileIx.programId = ed25519ProgramId) (.scanner .attestationMissing)
  let d := precompileIx.data
  require (precompileMinLen ≤ d.length) (.scanner .invalidAttestationOffsets)
  let o := signatureOffsetsAt d 2
  require (numSignatures precompileIx = 1) (.scanner .invalidAttestationOffsets)
  require (o.signatureInstructionIndex = curInstructionIndex ∧
    o.signatureOffset.val = precompileSigOffset ∧
    o.signatureOffset.val + ed25519SigLen ≤ d.length) (.scanner .invalidAttestationOffsets)
  require (o.publicKeyInstructionIndex = curInstructionIndex ∧
    o.publicKeyOffset.val = precompilePkOffset ∧
    o.publicKeyOffset.val + ed25519PkLen ≤ d.length) (.scanner .invalidAttestationOffsets)
  require (slice d o.publicKeyOffset.val ed25519PkLen = oracle.val)
    (.scanner .attestationOracleMismatch)
  require (o.messageInstructionIndex = scannerIxIndex) (.scanner .invalidAttestationOffsets)
  require (o.messageDataOffset.val = msgOffset ∧ o.messageDataSize.val = msgLen)
    (.scanner .invalidAttestationOffsets)
  require (minScannerDataLen ≤ scannerIxData.length) (.scanner .invalidAttestationOffsets)

/-- The offsets check for the last-swap attestation. -/
def verifyEd25519Offsets (precompileIx : Instruction) (scannerIxIndex : U16)
    (scannerIxData : List Byte) (oracle : Pubkey) : Except ProgramError Unit :=
  verifyEd25519OffsetsAt precompileIx scannerIxIndex scannerIxData oracle ixDataMsgOffset
    attestationMsgLen ixDataMinLen

/-- The loop of `slot_hash_lookup` from entry `i`, for at most `n` entries. -/
def slotHashScan (d : List Byte) (targetSlot : U64) : ℕ → ℕ → Option Hash
  | 0, _ => none
  | n + 1, i =>
    let base := 8 + i * 40
    if d.length < base + 40 then none
    else if (leWordAt 8 d base).val = targetSlot.val then Bytes.ofList? 32 (slice d (base + 8) 32)
    else slotHashScan d targetSlot n (i + 1)

/-- The hash of `targetSlot` in raw `SlotHashes` data. -/
def slotHashLookup (slotHashesData : List Byte) (targetSlot : U64) : Option Hash :=
  if slotHashesData.length < 8 then none
  else slotHashScan slotHashesData targetSlot (leWordAt 8 slotHashesData 0).val 0

/-- `msg[64..72]`. -/
def messageLastSwapUnixTs (msg : Bytes 112) : ℤ :=
  toSigned64 (leWordAt 8 msg.val 64).val

/-- `msg[72..80]`. -/
def messageIssuedSlot (msg : Bytes 112) : U64 :=
  leWordAt 8 msg.val 72

/-- The message fields against the parameters, the clock and the `SlotHashes` data. -/
def verifyAttestationMessage (msg : Bytes 112) (ammProgramId poolAddress : Pubkey)
    (nowUnixTs : ℤ) (nowSlot : U64) (slotHashesData : List Byte) : Except ProgramError ℤ := do
  require (slice msg.val 0 32 = ammProgramId.val ∧ slice msg.val 32 32 = poolAddress.val)
    (.scanner .attestationBindingMismatch)
  let ts := messageLastSwapUnixTs msg
  require (0 < ts ∧ ts ≤ nowUnixTs) (.scanner .attestationTimestampInvalid)
  let issuedSlot := messageIssuedSlot msg
  require (0 < issuedSlot.val ∧ issuedSlot.val ≤ nowSlot.val) (.scanner .attestationSlotInvalid)
  let hash := slotHashLookup slotHashesData issuedSlot
  require (hash.isSome) (.scanner .attestationStale)
  require (hash = Bytes.ofList? 32 (slice msg.val 80 32)) (.scanner .attestationSlotHashMismatch)
  return ts

/-- `AttestationRef`. -/
structure AttestationRef where
  msg : Bytes 112
  ammProgramId : Pubkey
  poolAddress : Pubkey
  oracle : Pubkey

/-- The verification path of both evaluation phases. -/
def verifyLastSwapAttestation (sysvar : InstructionsSysvar) (slotHashesData : List Byte)
    (att : AttestationRef) (nowUnixTs : ℤ) (nowSlot : U64) : Except ProgramError ℤ := do
  let (precompileIx, scannerIx, currentIndex) ← loadInstructionPair sysvar
  verifyEd25519Offsets precompileIx currentIndex scannerIx.data att.oracle
  verifyAttestationMessage att.msg att.ammProgramId att.poolAddress nowUnixTs nowSlot
    slotHashesData

/-- `msg[144..160]`. -/
def launchPriceMessagePrice (msg : Bytes 168) : U128 :=
  leWordAt 16 msg.val 144

/-- `msg[128..136]`. -/
def launchPriceMessageFirstSwapSlot (msg : Bytes 168) : U64 :=
  leWordAt 8 msg.val 128

/-- `msg[136..144]`. -/
def launchPriceMessageFirstSwapTs (msg : Bytes 168) : ℤ :=
  toSigned64 (leWordAt 8 msg.val 136).val

/-- `msg[160..168]`. -/
def launchPriceMessageIssuedSlot (msg : Bytes 168) : U64 :=
  leWordAt 8 msg.val 160

/-- `LaunchPriceAttestationRef`. -/
structure LaunchPriceAttestationRef where
  msg : Bytes 168
  ammProgramId : Pubkey
  poolAddress : Pubkey
  baseMint : Pubkey
  quoteMint : Pubkey
  launchPriceQ64x64 : U128
  oracle : Pubkey

/-- The message fields against the echoed parameters and the clock. -/
def verifyLaunchPriceMessage (att : LaunchPriceAttestationRef) (nowUnixTs : ℤ) (nowSlot : U64) :
    Except ProgramError (U128 × U64 × ℤ) := do
  let msg := att.msg
  require (slice msg.val 0 32 = att.ammProgramId.val ∧ slice msg.val 32 32 = att.poolAddress.val)
    (.scanner .attestationBindingMismatch)
  require (slice msg.val 64 32 = att.baseMint.val ∧ slice msg.val 96 32 = att.quoteMint.val)
    (.scanner .attestationBindingMismatch)
  let price := launchPriceMessagePrice msg
  require (price = att.launchPriceQ64x64) (.scanner .attestationBindingMismatch)
  require (0 < price.val) (.scanner .invalidLaunchPrice)
  let firstSwapTs := launchPriceMessageFirstSwapTs msg
  require (0 < firstSwapTs ∧ firstSwapTs ≤ nowUnixTs) (.scanner .attestationTimestampInvalid)
  let firstSwapSlot := launchPriceMessageFirstSwapSlot msg
  require (0 < firstSwapSlot.val ∧ firstSwapSlot.val ≤ nowSlot.val)
    (.scanner .attestationSlotInvalid)
  let issuedSlot := launchPriceMessageIssuedSlot msg
  require (0 < issuedSlot.val ∧ issuedSlot.val ≤ nowSlot.val) (.scanner .attestationSlotInvalid)
  return (price, firstSwapSlot, firstSwapTs)

/-- The verification path of `record_launch_price`. -/
def verifyLaunchPriceAttestation (sysvar : InstructionsSysvar) (att : LaunchPriceAttestationRef)
    (nowUnixTs : ℤ) (nowSlot : U64) : Except ProgramError (U128 × U64 × ℤ) := do
  let (precompileIx, scannerIx, currentIndex) ← loadInstructionPair sysvar
  verifyEd25519OffsetsAt precompileIx currentIndex scannerIx.data att.oracle
    launchPriceMsgOffset launchPriceMsgLen launchPriceIxMinLen
  verifyLaunchPriceMessage att nowUnixTs nowSlot

/-! ## Parameters -/

/-- `EvaluatePoolPhase1Params` and `EvaluatePoolPhase2Params`. -/
structure EvaluatePoolParams where
  ammProgramId : Pubkey
  poolAddress : Pubkey
  msg : Bytes 112

/-- The parameters in instruction data, after the 8-byte discriminator. -/
def decodeEvaluatePoolParams (data : List Byte) : Option EvaluatePoolParams := do
  let ammProgramId ← Bytes.ofList? 32 (slice data 8 32)
  let poolAddress ← Bytes.ofList? 32 (slice data 40 32)
  let msg ← Bytes.ofList? 112 (slice data 72 112)
  return ⟨ammProgramId, poolAddress, msg⟩

/-- `RecordLaunchPriceParams`. -/
structure RecordLaunchPriceParams where
  ammProgramId : Pubkey
  poolAddress : Pubkey
  baseMint : Pubkey
  quoteMint : Pubkey
  launchPriceQ64x64 : U128
  msg : Bytes 168

/-- The parameters in instruction data, after the 8-byte discriminator. -/
def decodeRecordLaunchPriceParams (data : List Byte) : Option RecordLaunchPriceParams := do
  let ammProgramId ← Bytes.ofList? 32 (slice data 8 32)
  let poolAddress ← Bytes.ofList? 32 (slice data 40 32)
  let baseMint ← Bytes.ofList? 32 (slice data 72 32)
  let quoteMint ← Bytes.ofList? 32 (slice data 104 32)
  let msg ← Bytes.ofList? 168 (slice data 152 168)
  return ⟨ammProgramId, poolAddress, baseMint, quoteMint, leWordAt 16 data 136, msg⟩

end GraveYield.Scanner
