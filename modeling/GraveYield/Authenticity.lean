import GraveYield.Attestation

/-!
# Authenticity of accepted attestations

The sysvar reports top-level instructions only, and neither the program of the instruction
at the current index nor its bytes are compared with the handler's own parameters. A handler
entered through a CPI therefore checks the span of the caller's instruction.

`verifyAttestation_authentic_iff` states exactly when an accepted message is one the oracle
signed : the top-level instruction at the current index carries it at the pinned span, as
it does whenever the handler is entered at the top level, or another precompile entry of
the transaction covers it. `forgedAttestation_accepted` is an accepted message that the
oracle never signed.
-/

namespace GraveYield.Scanner

open Machine Checked

/-- Whatever keys have signed, if the transaction executes then `oracle` signed `msg`. -/
def Authentic (s : InstructionsSysvar) (oracle : Pubkey) (msg : List Byte) : Prop :=
  ∀ signed, Executes signed s.instructions → signed oracle msg

/-- The top-level instruction at the current index has `msg` at offset `off`. -/
def CarriesAt (s : InstructionsSysvar) (off : ℕ) (msg : List Byte) : Prop :=
  ∃ ix, s.instructions[s.currentIndex.val]? = some ix ∧ slice ix.data off msg.length = msg

/-- Entry `k` of the ed25519 instruction `i` covers `msg` under `oracle`. -/
def CoveredBy (s : InstructionsSysvar) (i k : ℕ) (oracle : Pubkey) (msg : List Byte) : Prop :=
  ∃ ix, s.instructions[i]? = some ix ∧ ix.programId = ed25519ProgramId ∧ k < numSignatures ix ∧
    ed25519Entry s.instructions i k = some (oracle, msg)

/-- An entry other than the one the handler looks at covers `msg` under `oracle`. -/
def CoveredElsewhere (s : InstructionsSysvar) (oracle : Pubkey) (msg : List Byte) : Prop :=
  ∃ i k, (i, k) ≠ (s.currentIndex.val - 1, 0) ∧ CoveredBy s i k oracle msg

variable {s : InstructionsSysvar} {precompileIx scannerIx : Instruction} {index : U16}
  {oracle : Pubkey} {msgOffset msgLen minLen : ℕ} {msg : List Byte}

/-- What the pair of instructions is. -/
theorem loadInstructionPair_ok
    (h : loadInstructionPair s = .ok (precompileIx, scannerIx, index)) :
    1 ≤ s.currentIndex.val ∧ s.instructions[s.currentIndex.val]? = some scannerIx ∧
      s.instructions[s.currentIndex.val - 1]? = some precompileIx ∧ index = s.currentIndex := by
  simp only [loadInstructionPair, require_bind_ok_iff, okOr_bind_ok_iff] at h
  obtain ⟨h1, sc, hsc, pc, hpc, h⟩ := h
  cases h
  exact ⟨h1, hsc, hpc, rfl⟩

/-- What the offsets of the entry have been checked for. -/
theorem verifyEd25519OffsetsAt_ok {data : List Byte}
    (h : verifyEd25519OffsetsAt precompileIx index data oracle msgOffset msgLen minLen = .ok ()) :
    let o := signatureOffsetsAt precompileIx.data 2
    precompileIx.programId = ed25519ProgramId ∧ numSignatures precompileIx = 1 ∧
      (o.signatureInstructionIndex = curInstructionIndex ∧
        o.signatureOffset.val + ed25519SigLen ≤ precompileIx.data.length) ∧
      (o.publicKeyInstructionIndex = curInstructionIndex ∧
        o.publicKeyOffset.val + ed25519PkLen ≤ precompileIx.data.length) ∧
      slice precompileIx.data o.publicKeyOffset.val ed25519PkLen = oracle.val ∧
      o.messageInstructionIndex = index ∧
      (o.messageDataOffset.val = msgOffset ∧ o.messageDataSize.val = msgLen) ∧
      minLen ≤ data.length := by
  simp only [verifyEd25519OffsetsAt, require_bind_ok_iff, require_ok_iff] at h
  obtain ⟨h1, _, h2, ⟨h3, _, h4⟩, ⟨h5, _, h6⟩, h7, h8, h9, h10⟩ := h
  exact ⟨h1, h2, ⟨h3, h4⟩, ⟨h5, h6⟩, h7, h8, h9, h10⟩

theorem resolveSpan_self {ixs : List Instruction} {i : ℕ} (len : ℕ) {ix : Instruction}
    {offset : U16} (hix : ixs[i]? = some ix) (h : offset.val + len ≤ ix.data.length) :
    resolveSpan ixs i curInstructionIndex offset len = some (slice ix.data offset.val len) := by
  simp [resolveSpan, hix, h]

theorem resolveSpan_index {ixs : List Instruction} {i : ℕ} (offset : U16) (len : ℕ)
    {ix : Instruction} {index : U16} (hne : index ≠ curInstructionIndex)
    (hix : ixs[index.val]? = some ix)
    (h : offset.val + len ≤ ix.data.length) :
    resolveSpan ixs i index offset len = some (slice ix.data offset.val len) := by
  simp [resolveSpan, hne, hix, h]

/-- The sentinel is no index of the sysvar. -/
theorem currentIndex_ne_sentinel (h : s.instructions[s.currentIndex.val]? = some scannerIx) :
    s.currentIndex ≠ curInstructionIndex := by
  intro heq
  have hlt := (List.getElem?_eq_some_iff.1 h).1
  have hmax := s.length_lt
  have hval : s.currentIndex.val = 0xFFFF := congrArg Fin.val heq
  omega

/-- The entry that passed the offsets check covers the pinned span of the instruction at
the current index. -/
theorem coveredBy_of_verified
    (hl : loadInstructionPair s = .ok (precompileIx, scannerIx, index))
    (hv : verifyEd25519OffsetsAt precompileIx index scannerIx.data oracle msgOffset msgLen minLen =
      .ok ()) (hmin : msgOffset + msgLen ≤ minLen) :
    CoveredBy s (s.currentIndex.val - 1) 0 oracle (slice scannerIx.data msgOffset msgLen) := by
  obtain ⟨_, hsc, hpc, rfl⟩ := loadInstructionPair_ok hl
  obtain ⟨hprog, hnum, ⟨hsi, hsb⟩, ⟨hpi, hpb⟩, hkey, hmi, ⟨hmo, hms⟩, hlen⟩ :=
    verifyEd25519OffsetsAt_ok hv
  refine ⟨precompileIx, hpc, hprog, by omega, ?_⟩
  have hsig := resolveSpan_self ed25519SigLen hpc hsb
  have hpk := resolveSpan_self ed25519PkLen hpc hpb
  have hmsg := resolveSpan_index (i := s.currentIndex.val - 1)
    (signatureOffsetsAt precompileIx.data 2).messageDataOffset msgLen
    (currentIndex_ne_sentinel hsc) hsc (by omega)
  have hofList : Bytes.ofList? 32 oracle.val = some oracle := Bytes.ofList?_eq_some.2 rfl
  simp only [ed25519Entry, hpc, Option.bind_eq_bind, Option.bind_some, mul_zero, add_zero, hsi,
    hsig, hpi, hpk, hkey, hofList, hmi, hms, hmsg, hmo]
  rfl

/-- An accepted message is authentic iff the pinned span carries it or another entry of the
transaction covers it. -/
theorem authentic_iff (hl : loadInstructionPair s = .ok (precompileIx, scannerIx, index))
    (hv : verifyEd25519OffsetsAt precompileIx index scannerIx.data oracle msgOffset msg.length
      minLen = .ok ()) (hmin : msgOffset + msg.length ≤ minLen)
    (hexec : ∃ signed, Executes signed s.instructions) :
    Authentic s oracle msg ↔ CarriesAt s msgOffset msg ∨ CoveredElsewhere s oracle msg := by
  have hpair := coveredBy_of_verified hl hv hmin
  obtain ⟨_, hsc, _, _⟩ := loadInstructionPair_ok hl
  constructor
  · intro h
    obtain ⟨signed₀, hexec⟩ := hexec
    have hcov : ∃ i k, CoveredBy s i k oracle msg := by
      refine h (fun key m => ∃ i k, CoveredBy s i k key m) fun i ix hix hprog => ?_
      obtain ⟨hlen, hentries⟩ := hexec i ix hix hprog
      refine ⟨hlen, fun k hk => ?_⟩
      obtain ⟨p, hp, _⟩ := hentries k hk
      exact ⟨p, hp, i, k, ix, hix, hprog, hk, hp⟩
    obtain ⟨i, k, hik⟩ := hcov
    by_cases heq : (i, k) = (s.currentIndex.val - 1, 0)
    · obtain ⟨rfl, rfl⟩ := Prod.mk.inj heq
      obtain ⟨_, _, _, _, hp⟩ := hpair
      obtain ⟨_, _, _, _, hm⟩ := hik
      rw [hp, Option.some.injEq, Prod.mk.injEq] at hm
      exact Or.inl ⟨scannerIx, hsc, hm.2⟩
    · exact Or.inr ⟨i, k, heq, hik⟩
  · have hsigned : ∀ {i k}, CoveredBy s i k oracle msg → Authentic s oracle msg := by
      rintro i k ⟨ix, hix, hprog, hk, hentry⟩ signed hexec
      obtain ⟨p, hp, hs⟩ := (hexec i ix hix hprog).2 k hk
      rw [hentry, Option.some.injEq] at hp
      rwa [← hp] at hs
    rintro (⟨ix, hix, hslice⟩ | ⟨i, k, _, hik⟩)
    · rw [hsc, Option.some.injEq] at hix
      subst hix
      rw [hslice] at hpair
      exact hsigned hpair
    · exact hsigned hik

/-- The data of an evaluation carries its message. -/
theorem carriesAt_of_decodeEvaluatePoolParams {ix : Instruction} {params : EvaluatePoolParams}
    (hix : s.instructions[s.currentIndex.val]? = some ix)
    (h : decodeEvaluatePoolParams ix.data = some params) :
    CarriesAt s ixDataMsgOffset params.msg.val := by
  simp only [decodeEvaluatePoolParams, Option.bind_eq_bind, Option.bind_eq_some_iff] at h
  obtain ⟨_, _, _, _, m, hm, h⟩ := h
  cases h
  refine ⟨ix, hix, ?_⟩
  rw [m.2]
  exact (Bytes.ofList?_eq_some.1 hm).symm

/-- The data of `record_launch_price` carries its message. -/
theorem carriesAt_of_decodeRecordLaunchPriceParams {ix : Instruction}
    {params : RecordLaunchPriceParams} (hix : s.instructions[s.currentIndex.val]? = some ix)
    (h : decodeRecordLaunchPriceParams ix.data = some params) :
    CarriesAt s launchPriceMsgOffset params.msg.val := by
  simp only [decodeRecordLaunchPriceParams, Option.bind_eq_bind, Option.bind_eq_some_iff] at h
  obtain ⟨_, _, _, _, _, _, _, _, m, hm, h⟩ := h
  cases h
  refine ⟨ix, hix, ?_⟩
  rw [m.2]
  exact (Bytes.ofList?_eq_some.1 hm).symm

/-- The exact condition for both attestations, in a transaction that executes. At a
top-level entry, where the parameters are decoded from the instruction at the current
index, the condition holds. -/
theorem verifyAttestation_authentic_iff (s : InstructionsSysvar)
    (hexec : ∃ signed, Executes signed s.instructions) :
    (∀ slotHashesData att nowUnixTs nowSlot ts,
      verifyLastSwapAttestation s slotHashesData att nowUnixTs nowSlot = .ok ts →
        (Authentic s att.oracle att.msg.val ↔
          CarriesAt s ixDataMsgOffset att.msg.val ∨
            CoveredElsewhere s att.oracle att.msg.val)) ∧
    (∀ att nowUnixTs nowSlot r,
      verifyLaunchPriceAttestation s att nowUnixTs nowSlot = .ok r →
        (Authentic s att.oracle att.msg.val ↔
          CarriesAt s launchPriceMsgOffset att.msg.val ∨
            CoveredElsewhere s att.oracle att.msg.val)) ∧
    ∀ ix, s.instructions[s.currentIndex.val]? = some ix →
      (∀ params, decodeEvaluatePoolParams ix.data = some params →
        CarriesAt s ixDataMsgOffset params.msg.val) ∧
      ∀ params, decodeRecordLaunchPriceParams ix.data = some params →
        CarriesAt s launchPriceMsgOffset params.msg.val := by
  refine ⟨?_, ?_, fun ix hix => ⟨fun params => carriesAt_of_decodeEvaluatePoolParams hix,
    fun params => carriesAt_of_decodeRecordLaunchPriceParams hix⟩⟩
  · intro slotHashesData att nowUnixTs nowSlot ts h
    obtain ⟨⟨pc, sc, index⟩, hl, h⟩ := bind_ok_iff.1 h
    obtain ⟨_, hv, _⟩ := bind_ok_iff.1 h
    have hlen : att.msg.val.length = attestationMsgLen := att.msg.2
    exact authentic_iff hl (by rw [hlen]; exact hv) (by rw [hlen]; rfl) hexec
  · intro att nowUnixTs nowSlot r h
    obtain ⟨⟨pc, sc, index⟩, hl, h⟩ := bind_ok_iff.1 h
    obtain ⟨_, hv, _⟩ := bind_ok_iff.1 h
    have hlen : att.msg.val.length = launchPriceMsgLen := att.msg.2
    exact authentic_iff hl (by rw [hlen]; exact hv) (by rw [hlen]; rfl) hexec

/-! ## A transaction with a verify instruction -/

/-- The canonical data of a verify instruction for a span of instruction 1. -/
def verifyIxData (oracle : Pubkey) (msgOffset msgLen : ℕ) : List Byte :=
  [1, 0] ++ [48, 0xFFFF, 16, 0xFFFF, msgOffset, msgLen, 1].flatMap (leBytes 2) ++ oracle.val ++
    List.replicate 64 0

/-- A verify instruction followed by the instruction that is running. -/
def verifiedPair (oracle : Pubkey) (msgOffset msgLen : ℕ) (ix : Instruction) :
    InstructionsSysvar :=
  ⟨[⟨ed25519ProgramId, verifyIxData oracle msgOffset msgLen⟩, ix], 1, by simp⟩

/-- A verified pair passes the precompile. -/
theorem executes_verifiedPair {ix : Instruction} (hix : ix.programId ≠ ed25519ProgramId)
    (hlen : 16 ≤ (verifyIxData oracle msgOffset msgLen).length)
    (hnum : numSignatures ⟨ed25519ProgramId, verifyIxData oracle msgOffset msgLen⟩ = 1)
    (hentry : ed25519Entry (verifiedPair oracle msgOffset msgLen ix).instructions 0 0 =
      some (oracle, msg)) :
    Executes (fun key m => key = oracle ∧ m = msg)
      (verifiedPair oracle msgOffset msgLen ix).instructions := by
  intro i ix' hi hprog
  match i, hi with
  | 0, hi =>
    obtain rfl := Option.some.inj hi
    rw [hnum]
    refine ⟨hlen, fun k hk => ?_⟩
    obtain rfl : k = 0 := by omega
    exact ⟨_, hentry, rfl, rfl⟩
  | 1, hi =>
    obtain rfl := Option.some.inj hi
    exact absurd hprog hix

/-- The bytes of a last-swap attestation. -/
def attestationMsg (ammProgramId poolAddress : Pubkey) (ts issuedSlot : ℕ) (slotHash : Hash) :
    Bytes 112 :=
  ⟨ammProgramId.val ++ poolAddress.val ++ leBytes 8 ts ++ leBytes 8 issuedSlot ++ slotHash.val,
    by simp [ammProgramId.2, poolAddress.2, slotHash.2]⟩

/-- What the oracle signed : the last swap was at time 900. -/
def signedMsg : Bytes 112 :=
  attestationMsg raydiumV4ProgramId (Pubkey.fill 2) 900 7 (Pubkey.fill 3)

/-- What a caller passes to the handler : the last swap was at time 1. -/
def forgedMsg : Bytes 112 :=
  attestationMsg raydiumV4ProgramId (Pubkey.fill 2) 1 7 (Pubkey.fill 3)

/-- The calling program's own instruction, with the signed message at the pinned span. -/
def callerIx : Instruction :=
  ⟨Pubkey.fill 5, List.replicate 72 0 ++ signedMsg.val⟩

/-- A `SlotHashes` account with the one entry of slot 7. -/
def slotHashesOfSlot7 : List Byte :=
  leBytes 8 1 ++ leBytes 8 7 ++ (Pubkey.fill 3).val

theorem executes_callerIx : Executes (fun key m => key = Pubkey.fill 9 ∧ m = signedMsg.val)
    (verifiedPair (Pubkey.fill 9) 72 112 callerIx).instructions :=
  executes_verifiedPair (by decide +kernel) (by decide +kernel) (by decide +kernel)
    (by decide +kernel)

/-- Entered through a CPI of `callerIx`, the handler accepts `forgedMsg`, in a transaction
that executes although the oracle signed only `signedMsg`. -/
theorem forgedAttestation_accepted :
    verifyLastSwapAttestation (verifiedPair (Pubkey.fill 9) 72 112 callerIx) slotHashesOfSlot7
        ⟨forgedMsg, raydiumV4ProgramId, Pubkey.fill 2, Pubkey.fill 9⟩ 1000 10 = .ok 1 ∧
      ∃ signed, Executes signed (verifiedPair (Pubkey.fill 9) 72 112 callerIx).instructions ∧
        ¬signed (Pubkey.fill 9) forgedMsg.val := by
  refine ⟨by decide +kernel, _, executes_callerIx, ?_⟩
  rintro ⟨-, h⟩
  revert h
  decide +kernel

/-- The bytes of a launch-price attestation. -/
def launchPriceMsg : Bytes 168 :=
  ⟨raydiumV4ProgramId.val ++ (Pubkey.fill 2).val ++ (Pubkey.fill 4).val ++ wsolMint.val ++
    leBytes 8 5 ++ leBytes 8 800 ++ leBytes 16 77 ++ leBytes 8 6, by decide +kernel⟩

/-- A top-level `record_launch_price` instruction with that attestation. -/
def recordIx : Instruction :=
  ⟨Pubkey.fill 6, List.replicate 8 0 ++ slice launchPriceMsg.val 0 128 ++ leBytes 16 77 ++
    launchPriceMsg.val⟩

theorem executes_recordIx : Executes (fun key m => key = Pubkey.fill 9 ∧ m = launchPriceMsg.val)
    (verifiedPair (Pubkey.fill 9) 152 168 recordIx).instructions :=
  executes_verifiedPair (by decide +kernel) (by decide +kernel) (by decide +kernel)
    (by decide +kernel)

theorem verifyAttestation_authentic_iff_pairs :
    (Authentic (verifiedPair (Pubkey.fill 9) 72 112 callerIx) (Pubkey.fill 9) signedMsg.val ↔
      CarriesAt (verifiedPair (Pubkey.fill 9) 72 112 callerIx) 72 signedMsg.val ∨
        CoveredElsewhere (verifiedPair (Pubkey.fill 9) 72 112 callerIx) (Pubkey.fill 9)
          signedMsg.val) ∧
    (Authentic (verifiedPair (Pubkey.fill 9) 152 168 recordIx) (Pubkey.fill 9)
        launchPriceMsg.val ↔
      CarriesAt (verifiedPair (Pubkey.fill 9) 152 168 recordIx) 152 launchPriceMsg.val ∨
        CoveredElsewhere (verifiedPair (Pubkey.fill 9) 152 168 recordIx) (Pubkey.fill 9)
          launchPriceMsg.val) :=
  ⟨(verifyAttestation_authentic_iff _ ⟨_, executes_callerIx⟩).1 slotHashesOfSlot7
      ⟨signedMsg, raydiumV4ProgramId, Pubkey.fill 2, Pubkey.fill 9⟩ 1000 10 900
      (by decide +kernel),
    (verifyAttestation_authentic_iff _ ⟨_, executes_recordIx⟩).2.1
      ⟨launchPriceMsg, raydiumV4ProgramId, Pubkey.fill 2, Pubkey.fill 4, wsolMint, 77,
        Pubkey.fill 9⟩ 1000 10 (77, 5, 800) (by decide +kernel)⟩

end GraveYield.Scanner
