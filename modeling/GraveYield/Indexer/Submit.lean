import GraveYield.Certification
import GraveYield.Sdk.Client

/-!
# Submission

`submitCandidate` of the indexer signs the attestation of a candidate and sends it with a Phase 1
evaluation. `acceptsAt` runs the evaluation that stands at a position of an instruction list, on
the accounts that its keys name. `clientLists_refused` : the list that `submitCandidate` sends and
the list of `buildCertifyAndSalvageIxs` are refused, on every chain and in every state.
-/

namespace GraveYield.Indexer

open Machine Checked Sdk

/-! ## The source -/

/-- `ActivityRecord`, the fields that are read. -/
structure ActivityRecord where
  lastSwapUnixTs : ℤ
  lastSwapSlot : ℤ
  noSwapFound : Bool
  deriving DecidableEq

/-- `Candidate`, the fields that are read. -/
structure Candidate where
  poolAddress : Pubkey
  activity : ActivityRecord
  deriving DecidableEq

/-- A key pair, with what it signs. -/
structure Keypair where
  publicKey : Pubkey
  sign : List Byte → Bytes 64

/-- `IndexerConfig`, the fields that are read. The oracle's secret key is given by the pair it
makes; none of the inner option is a throw. -/
structure IndexerConfig where
  scannerProgramId : Pubkey
  vaultProgramId : Pubkey
  activityOracleSecretKey : Option (Option Keypair)

/-- `SubmitOpts`. -/
structure SubmitOpts where
  writer : Option Keypair
  oracleKeypair : Option Keypair

/-- The instructions of a transaction, in order. -/
structure Transaction where
  instructions : List TransactionInstruction
  length_lt : instructions.length < 2 ^ 16

/-- A verify instruction and its evaluation. -/
def Transaction.pair (ixs : TransactionInstruction × TransactionInstruction) : Transaction :=
  ⟨[ixs.1, ixs.2], by simp⟩

/-- What a submission asks the node. None, of the outer option, is a throw. -/
structure SubmitConnection where
  node : ClientConnection
  fetchSlotHash : ℕ → Option (Option (List Byte))
  sendAndConfirmTransaction : Transaction → Option String

/-- `SubmissionStatus`. -/
inductive SubmissionStatus where
  | submitted
  | confirmed
  | failed
  | skipped
  deriving DecidableEq

/-- Why a submission was skipped or failed. -/
inductive SubmissionError where
  | noOracleKey
  | noWriter
  | noSlotHash
  | thrown
  deriving DecidableEq

/-- The text of an error, where the indexer gives it. -/
def SubmissionError.message : SubmissionError → Option String
  | .noOracleKey => some "no activity oracle key — discovery-only mode"
  | .noWriter => some "no writer keypair — cannot pay EligibilityAnchor rent"
  | .noSlotHash => some "could not fetch slot hash for issuance slot"
  | .thrown => none

/-- `SubmissionResult`. -/
structure SubmissionResult where
  poolAddress : Pubkey
  signature : Option String
  status : SubmissionStatus
  error : Option SubmissionError
  anchorPda : Pubkey
  deriving DecidableEq

/-- The attestation of a candidate, as it is signed, and the transaction with it. -/
structure Signed where
  attestation : LastSwapAttestation
  transaction : Transaction

/-- The attestation that a candidate gets at a slot. -/
def attestationOf (candidate : Candidate) (issuedSlot : ℕ) (slotHash : List Byte) :
    LastSwapAttestation where
  ammProgramId := raydiumV4ProgramId
  poolAddress := candidate.poolAddress
  lastSwapUnixTs := candidate.activity.lastSwapUnixTs
  issuedSlot := issuedSlot
  slotHash := slotHash

/-- The body of the `try`, up to the sending. The client is built for this one list, and has read
no configuration. -/
def signCandidate (rt : Runtime) (conn : SubmitConnection) (config : IndexerConfig)
    (candidate : Candidate) (opts : SubmitOpts) (writer : Keypair) :
    Except SubmissionError Signed := do
  let issuedSlot ← okOr conn.node.getSlot .thrown
  let slotHash ← okOr (conn.fetchSlotHash issuedSlot) .thrown
  let slotHash ← okOr slotHash .noSlotHash
  let att := attestationOf candidate issuedSlot slotHash
  let msg ← (buildAttestationMessage att).mapError fun _ => .thrown
  let oracleKp ← okOr (opts.oracleKeypair.or (config.activityOracleSecretKey.bind id)) .thrown
  let client : GraveYieldClient := {
    connection := conn.node
    graveScannerProgramId := config.scannerProgramId
    graveVaultProgramId := config.vaultProgramId
    scannerConfig := none
    vaultConfig := none }
  let ixs ← (client.buildPhase1Ix rt {
    ammProgramId := raydiumV4ProgramId
    poolAddress := candidate.poolAddress
    derivation := ⟨candidate.activity.lastSwapUnixTs, issuedSlot⟩
    slotHash
    signature := (oracleKp.sign msg).val
    oraclePublicKey := oracleKp.publicKey
    writer := writer.publicKey
    remainingAccounts := none }).mapError fun _ => .thrown
  return ⟨att, .pair ixs⟩

/-- The result of a submission, and what it has signed and sent. -/
def submitCandidate (rt : Runtime) (conn : SubmitConnection) (config : IndexerConfig)
    (candidate : Candidate) (opts : SubmitOpts) : SubmissionResult × Option Signed :=
  let result := fun signature status error => SubmissionResult.mk candidate.poolAddress signature
    status error (eligibilityAnchorPda rt config.scannerProgramId raydiumV4ProgramId
      candidate.poolAddress)
  if config.activityOracleSecretKey.isNone ∧ opts.oracleKeypair.isNone then
    (result none .skipped (some .noOracleKey), none)
  else
    match opts.writer with
    | none => (result none .skipped (some .noWriter), none)
    | some writer =>
      match signCandidate rt conn config candidate opts writer with
      | .error e => (result none .failed (some e), none)
      | .ok signed =>
        match conn.sendAndConfirmTransaction signed.transaction with
        | none => (result none .failed (some .thrown), some signed)
        | some sig => (result (some sig) .confirmed none, some signed)

/-! ## Executing a list -/

/-- The accounts of the chain by address, and its slot hashes. -/
structure Chain where
  account : Pubkey → AccountInfo
  slotHashes : List Byte

/-- The place of the pool among the accounts of an evaluation. The two sysvars, the writer and
the System program follow, and then the remaining accounts. -/
def poolPosition : Scanner.Phase → ℕ
  | .one => 3
  | .two => 4

/-- The call of a phase. -/
def phaseCall : Scanner.Phase → Scanner.EvaluatePoolParams → Scanner.EvaluateAccounts →
    Scanner.Call
  | .one => .evaluatePoolPhase1
  | .two => .evaluatePoolPhase2

/-- The call that the instruction at a position makes. -/
def scannerCall (chain : Chain) (tx : Transaction) (index : U16) (phase : Scanner.Phase) :
    Option Scanner.Call := do
  let ix ← tx.instructions[index.val]?
  let params ← Scanner.decodeEvaluatePoolParams ix.data
  let pool ← ix.keys[poolPosition phase]?
  let writer ← ix.keys[poolPosition phase + 3]?
  let accounts : Scanner.EvaluateAccounts := {
    pool := chain.account pool.pubkey
    remainingAccounts :=
      (ix.keys.drop (poolPosition phase + 5)).map fun key => chain.account key.pubkey
    instructionSysvar := {
      instructions := tx.instructions.map TransactionInstruction.toInstruction
      currentIndex := index
      length_lt := by rw [List.length_map]; exact tx.length_lt }
    slotHashes := chain.slotHashes
    writer := writer.pubkey }
  return phaseCall phase params accounts

/-- The scanner accepts the evaluation at a position. -/
def acceptsAt (rt : Runtime) (s : Scanner.State) (chain : Chain) (tx : Transaction) (index : U16)
    (phase : Scanner.Phase) : Bool :=
  match scannerCall chain tx index phase with
  | none => false
  | some call => (Scanner.exec rt s call).isOk

/-- The list of `buildCertifyAndSalvageIxs` as one transaction. -/
def certifyAndSalvageTransaction (ixs : CertifyAndSalvageIxs) : Transaction :=
  ⟨[ixs.certifyIx, ixs.salvageIx], by simp⟩

/-! ## What the lists lack -/

variable {rt : Runtime} {s s' : Scanner.State} {chain : Chain}

/-- Without remaining accounts the adapter finds no vault. -/
theorem parse_nil {pool : AccountInfo} {poolData : Scanner.PoolData} :
    Scanner.RaydiumV4.parse pool [] ≠ .ok poolData := by
  intro h
  simp only [Scanner.RaydiumV4.parse, bind_ok_iff, okOr_ok_iff, List.find?_nil] at h
  obtain ⟨_, _, _, _, _, _, _, _, _, _, _, _, _, hfind, _⟩ := h
  cases hfind

/-- An evaluation without remaining accounts is refused in both phases. -/
theorem gatherInputs_nil {clock : Clock} {cfg : Scanner.ProtocolConfig}
    {launchPrice : Scanner.LaunchPrice} {params : Scanner.EvaluatePoolParams}
    {accounts : Scanner.EvaluateAccounts} {anchorEpoch : Option U64}
    {gathered : Scanner.PoolData × Scanner.CriteriaInputs} (h : accounts.remainingAccounts = []) :
    Scanner.gatherInputs rt clock cfg launchPrice params accounts anchorEpoch ≠ .ok gathered := by
  intro hok
  have hextract := (Scanner.gatherInputs_ok hok).1
  rw [h] at hextract
  exact parse_nil (Scanner.extractPoolData_ok hextract).2.2

/-- An evaluation at the first position has no instruction before it. -/
theorem verifyLastSwapAttestation_first {sysvar : Scanner.InstructionsSysvar}
    (h : sysvar.currentIndex = 0) (slotHashes : List Byte) (att : Scanner.AttestationRef)
    (now : ℤ) (slot : U64) :
    Scanner.verifyLastSwapAttestation sysvar slotHashes att now slot =
      .error (.scanner .attestationMissing) := by
  rw [Scanner.verifyLastSwapAttestation, Scanner.loadInstructionPair, h]
  rfl

/-- Behind the named accounts of a Phase 1 evaluation stand those that it was given. -/
theorem buildPhase1Ix_remaining {client : GraveYieldClient} {input : Phase1Input}
    {precompileIx phase1Ix : TransactionInstruction}
    (h : client.buildPhase1Ix rt input = .ok (precompileIx, phase1Ix)) :
    phase1Ix.keys.drop (poolPosition .one + 5) = input.remainingAccounts.getD [] := by
  simp only [GraveYieldClient.buildPhase1Ix, buildPhaseIx, bind_ok_iff, mapError_ok_iff,
    pure_ok_iff, Prod.mk.injEq] at h
  obtain ⟨_, _, ix, hix, _, _, rfl, rfl⟩ := h
  simp only [buildEvaluatePoolPhase1Ix, bind_ok_iff, pure_ok_iff] at hix
  obtain ⟨_, _, _, _, rfl⟩ := hix
  rfl

/-- What is sent was signed, with a key and by a writer. -/
theorem signCandidate_of_sent {conn : SubmitConnection} {config : IndexerConfig}
    {candidate : Candidate} {opts : SubmitOpts} {signed : Signed}
    (h : signed ∈ (submitCandidate rt conn config candidate opts).2) :
    ¬(config.activityOracleSecretKey.isNone ∧ opts.oracleKeypair.isNone) ∧
      ∃ writer, opts.writer = some writer ∧
        signCandidate rt conn config candidate opts writer = .ok signed := by
  unfold submitCandidate at h
  split_ifs at h with hkey
  · cases h
  refine ⟨hkey, ?_⟩
  cases hwriter : opts.writer with
  | none =>
    rw [hwriter] at h
    cases h
  | some writer =>
    rw [hwriter] at h
    refine ⟨writer, rfl, ?_⟩
    cases hsign : signCandidate rt conn config candidate opts writer with
    | error e =>
      simp only [hsign] at h
      cases h
    | ok made =>
      cases hsend : conn.sendAndConfirmTransaction made.transaction with
      | none => simpa [hsign, hsend] using h
      | some sig => simpa [hsign, hsend] using h

/-- The indexer hands over no accounts. -/
theorem submitCandidate_remaining {conn : SubmitConnection} {config : IndexerConfig}
    {candidate : Candidate} {opts : SubmitOpts} {signed : Signed}
    (h : signed ∈ (submitCandidate rt conn config candidate opts).2) :
    ∃ precompileIx phase1Ix, signed.transaction.instructions = [precompileIx, phase1Ix] ∧
      phase1Ix.keys.drop (poolPosition .one + 5) = [] := by
  obtain ⟨-, writer, -, hsign⟩ := signCandidate_of_sent h
  simp only [signCandidate, bind_ok_iff, mapError_ok_iff, pure_ok_iff] at hsign
  obtain ⟨_, _, _, _, _, _, _, _, _, _, ⟨precompileIx, phase1Ix⟩, hbuild, rfl⟩ := hsign
  exact ⟨precompileIx, phase1Ix, rfl, buildPhase1Ix_remaining hbuild⟩

/-- What an evaluation is handed. -/
theorem scannerCall_eq_some {tx : Transaction} {index : U16} {phase : Scanner.Phase}
    {call : Scanner.Call} (h : scannerCall chain tx index phase = some call) :
    ∃ ix params accounts, tx.instructions[index.val]? = some ix ∧
      call = phaseCall phase params accounts ∧
      accounts.remainingAccounts =
        (ix.keys.drop (poolPosition phase + 5)).map (fun key => chain.account key.pubkey) ∧
      accounts.instructionSysvar.currentIndex = index := by
  simp only [scannerCall, Option.bind_eq_bind, Option.bind_eq_some_iff, Option.pure_def,
    Option.some.injEq] at h
  obtain ⟨ix, hix, params, -, pool, -, writer, -, rfl⟩ := h
  exact ⟨ix, params, _, hix, rfl, rfl, rfl⟩

theorem isOk_eq_false {α ε : Type} {x : Except ε α} (h : ∀ a, x ≠ .ok a) : x.isOk = false := by
  cases x with
  | ok a => exact absurd rfl (h a)
  | error e => rfl

/-- A list whose evaluation is refused in every call it may make is not accepted. -/
theorem acceptsAt_eq_false {tx : Transaction} {index : U16} {phase : Scanner.Phase}
    (h : ∀ call, scannerCall chain tx index phase = some call →
      ∀ s', Scanner.exec rt s call ≠ .ok s') : acceptsAt rt s chain tx index phase = false := by
  unfold acceptsAt
  cases hcall : scannerCall chain tx index phase with
  | none => rfl
  | some call => exact isOk_eq_false (h call hcall)

/-- The Phase 1 list of the indexer is refused : the evaluation carries no remaining accounts. -/
theorem submitCandidate_refused {conn : SubmitConnection} {config : IndexerConfig}
    {candidate : Candidate} {opts : SubmitOpts} {signed : Signed}
    (h : signed ∈ (submitCandidate rt conn config candidate opts).2) :
    acceptsAt rt s chain signed.transaction 1 .one = false := by
  obtain ⟨precompileIx, phase1Ix, hlist, hkeys⟩ := submitCandidate_remaining h
  refine acceptsAt_eq_false fun call hcall s' hexec => ?_
  obtain ⟨ix, params, accounts, hix, rfl, hremaining, -⟩ := scannerCall_eq_some hcall
  rw [hlist] at hix
  obtain rfl : phase1Ix = ix := Option.some.inj hix
  rw [hkeys, List.map_nil] at hremaining
  obtain ⟨_, _, _, _, _, _, _, _, _, hgather, _⟩ := Scanner.evaluatePoolPhase1_ok hexec
  exact gatherInputs_nil hremaining hgather

/-- The Phase 2 list of the client is refused : its evaluation comes first. -/
theorem certifyAndSalvage_refused (ixs : CertifyAndSalvageIxs) :
    acceptsAt rt s chain (certifyAndSalvageTransaction ixs) 0 .two = false := by
  refine acceptsAt_eq_false fun call hcall s' hexec => ?_
  obtain ⟨ix, params, accounts, -, rfl, -, hindex⟩ := scannerCall_eq_some hcall
  obtain ⟨_, _, _, _, _, _, _, _, _, _, _, hgather, _⟩ := Scanner.evaluatePoolPhase2_ok hexec
  simp only [Scanner.gatherInputs, verifyLastSwapAttestation_first hindex] at hgather
  cases hgather

/-- In every state of the scanner and on every chain : the list that `submitCandidate` sends for
a candidate is refused, whatever the candidate, the node and the keys, and so is the list of
`buildCertifyAndSalvageIxs`, whatever accounts and attestation its inputs carry. -/
theorem clientLists_refused (rt : Runtime) (s : Scanner.State) (chain : Chain) :
    (∀ conn config candidate opts,
      ∀ signed ∈ (submitCandidate rt conn config candidate opts).2,
        acceptsAt rt s chain signed.transaction 1 .one = false) ∧
    ∀ (client : GraveYieldClient) phase2 salvage ixs,
      client.buildCertifyAndSalvageIxs rt phase2 salvage = .ok ixs →
        acceptsAt rt s chain (certifyAndSalvageTransaction ixs) 0 .two = false :=
  ⟨fun _ _ _ _ _ hsigned => submitCandidate_refused hsigned,
    fun _ _ _ ixs _ => certifyAndSalvage_refused ixs⟩

/-! ## A candidate that meets the criteria -/

open Scanner (demoRuntime demoAuthority demoPool demoMarker demoAccounts demoClock demoCalls)

/-- The pool's accounts on the chain, all others empty. -/
def demoChain (issuedSlot : ℕ) : Chain where
  account address :=
    (((demoAccounts issuedSlot).pool :: (demoAccounts issuedSlot).remainingAccounts).find?
      fun i => i.key = address).getD ⟨address, defaultPubkey, 0, []⟩
  slotHashes := (demoAccounts issuedSlot).slotHashes

/-- A node at a slot whose hash resolves. -/
def demoNode (slot : ℕ) : SubmitConnection where
  node := {
    getAccountInfo := fun _ => none
    getProgramAccounts := fun _ => []
    getSlot := some slot
    getSignaturesForAddress := fun _ _ _ => none
    getTransaction := fun _ => none
    getBlockTime := fun _ => none
    localUnixTs := 0
    getEpoch := none }
  fetchSlotHash _ := some (some (Pubkey.fill 3).val)
  sendAndConfirmTransaction _ := some "sent"

/-- The oracle of the demonstration. -/
def demoOracle : Keypair where
  publicKey := demoAuthority
  sign _ := Bytes.ofNat 64 0

/-- Its writer. -/
def demoWriter : Keypair where
  publicKey := Pubkey.fill 7
  sign _ := Bytes.ofNat 64 0

/-- Its configuration. -/
def demoConfig : IndexerConfig :=
  ⟨Pubkey.fill 41, Pubkey.fill 42, none⟩

/-- Its options. -/
def demoOpts : SubmitOpts :=
  ⟨some demoWriter, some demoOracle⟩

/-- The pool, with a last swap one second after the epoch. -/
def demoCandidate : Candidate :=
  ⟨demoPool, ⟨1, 0, false⟩⟩

/-- The input of an evaluation at a slot, with the accounts it names. -/
def demoInput (slot : ℕ) (remainingAccounts : Option (List Sdk.AccountMeta)) : Phase1Input where
  ammProgramId := raydiumV4ProgramId
  poolAddress := demoPool
  derivation := ⟨1, slot⟩
  slotHash := (Pubkey.fill 3).val
  signature := (Bytes.ofNat 64 0).val
  oraclePublicKey := demoAuthority
  writer := Pubkey.fill 7
  remainingAccounts

/-- The vaults, the LP mint and the marker. -/
def demoMetas : List Sdk.AccountMeta :=
  [Pubkey.fill 21, Pubkey.fill 22, Pubkey.fill 24, demoMarker].map metaReadOnly

/-- Its salvage. -/
def demoSalvage : SalvagePoolIxInput where
  vaultProgramId := Pubkey.fill 42
  scannerProgramId := Pubkey.fill 41
  ammProgramId := raydiumV4ProgramId
  poolAddress := demoPool
  salvor := Pubkey.fill 7
  salvorLpTokenAccount := Pubkey.fill 51
  lpMint := Pubkey.fill 24
  memecoinMint := Pubkey.fill 23
  lpSnapshotMerkleRoot := (Pubkey.fill 52).val
  lpTotalSupplyAtSnapshot := 1000
  salvorLpAmount := 10
  minQuoteOutputLamports := 0
  maxSlippageBpsOverride := none
  jupiterRouteData := []
  jupiterRouteAccountsLen := 0
  raydiumV4RemainingAccounts := List.replicate 13 (metaReadOnly (Pubkey.fill 53))
  jupiterRouteAccounts := []

/-- Its client. -/
def demoClient : GraveYieldClient where
  connection := (demoNode 0).node
  graveScannerProgramId := Pubkey.fill 41
  graveVaultProgramId := Pubkey.fill 42
  scannerConfig := none
  vaultConfig := none

/-- Before Phase 1, with the launch price recorded. -/
def beforePhase1 : Scanner.State :=
  run (Scanner.exec demoRuntime) (Scanner.State.genesis demoClock) (demoCalls.take 2)

/-- Before Phase 2, with the anchor two epochs old. -/
def beforePhase2 : Scanner.State :=
  run (Scanner.exec demoRuntime) (Scanner.State.genesis demoClock) demoCalls

/-- A transaction that is built, and accepted. -/
def builtAndAccepted {α : Type} (s : Scanner.State) (chain : Chain) (phase : Scanner.Phase)
    (built : Except ClientError α) (transaction : α → Transaction) : Bool :=
  match built with
  | .error _ => false
  | .ok ixs => acceptsAt demoRuntime s chain (transaction ixs) 1 phase

/-- A list that is built and accepted has its instructions. -/
theorem exists_of_builtAndAccepted {α : Type} {s : Scanner.State} {phase : Scanner.Phase}
    {built : Except ClientError α} {transaction : α → Transaction}
    (h : builtAndAccepted s chain phase built transaction = true) :
    ∃ ixs, built = .ok ixs ∧ acceptsAt demoRuntime s chain (transaction ixs) 1 phase = true := by
  cases built with
  | error e => cases h
  | ok ixs => exact ⟨ixs, rfl, h⟩

/-- The list of `buildCertifyAndSalvage` as one transaction. -/
def bundleTransaction (out : CertifyAndSalvageOutput) : Transaction :=
  ⟨[out.precompileIx, out.certifyIx, out.salvageIx], by simp⟩

/-- With its accounts the candidate is accepted in Phase 1. -/
theorem accepted_demoPhase1 : builtAndAccepted beforePhase1 (demoChain 7) .one
    (demoClient.buildPhase1Ix demoRuntime (demoInput 7 (some demoMetas))) Transaction.pair =
      true := by
  decide +kernel

/-- With its accounts and the verify instruction the candidate is accepted in Phase 2. -/
theorem accepted_demoPhase2 : builtAndAccepted beforePhase2 (demoChain 899999) .two
    (buildCertifyAndSalvage demoRuntime demoClient (demoInput 899999 (some demoMetas)) demoSalvage)
    bundleTransaction = true := by
  decide +kernel

/-- The demonstration candidate is submitted. -/
theorem isSome_demoSubmit :
    (submitCandidate demoRuntime (demoNode 7) demoConfig demoCandidate demoOpts).2.isSome =
      true := by
  decide +kernel

/-- The demonstration bundle is built. -/
theorem isOk_demoBundle : (demoClient.buildCertifyAndSalvageIxs demoRuntime
    (demoInput 899999 (some demoMetas)) demoSalvage).isOk = true := by
  decide +kernel

/-- A candidate that the scanner accepts in both phases once it gets the accounts and the verify
instruction, and refuses as the clients assemble it. -/
theorem clientLists_refused_candidate :
    (∃ ixs, demoClient.buildPhase1Ix demoRuntime (demoInput 7 (some demoMetas)) = .ok ixs ∧
      acceptsAt demoRuntime beforePhase1 (demoChain 7) (.pair ixs) 1 .one = true) ∧
    (∃ signed ∈ (submitCandidate demoRuntime (demoNode 7) demoConfig demoCandidate demoOpts).2,
      acceptsAt demoRuntime beforePhase1 (demoChain 7) signed.transaction 1 .one = false) ∧
    (∃ out, buildCertifyAndSalvage demoRuntime demoClient (demoInput 899999 (some demoMetas))
        demoSalvage = .ok out ∧
      acceptsAt demoRuntime beforePhase2 (demoChain 899999) (bundleTransaction out) 1 .two = true) ∧
    ∃ ixs, demoClient.buildCertifyAndSalvageIxs demoRuntime (demoInput 899999 (some demoMetas))
        demoSalvage = .ok ixs ∧
      acceptsAt demoRuntime beforePhase2 (demoChain 899999) (certifyAndSalvageTransaction ixs) 0
        .two = false := by
  obtain ⟨signed, hsigned⟩ := Option.isSome_iff_exists.1 isSome_demoSubmit
  obtain ⟨ixs, hixs⟩ := exists_ok_of_isOk isOk_demoBundle
  exact ⟨exists_of_builtAndAccepted accepted_demoPhase1,
    ⟨signed, hsigned, submitCandidate_refused hsigned⟩,
    exists_of_builtAndAccepted accepted_demoPhase2, ixs, hixs, certifyAndSalvage_refused ixs⟩

/-- The lists of the candidate, in the states where the phases are due. -/
theorem clientLists_refused_demo :
    (∃ signed ∈ (submitCandidate demoRuntime (demoNode 7) demoConfig demoCandidate demoOpts).2,
      acceptsAt demoRuntime beforePhase1 (demoChain 7) signed.transaction 1 .one = false) ∧
    ∃ ixs, demoClient.buildCertifyAndSalvageIxs demoRuntime (demoInput 899999 (some demoMetas))
        demoSalvage = .ok ixs ∧
      acceptsAt demoRuntime beforePhase2 (demoChain 899999) (certifyAndSalvageTransaction ixs) 0
        .two = false := by
  obtain ⟨signed, hsigned⟩ := Option.isSome_iff_exists.1 isSome_demoSubmit
  obtain ⟨ixs, hixs⟩ := exists_ok_of_isOk isOk_demoBundle
  exact ⟨⟨signed, hsigned, (clientLists_refused demoRuntime beforePhase1 (demoChain 7)).1
      (demoNode 7) demoConfig demoCandidate demoOpts signed hsigned⟩,
    ixs, hixs, (clientLists_refused demoRuntime beforePhase2 (demoChain 899999)).2 demoClient
      (demoInput 899999 (some demoMetas)) demoSalvage ixs hixs⟩

end GraveYield.Indexer
