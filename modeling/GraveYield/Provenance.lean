import GraveYield.Authority
import GraveYield.Dispatch
import GraveYield.Lib.Wire
import GraveYield.SlotHashes

/-!
# Provenance of a settlement

The handlers trust the messages of their own parameters, and the sysvar shows them the top-level
instruction at the current index. Where every call that reads an attestation is that instruction
(`Call.TopLevel`), a verified message is a signed one (`signed_of_verified`). From there on every
settled pool is traced back through the run, from the salvage over the cert, the anchor and the
launch price to what the oracles signed (`settlement_attested`).
-/

namespace GraveYield

open Machine Checked Wire

/-! ## Calls at the top level -/

namespace Scanner

/-- The request and the instructions sysvar of a call that reads an attestation. -/
def Call.attestation? : Call → Option (Request × InstructionsSysvar)
  | .recordLaunchPrice params sysvar => some (.recordLaunchPrice params, sysvar)
  | .evaluatePoolPhase1 params accounts =>
    some (.evaluatePoolPhase1 params, accounts.instructionSysvar)
  | .evaluatePoolPhase2 params accounts =>
    some (.evaluatePoolPhase2 params, accounts.instructionSysvar)
  | _ => none

/-- The top-level instruction at the current index asks for `request`, in a transaction that
executes when `signed` is what keys have signed. -/
def AtTopLevel (sha256 : List Byte → Hash) (signed : Pubkey → List Byte → Prop)
    (sysvar : InstructionsSysvar) (request : Request) : Prop :=
  Executes signed sysvar.instructions ∧
    ∃ ix rest, sysvar.instructions[sysvar.currentIndex.val]? = some ix ∧
      Request.dispatch sha256 ix.data = .ok (request, rest)

variable {sha256 : List Byte → Hash} {signed : Pubkey → List Byte → Prop}
  {sysvar : InstructionsSysvar}

theorem Request.data_of_dispatch {request : Request} {data rest : List Byte}
    (h : dispatch sha256 data = .ok (request, rest)) : data = request.data sha256 ++ rest :=
  (encoded_iff.1 (encoded_of_dispatch h)).2

/-- The pinned span of the top-level instruction is the message of the request. -/
theorem AtTopLevel.carriesAt {request : Request} (h : AtTopLevel sha256 signed sysvar request)
    {msg : List Byte} {off : ℕ} (pre post : List (List Byte))
    (hdata : request.data sha256 = (pre ++ msg :: post).flatten)
    (hoff : off = pre.flatten.length) : CarriesAt sysvar off msg := by
  obtain ⟨_, ix, rest, hix, hdispatch⟩ := h
  refine ⟨ix, hix, ?_⟩
  rw [Request.data_of_dispatch hdispatch, hdata, slice_append_left]
  · exact slice_flatten pre post msg hoff rfl
  · rw [hoff, List.flatten_append, List.flatten_cons, List.length_append, List.length_append]
    omega

/-- A message that passed the offsets check was signed, if the pinned span carries it. -/
theorem signed_of_verified {precompileIx scannerIx : Instruction} {index : U16} {oracle : Pubkey}
    {msg : List Byte} {msgOffset minLen : ℕ} (hexec : Executes signed sysvar.instructions)
    (hl : loadInstructionPair sysvar = .ok (precompileIx, scannerIx, index))
    (hv : verifyEd25519OffsetsAt precompileIx index scannerIx.data oracle msgOffset msg.length
      minLen = .ok ()) (hmin : msgOffset + msg.length ≤ minLen)
    (hcarries : CarriesAt sysvar msgOffset msg) : signed oracle msg :=
  (authentic_iff hl hv hmin ⟨signed, hexec⟩).2 (Or.inl hcarries) signed hexec

/-! ## What the oracles signed -/

/-- A message of an oracle begins with the program and the pool that it is about. -/
def NamesPool (msg : List Byte) (key : PoolKey) : Prop :=
  slice msg 0 32 = key.1.val ∧ slice msg 32 32 = key.2.val

/-- In the state `s` the launch-price oracle has signed `msg`, and it says what `lp` says. -/
structure PriceSigned (signed : Pubkey → List Byte → Prop) (s : State) (key : PoolKey)
    (msg : Bytes 168) (lp : LaunchPrice) : Prop where
  signed : ∃ cfg, s.protocolConfig = some cfg ∧ signed cfg.launchPriceOracle msg.val
  pool : NamesPool msg.val key
  pair : slice msg.val 64 32 = lp.baseMint.val ∧ slice msg.val 96 32 = lp.quoteMint.val
  price : launchPriceMessagePrice msg = lp.launchPriceQ64x64 ∧ 0 < lp.launchPriceQ64x64.val
  firstSwap : 0 < launchPriceMessageFirstSwapTs msg ∧
    launchPriceMessageFirstSwapTs msg ≤ s.clock.unixTimestamp

/-- In the state `s` the activity oracle has signed `msg`, and with the last swap that it says the
criteria hold of a pool of the tokens of `lp`, against the price of `lp`. -/
structure DeathSigned (signed : Pubkey → List Byte → Prop) (s : State) (key : PoolKey)
    (msg : Bytes 112) (lp : LaunchPrice) : Prop where
  pool : NamesPool msg.val key
  slot : 0 < (messageIssuedSlot msg).val ∧ (messageIssuedSlot msg).val ≤ s.clock.slot.val
  signed : ∃ cfg inputs, s.protocolConfig = some cfg ∧ signed cfg.activityOracle msg.val ∧
    inputs.lastSwapUnixTs = messageLastSwapUnixTs msg ∧
    inputs.currentUnixTs = s.clock.unixTimestamp ∧
    inputs.launchPriceQ64x64 = lp.launchPriceQ64x64 ∧ CommonCriteria inputs cfg.thresholds

variable {rt : Runtime} {s s' : State}

/-- A launch price that was recorded at the top level was signed. -/
theorem priceSigned_of_ok {params : RecordLaunchPriceParams}
    (h : recordLaunchPrice s params sysvar = .ok s')
    (htop : AtTopLevel sha256 signed sysvar (.recordLaunchPrice params)) {lp : LaunchPrice}
    (hlp : s'.launchPrices params.key = some lp) :
    PriceSigned signed s params.key params.msg lp := by
  have hcarries : CarriesAt sysvar launchPriceMsgOffset params.msg.val :=
    htop.carriesAt [_, _, _, _, _, _] [] rfl (by simp [launchPriceMsgOffset])
  have hlen : params.msg.val.length = launchPriceMsgLen := params.msg.2
  simp only [recordLaunchPrice, bind_ok_iff, initAccount_ok_iff, loadAccount_ok_iff,
    require_ok_iff, exists_const, pure_ok_iff] at h
  obtain ⟨_, cfg, hcfg, _, ⟨price, slot, ts⟩, hverify, rfl⟩ := h
  obtain ⟨⟨precompileIx, scannerIx, index⟩, hl, hverify⟩ := bind_ok_iff.1 hverify
  obtain ⟨_, hv, hmessage⟩ := bind_ok_iff.1 hverify
  simp only [Function.update_self, Option.some.injEq] at hlp
  subst hlp
  simp only [verifyLaunchPriceMessage, require_bind_ok_iff, pure_ok_iff, Prod.mk.injEq] at hmessage
  obtain ⟨hpool, hpair, hprice, hpos, hts, _, _, rfl, _, _⟩ := hmessage
  have hsigned := signed_of_verified htop.1 hl (by rw [hlen]; exact hv) (by rw [hlen]; rfl) hcarries
  exact ⟨⟨cfg, hcfg, hsigned⟩, hpool, hpair, ⟨rfl, hpos⟩, hts⟩

/-- An evaluation that was called at the top level was signed. -/
theorem deathSigned_of_ok {params : EvaluatePoolParams} {accounts : EvaluateAccounts}
    {cfg : ProtocolConfig} {lp : LaunchPrice} {anchorEpoch : Option U64} {pool : PoolData}
    {inputs : CriteriaInputs} {phase : Phase} {b : U8} (hcfg : s.protocolConfig = some cfg)
    (hg : gatherInputs rt s.clock cfg lp params accounts anchorEpoch = .ok (pool, inputs))
    (he : evaluate inputs cfg.thresholds phase = .ok b)
    (hexec : Executes signed accounts.instructionSysvar.instructions)
    (hcarries : CarriesAt accounts.instructionSysvar ixDataMsgOffset params.msg.val) :
    DeathSigned signed s params.key params.msg lp := by
  have hlen : params.msg.val.length = attestationMsgLen := params.msg.2
  obtain ⟨_, hevidence⟩ := gatherInputs_ok hg
  simp only [gatherInputs, bind_ok_iff, require_ok_iff, exists_const, pure_ok_iff] at hg
  obtain ⟨ts, hverify, _, _, _, _, _, _, _, hg⟩ := hg
  obtain ⟨rfl, rfl⟩ := Prod.mk.inj hg
  obtain ⟨⟨precompileIx, scannerIx, index⟩, hl, hverify⟩ := bind_ok_iff.1 hverify
  obtain ⟨_, hv, hmessage⟩ := bind_ok_iff.1 hverify
  obtain ⟨rfl, hpool, _, hslot, _⟩ := verifyAttestationMessage_ok_iff.1 hmessage
  have hsigned := signed_of_verified hexec hl (by rw [hlen]; exact hv) (by rw [hlen]; rfl) hcarries
  exact ⟨hpool, hslot, cfg, _, hcfg, hsigned, rfl, rfl, rfl, (evaluate_ok_iff.1 he).2.1⟩

end Scanner

/-! ## The run of both programs -/

namespace World

variable {rt : Runtime} {signed : Pubkey → List Byte → Prop} {clock : Clock} {ledger : Ledger}
  {ixs : List Ix}

/-- The scanner's call that established `P`. -/
theorem exists_scannerCall {P : Scanner.State → Prop} (h0 : ¬P (.genesis clock))
    (h1 : P (run (exec rt) (genesis clock ledger) ixs).scanner) :
    ∃ pre call s', pre ++ [.scanner call] <+: ixs ∧
      ¬P (run (exec rt) (genesis clock ledger) pre).scanner ∧
      Scanner.exec rt (run (exec rt) (genesis clock ledger) pre).scanner call = .ok s' ∧ P s' := by
  obtain ⟨pre, ix, post, w', rfl, hn, hexec, hw', _⟩ :=
    exists_establishing (exec rt) (P := fun w : World => P w.scanner) h0 h1
  cases ix with
  | scanner call =>
    obtain ⟨s, hs, rfl⟩ := scanner_ok_iff.1 hexec
    exact ⟨pre, call, s, ⟨post, by simp⟩, hn, hs, hw'⟩
  | _ => exact absurd (scanner_exec hexec rfl ▸ hw') hn

/-- An instruction that succeeds enters the scanner at the top level, if it reads an attestation. -/
def Entered (rt : Runtime) (signed : Pubkey → List Byte → Prop) (w : World) (ix : Ix) : Prop :=
  ∀ call s request sysvar, ix = .scanner call → Scanner.exec rt w.scanner call = .ok s →
    call.attestation? = some (request, sysvar) →
    Scanner.AtTopLevel rt.sha256 signed sysvar request

theorem entered_before {pre : List Ix} {ix : Ix} {w₀ : World}
    (h : AlongRun (exec rt) (Entered rt signed) w₀ ixs) (hpre : pre ++ [ix] <+: ixs) :
    AlongRun (exec rt) (Entered rt signed) w₀ pre ∧
      Entered rt signed (run (exec rt) w₀ pre) ix := by
  obtain ⟨post, rfl⟩ := hpre
  exact alongRun_concat.1 (alongRun_append.1 h).1

/-- A recorded price was signed. -/
theorem exists_priceSigned (hentered : AlongRun (exec rt) (Entered rt signed)
    (genesis clock ledger) ixs) {key : Scanner.PoolKey} {lp : Scanner.LaunchPrice}
    (h : (run (exec rt) (genesis clock ledger) ixs).scanner.launchPrices key = some lp) :
    ∃ pre params sysvar, pre ++ [.scanner (.recordLaunchPrice params sysvar)] <+: ixs ∧
      params.key = key ∧
      Scanner.PriceSigned signed (run (exec rt) (genesis clock ledger) pre).scanner key params.msg
        lp := by
  obtain ⟨pre, call, s', hpre, hn, hexec, hs'⟩ :=
    exists_scannerCall (P := fun s => s.launchPrices key = some lp) (fun h => nomatch h) h
  have hix := (entered_before hentered hpre).2
  rcases Scanner.launchPrices_exec hexec key with hold | ⟨params, sysvar, rfl, rfl, _⟩
  · exact absurd (hold.symm.trans hs') hn
  · exact ⟨pre, params, sysvar, hpre, rfl,
      Scanner.priceSigned_of_ok hexec (hix _ _ _ _ rfl hexec rfl) hs'⟩

/-- Behind a valid anchor there is a signed death. -/
theorem exists_anchorSigned (hentered : AlongRun (exec rt) (Entered rt signed)
    (genesis clock ledger) ixs) {key : Scanner.PoolKey} {a : Scanner.EligibilityAnchor}
    (h : (run (exec rt) (genesis clock ledger) ixs).scanner.anchors key = some a)
    (hv : a.invalidated = false) :
    ∃ pre params accounts lp, pre ++ [.scanner (.evaluatePoolPhase1 params accounts)] <+: ixs ∧
      params.key = key ∧
      (run (exec rt) (genesis clock ledger) pre).scanner.launchPrices key = some lp ∧
      a.firstEligibleEpoch = (run (exec rt) (genesis clock ledger) pre).scanner.clock.epoch ∧
      Scanner.DeathSigned signed (run (exec rt) (genesis clock ledger) pre).scanner key params.msg
        lp := by
  obtain ⟨pre, call, s', hpre, hn, hexec, hs'⟩ :=
    exists_scannerCall (P := fun s => s.anchors key = some a) (fun h => nomatch h) h
  have hix := (entered_before hentered hpre).2
  rcases Scanner.anchors_exec hexec hs' hv with hold | ⟨params, accounts, rfl, rfl⟩
  · exact absurd hold hn
  · have htop := hix _ _ _ _ rfl hexec rfl
    obtain ⟨cfg, lp, pool, inputs, a', hcfg, _, _, hlp, hg, he, hepoch, _, rfl⟩ :=
      Scanner.evaluatePoolPhase1_ok hexec
    obtain rfl : a' = a := by simpa using hs'
    refine ⟨pre, params, accounts, lp, hpre, rfl, hlp, hepoch, ?_⟩
    exact Scanner.deathSigned_of_ok hcfg hg he htop.1
      (htop.carriesAt [_, _, _] [] rfl (by simp [Scanner.ixDataMsgOffset]))

/-- Behind a cert there is a signed death, two epochs after its anchor. -/
theorem exists_certSigned (hentered : AlongRun (exec rt) (Entered rt signed)
    (genesis clock ledger) ixs) {key : Scanner.PoolKey} {cert : Scanner.EligibilityCert}
    (h : (run (exec rt) (genesis clock ledger) ixs).scanner.certs key = some cert) :
    ∃ pre params accounts lp a, pre ++ [.scanner (.evaluatePoolPhase2 params accounts)] <+: ixs ∧
      params.key = key ∧
      (run (exec rt) (genesis clock ledger) pre).scanner.launchPrices key = some lp ∧
      (run (exec rt) (genesis clock ledger) pre).scanner.anchors key = some a ∧
      a.invalidated = false ∧ a.firstEligibleEpoch.val + 2 ≤
        (run (exec rt) (genesis clock ledger) pre).scanner.clock.epoch.val ∧
      (∃ cfg, (run (exec rt) (genesis clock ledger) pre).scanner.protocolConfig = some cfg ∧
        cert.expiresAt = (run (exec rt) (genesis clock ledger) pre).scanner.clock.unixTimestamp +
          cfg.certTtlSeconds) ∧
      Scanner.DeathSigned signed (run (exec rt) (genesis clock ledger) pre).scanner key params.msg
        lp := by
  obtain ⟨pre, call, s', hpre, hn, hexec, hs'⟩ :=
    exists_scannerCall (P := fun s => s.certs key = some cert) (fun h => nomatch h) h
  have hix := (entered_before hentered hpre).2
  rcases Scanner.certs_exec hexec key with hold | ⟨params, accounts, rfl, rfl⟩
  · exact absurd (hold.symm.trans hs') hn
  · have htop := hix _ _ _ _ rfl hexec rfl
    obtain ⟨cfg, lp, pool, inputs, a, c, hcfg, _, ha, hv, hlp, hg, he, _, hc, rfl⟩ :=
      Scanner.evaluatePoolPhase2_written hexec
    obtain rfl : c = cert := by simpa using hs'
    obtain ⟨_, hevidence⟩ := Scanner.gatherInputs_ok hg
    obtain ⟨_, _, epoch, hanchor, hconfirmed⟩ := Scanner.evaluate_ok_iff.1 he
    obtain rfl := Option.some.inj (hevidence.anchor.symm.trans hanchor)
    rw [hevidence.epoch] at hconfirmed
    refine ⟨pre, params, accounts, lp, a, hpre, rfl, hlp, ha, hv, hconfirmed,
      ⟨cfg, hcfg, hc.expiresAt⟩, ?_⟩
    exact Scanner.deathSigned_of_ok hcfg hg he htop.1
      (htop.carriesAt [_, _, _] [] rfl (by simp [Scanner.ixDataMsgOffset]))

/-- A settled pool was salvaged under a live cert. -/
theorem exists_certifiedSalvage {pool : Pubkey} {registry : Vault.PoolRegistry}
    (h : (run (exec rt) (genesis clock ledger) ixs).vault.registries pool = some registry) :
    ∃ pre params accounts programs w' cert,
      pre ++ [.vault (.salvagePool params accounts programs)] <+: ixs ∧
      params.poolAddress = pool ∧ exec rt (run (exec rt) (genesis clock ledger) pre)
        (.vault (.salvagePool params accounts programs)) = .ok w' ∧
      (run (exec rt) (genesis clock ledger) pre).scanner.certs (params.ammProgramId, pool) =
        some cert ∧
      cert.isExpired (run (exec rt) (genesis clock ledger) pre).scanner.clock.unixTimestamp =
        false := by
  obtain ⟨pre, ix, post, w', rfl, hn, hexec, hw', _⟩ :=
    exists_establishing (exec rt)
      (P := fun w : World => (w.vault.registries pool).isSome = true)
      (s := genesis clock ledger) (fun h => nomatch h) (by rw [h]; rfl)
  rcases poolAccounts_exec hexec pool with ⟨h1, _⟩ | ⟨params, accounts, programs, rfl, rfl, _⟩ |
    ⟨_, _, h1, _⟩ | ⟨_, _, _, _, _, h1⟩
  · exact absurd (h1 ▸ hw') hn
  · obtain ⟨cert, hcert, hlive, _⟩ := (authorizedSalvage_of_ok hexec).certified
    exact ⟨pre, params, accounts, programs, w', cert, ⟨post, by simp⟩, rfl, hexec, hcert, hlive⟩
  · exact absurd (by rw [h1]; rfl) hn
  · exact absurd (h1 ▸ hw') hn

/-- Recorded prices stay. -/
theorem launchPrice_before {pre : List Ix} {key : Scanner.PoolKey} {lp : Scanner.LaunchPrice}
    {w₀ : World} (hpre : pre <+: ixs)
    (h : (run (exec rt) w₀ pre).scanner.launchPrices key = some lp) :
    (run (exec rt) w₀ ixs).scanner.launchPrices key = some lp := by
  obtain ⟨post, rfl⟩ := hpre
  rw [run_append, scanner_run]
  exact Scanner.launchPrices_run rt h _

/-- The word of the oracles behind every settled pool. The launch-price oracle of the day signed
the price and the pair, and the activity oracle of the day signed a last swap, once before Phase 1
and once, at least two epochs later, before Phase 2; each message names the program and the pool
under whose cert the pool was salvaged; and at both times the criteria held of the last swap that
was signed, against the price that was signed. -/
theorem settlement_attested (rt : Runtime) (clock : Clock) (ledger : Ledger) (ixs : List Ix)
    (signed : Pubkey → List Byte → Prop)
    (hentered : AlongRun (exec rt) (Entered rt signed) (genesis clock ledger) ixs) (pool : Pubkey)
    (registry : Vault.PoolRegistry)
    (h : (run (exec rt) (genesis clock ledger) ixs).vault.registries pool = some registry) :
    ∃ pre₀ params₀ sysvar₀ pre₁ params₁ accounts₁ pre₂ params₂ accounts₂ pre₃ params₃ accounts₃
        programs₃ w₃ lp,
      (pre₀ ++ [.scanner (.recordLaunchPrice params₀ sysvar₀)] <+: pre₁ ∧
        pre₁ ++ [.scanner (.evaluatePoolPhase1 params₁ accounts₁)] <+: pre₂ ∧
        pre₂ ++ [.scanner (.evaluatePoolPhase2 params₂ accounts₂)] <+: pre₃ ∧
        pre₃ ++ [.vault (.salvagePool params₃ accounts₃ programs₃)] <+: ixs) ∧
      params₃.poolAddress = pool ∧
      exec rt (run (exec rt) (genesis clock ledger) pre₃)
        (.vault (.salvagePool params₃ accounts₃ programs₃)) = .ok w₃ ∧
      Scanner.PriceSigned signed (run (exec rt) (genesis clock ledger) pre₀).scanner
        (params₃.ammProgramId, pool) params₀.msg lp ∧
      Scanner.DeathSigned signed (run (exec rt) (genesis clock ledger) pre₁).scanner
        (params₃.ammProgramId, pool) params₁.msg lp ∧
      Scanner.DeathSigned signed (run (exec rt) (genesis clock ledger) pre₂).scanner
        (params₃.ammProgramId, pool) params₂.msg lp ∧
      (run (exec rt) (genesis clock ledger) pre₁).scanner.clock.epoch.val + 2 ≤
        (run (exec rt) (genesis clock ledger) pre₂).scanner.clock.epoch.val ∧
      ∃ cfg, (run (exec rt) (genesis clock ledger) pre₂).scanner.protocolConfig = some cfg ∧
        (run (exec rt) (genesis clock ledger) pre₃).scanner.clock.unixTimestamp <
          (run (exec rt) (genesis clock ledger) pre₂).scanner.clock.unixTimestamp +
            cfg.certTtlSeconds := by
  obtain ⟨pre₃, params₃, accounts₃, programs₃, w₃, cert, hpre₃, hpool, hexec, hcert, hlive⟩ :=
    exists_certifiedSalvage h
  have hentered₃ := (entered_before hentered hpre₃).1
  obtain ⟨pre₂, params₂, accounts₂, lp₂, a, hpre₂, hkey₂, hlp₂, ha, hv, hconfirmed,
    ⟨cfg, hcfg, httl⟩, hdead₂⟩ := exists_certSigned hentered₃ hcert
  have hentered₂ := (entered_before hentered₃ hpre₂).1
  obtain ⟨pre₁, params₁, accounts₁, lp, hpre₁, hkey₁, hlp, hepoch, hdead₁⟩ :=
    exists_anchorSigned hentered₂ ha hv
  have hentered₁ := (entered_before hentered₂ hpre₁).1
  obtain ⟨pre₀, params₀, sysvar₀, hpre₀, hkey₀, hprice⟩ := exists_priceSigned hentered₁ hlp
  have hprefix : pre₁ <+: pre₂ := (List.prefix_append _ _).trans hpre₁
  obtain rfl : lp = lp₂ := Option.some.inj ((launchPrice_before hprefix hlp).symm.trans hlp₂)
  rw [hepoch] at hconfirmed
  have htime : (run (exec rt) (genesis clock ledger) pre₃).scanner.clock.unixTimestamp <
      cert.expiresAt := by
    simpa [Scanner.EligibilityCert.isExpired] using hlive
  rw [httl] at htime
  exact ⟨pre₀, params₀, sysvar₀, pre₁, params₁, accounts₁, pre₂, params₂, accounts₂, pre₃, params₃,
    accounts₃, programs₃, w₃, lp, ⟨hpre₀, hpre₁, hpre₂, hpre₃⟩, hpool, hexec, hprice, hdead₁,
    hdead₂, hconfirmed, cfg, hcfg, htime⟩

/-! ## A pool settled on signed evidence -/

/-- The instructions of a transaction that verifies a span of the instruction that asks for
`request`. -/
def verifiedRequest (request : Scanner.Request) (msgOffset msgLen : ℕ) :
    Scanner.InstructionsSysvar :=
  Scanner.verifiedPair Scanner.demoAuthority msgOffset msgLen
    ⟨Pubkey.fill 6, request.data Machine.sha256⟩

/-- The launch price that is recorded. -/
def demoLaunchPrice : Scanner.RecordLaunchPriceParams :=
  ⟨raydiumV4ProgramId, Scanner.demoPool, Pubkey.fill 23, wsolMint, 18446744073709551616,
    Scanner.demoLaunchPriceMsg⟩

/-- The first phase. -/
def demoPhase1 : Scanner.Call :=
  .evaluatePoolPhase1 (Scanner.demoParams 7) { Scanner.demoAccounts 7 with
    instructionSysvar := verifiedRequest (.evaluatePoolPhase1 (Scanner.demoParams 7)) 72 112 }

/-- The second phase. -/
def demoPhase2 : Scanner.Call :=
  .evaluatePoolPhase2 (Scanner.demoParams 899999) { Scanner.demoAccounts 899999 with
    instructionSysvar := verifiedRequest (.evaluatePoolPhase2 (Scanner.demoParams 899999)) 72 112 }

/-- The demonstration pool, certified at the top level and salvaged. -/
def attestedRun : List Ix :=
  [.scanner (.initializeProtocol ⟨Scanner.demoAuthority, 0, 0, 0, 0, 500, 0⟩),
    .scanner (.recordLaunchPrice demoLaunchPrice
      (verifiedRequest (.recordLaunchPrice demoLaunchPrice) 152 168)),
    .scanner demoPhase1, .scanner (.tick ⟨900000, 102, 10360000⟩), .scanner demoPhase2,
    .vault (.initializeProtocol ⟨Scanner.demoAuthority, 0, 0, 0, 0, 0, 1000000000000, 0⟩
      demoSalvor), demoSalvage]

/-- Both oracles are one key, and it signed three messages. -/
def demoSigned (key : Pubkey) (msg : List Byte) : Prop :=
  key = Scanner.demoAuthority ∧ msg ∈ [Scanner.demoLaunchPriceMsg.val,
    (Scanner.demoParams 7).msg.val, (Scanner.demoParams 899999).msg.val]

theorem atTopLevel_verifiedRequest {request : Scanner.Request} {off len : ℕ} (msg : List Byte)
    (hmsg : demoSigned Scanner.demoAuthority msg)
    (hlen : 16 ≤ (Scanner.verifyIxData Scanner.demoAuthority off len).length)
    (hnum : Scanner.numSignatures ⟨ed25519ProgramId,
      Scanner.verifyIxData Scanner.demoAuthority off len⟩ = 1)
    (hentry : Scanner.ed25519Entry (verifiedRequest request off len).instructions 0 0 =
      some (Scanner.demoAuthority, msg))
    (hrange : request.InRange) :
    Scanner.AtTopLevel Machine.sha256 demoSigned (verifiedRequest request off len) request := by
  have htags : TagsDistinct Machine.sha256 "global" (Scanner.Request.entries.map Entry.name) := by
    decide +kernel
  have hdispatch : Scanner.Request.dispatch Machine.sha256 (request.data Machine.sha256) =
      .ok (request, []) :=
    (exact_of_encoded htags Scanner.Request.encoded_iff _ _ _).2 ⟨hrange, by simp⟩
  have hprogram : Pubkey.fill 6 ≠ ed25519ProgramId := by decide +kernel
  refine ⟨fun i ix hix hprog => ?_, _, [], rfl, hdispatch⟩
  obtain ⟨hfits, hentries⟩ :=
    Scanner.executes_verifiedPair hprogram hlen hnum hentry i ix hix hprog
  refine ⟨hfits, fun k hk => ?_⟩
  obtain ⟨⟨key, m⟩, hp, rfl, rfl⟩ := hentries k hk
  exact ⟨_, hp, hmsg⟩

/-- Each call of the demonstration is made at the top level. -/
theorem entered_attestedRun : AlongRun (exec Scanner.demoRuntime)
    (Entered Scanner.demoRuntime demoSigned) (genesis Scanner.demoClock demoLedger)
    attestedRun := by
  refine alongRun_of_forall fun w ix hix call s request sysvar hcall _ hrequest => ?_
  simp only [attestedRun, List.mem_cons, List.not_mem_nil, or_false] at hix
  rcases hix with rfl | rfl | rfl | rfl | rfl | rfl | rfl <;> cases hcall <;> cases hrequest
  · exact atTopLevel_verifiedRequest Scanner.demoLaunchPriceMsg.val
      ⟨rfl, by simp⟩ (by decide +kernel) (by decide +kernel) (by decide +kernel) trivial
  · exact atTopLevel_verifiedRequest (Scanner.demoParams 7).msg.val
      ⟨rfl, by simp⟩ (by decide +kernel) (by decide +kernel) (by decide +kernel) trivial
  · exact atTopLevel_verifiedRequest (Scanner.demoParams 899999).msg.val
      ⟨rfl, by simp⟩ (by decide +kernel) (by decide +kernel) (by decide +kernel) trivial

theorem isSome_attestedRegistry : ((run (exec Scanner.demoRuntime)
    (genesis Scanner.demoClock demoLedger) attestedRun).vault.registries
      Scanner.demoPool).isSome = true := by
  decide +kernel

theorem settlement_attested_demo : ∃ amm pre₁ msg₁ pre₂ msg₂ lp,
    pre₁ <+: pre₂ ∧ pre₂ <+: attestedRun ∧
    Scanner.DeathSigned demoSigned (run (exec Scanner.demoRuntime)
      (genesis Scanner.demoClock demoLedger) pre₁).scanner (amm, Scanner.demoPool) msg₁ lp ∧
    Scanner.DeathSigned demoSigned (run (exec Scanner.demoRuntime)
      (genesis Scanner.demoClock demoLedger) pre₂).scanner (amm, Scanner.demoPool) msg₂ lp := by
  obtain ⟨registry, hregistry⟩ := Option.isSome_iff_exists.1 isSome_attestedRegistry
  obtain ⟨_, _, _, pre₁, params₁, _, pre₂, params₂, _, pre₃, params₃, _, _, _, lp,
    ⟨_, hpre₁, hpre₂, hpre₃⟩, hpool, _, _, hdead₁, hdead₂, _⟩ :=
    settlement_attested Scanner.demoRuntime Scanner.demoClock demoLedger attestedRun demoSigned
      entered_attestedRun Scanner.demoPool registry hregistry
  have hpre : pre₂ <+: pre₃ := (List.prefix_append _ _).trans hpre₂
  exact ⟨params₃.ammProgramId, pre₁, _, pre₂, _, lp, (List.prefix_append _ _).trans hpre₁,
    hpre.trans ((List.prefix_append _ _).trans hpre₃), hdead₁, hdead₂⟩

end World

end GraveYield
