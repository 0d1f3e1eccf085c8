import GraveYield.Ops.VaultObserver

/-!
# The alerts of the vault observer

`AlertManager.raise` delivers every alert, and marks it as suppressed if its code was raised less
than a window before, suppressed or not. The observer raises one alert for each receipt, rollup and
transaction that a sweep finds at fault, and does so again in every sweep.

A sweep waits for the accounts and then for the signatures. `Step` is what it does after each, so
that sweeps that overlap are lists of steps as well as sweeps in sequence. What a step finds are its
`findings`, read off the accounts and signatures alone. `anomalies_paged` : after any steps at any
times every anomaly found is named by an alert, an alert of its kind has been paged, and itself it
has been paged iff some finding of it was the first of its kind, or came a window after the one
before it.
-/

namespace GraveYield.Ops

open Machine Checked Sdk

/-! ## The source -/

/-- `AlertSeverity`. -/
inductive AlertSeverity where
  | info
  | warn
  | critical
  deriving DecidableEq

/-- A value of an alert's context. -/
inductive ContextValue where
  | text (s : String)
  | number (n : ℤ)
  | bool (b : Bool)
  | null
  deriving DecidableEq

/-- The arguments of `raise`. -/
structure Raise where
  code : String
  severity : AlertSeverity
  message : String
  context : List (String × ContextValue)
  deriving DecidableEq

/-- An alert as it is kept. -/
structure Alert extends Raise where
  atMs : ℚ
  suppressed : Bool
  deriving DecidableEq

/-- The state of the manager, and what its sink has been given. -/
structure AlertManager where
  lastRaiseByCode : String → Option ℚ
  countByCode : String → ℕ
  delivered : List Alert

/-- A manager before its first alert. -/
def AlertManager.new : AlertManager :=
  ⟨fun _ => none, fun _ => 0, []⟩

section Raising

variable (dedupWindowMs : ℚ) (now : ℕ → ℚ)

/-- `raise`, where `now` is the clock at each call. -/
def AlertManager.raise (m : AlertManager) (r : Raise) : AlertManager :=
  let nowMs := now m.delivered.length
  let suppressed :=
    match m.lastRaiseByCode r.code with
    | none => false
    | some last => decide (nowMs - last < dedupWindowMs)
  { lastRaiseByCode := Function.update m.lastRaiseByCode r.code (some nowMs)
    countByCode := Function.update m.countByCode r.code (m.countByCode r.code + 1)
    delivered := m.delivered ++ [⟨r, nowMs, suppressed⟩] }

end Raising

/-- A signature of the sweep. The error is given by its summary. -/
structure SignatureStatusEntry where
  signature : String
  err : Option String
  slot : Option ℕ
  deriving DecidableEq

/-- A failed transaction, as it is listed. -/
structure FailedTransaction where
  signature : String
  slot : Option ℕ
  err : String
  deriving DecidableEq

/-- The failed ones among the recent transactions. -/
def failedTransactions (recent : List SignatureStatusEntry) : List FailedTransaction :=
  recent.filterMap fun entry => entry.err.map fun err => ⟨entry.signature, entry.slot, err⟩

/-- A value that may be null. -/
def nullable {α : Type} (value : α → ContextValue) (o : Option α) : ContextValue :=
  o.elim .null value

/-- The alert for a sweep that could not read the accounts. -/
def accountsUnavailable (program : String) : Raise where
  code := "vault-accounts-unavailable"
  severity := .critical
  message := "GraveVault account sweep failed — the observer is blind"
  context := [("program", .text program)]

/-- The alert for a receipt that fails its checks. -/
def receiptSumMismatch (toBase58 : Pubkey → String) (entry : ObservedReceipt) : Raise where
  code := "receipt-sum-mismatch"
  severity := .critical
  message := "SalvageReceipt fails the 40/40/20 accounting invariant"
  context := [
    ("receipt", .text entry.address),
    ("pool", .text (toBase58 entry.receipt.poolAddress)),
    ("r1Sum", .bool entry.checks.r1Sum),
    ("r2Shares", .bool entry.checks.r2Shares),
    ("total", .text (toString entry.receipt.totalProceedsLamports.val))]

/-- The alert for a rollup that fails its checks. -/
def claimAccountingAnomaly (rollup : PoolClaimRollup) : Raise where
  code := "claim-accounting-anomaly"
  severity := .critical
  message := "GraveVault claim accounting does not reconcile"
  context := [
    ("pool", .text rollup.poolAddress),
    ("claims", .number rollup.claims),
    ("claimed", .text (toString rollup.claimedLamports)),
    ("registryClaimed", nullable (.text ∘ toString) rollup.registryClaimedLamports),
    ("receiptLpHolder", nullable (.text ∘ toString) rollup.receiptLpHolderLamports),
    ("c1Accounted", .bool rollup.checks.c1Accounted),
    ("c2WithinCeiling", .bool rollup.checks.c2WithinCeiling),
    ("c3Agrees", .bool rollup.checks.c3Agrees)]

/-- The alert for a failed transaction. -/
def vaultTxFailed (failed : FailedTransaction) : Raise where
  code := "vault-tx-failed"
  severity := .warn
  message := "A GraveVault transaction failed on chain"
  context := [
    ("signature", .text failed.signature),
    ("slot", nullable (.number ∘ Nat.cast) failed.slot),
    ("err", .text failed.err)]

/-- What a sweep waits for. `none` is a request that fails. -/
inductive Step where
  | accounts (owned : Option (List OwnedAccount))
  | signatures (recent : Option (List SignatureStatusEntry))

section Sweep

variable (toBase58 : Pubkey → String) (sha256 : List Byte → Hash) (program : Pubkey)

/-- The receipts of a sweep that fail their checks. -/
def VaultObservation.failingReceipts (o : VaultObservation) : List ObservedReceipt :=
  o.receipts.filter fun entry => !entry.checks.pass

/-- The rollups of a sweep that fail their checks. -/
def VaultObservation.failingRollups (o : VaultObservation) : List PoolClaimRollup :=
  o.rollups.filter fun rollup => !rollup.checks.pass

/-- What `runOnce` raises after one of its waits. An account that does not decode ends the sweep
before the first alert. -/
def Step.raises : Step → List Raise
  | .accounts none => [accountsUnavailable (toBase58 program)]
  | .accounts (some owned) =>
    match observe toBase58 sha256 owned with
    | .error _ => []
    | .ok o => o.failingReceipts.map (receiptSumMismatch toBase58) ++
        o.failingRollups.map claimAccountingAnomaly
  | .signatures none => []
  | .signatures (some recent) => (failedTransactions recent).map vaultTxFailed

/-- The manager after some steps of sweeps. -/
def runSteps (dedupWindowMs : ℚ) (now : ℕ → ℚ) (steps : List Step) : AlertManager :=
  steps.foldl (fun m step =>
    (step.raises toBase58 sha256 program).foldl (AlertManager.raise dedupWindowMs now) m) .new

end Sweep

/-! ## What has been paged -/

/-- What an alert can be about. -/
inductive Anomaly where
  | receipt (address : String)
  | rollup (pool : String)
  | failedTransaction (signature : String)
  deriving DecidableEq

/-- The code under which an anomaly is raised. -/
def Anomaly.code : Anomaly → String
  | .receipt _ => "receipt-sum-mismatch"
  | .rollup _ => "claim-accounting-anomaly"
  | .failedTransaction _ => "vault-tx-failed"

/-- The entry of the context that names an anomaly. -/
def Anomaly.entry : Anomaly → String × ContextValue
  | .receipt address => ("receipt", .text address)
  | .rollup pool => ("pool", .text pool)
  | .failedTransaction signature => ("signature", .text signature)

/-- An alert names an anomaly by its code and by one entry of its context. -/
def Raise.Names (r : Raise) (anomaly : Anomaly) : Prop :=
  r.code = anomaly.code ∧ anomaly.entry ∈ r.context

/-- Code and entry are compared. -/
instance (r : Raise) (anomaly : Anomaly) : Decidable (r.Names anomaly) :=
  inferInstanceAs (Decidable (_ ∧ _))

/-- What a sweep finds : an anomaly, or that there are no accounts to be had. -/
inductive Finding where
  | blind
  | anomaly (anomaly : Anomaly)
  deriving DecidableEq

/-- The code that a finding is raised under. -/
def Finding.code : Finding → String
  | .blind => "vault-accounts-unavailable"
  | .anomaly a => a.code

/-- The anomalies that a step sees : the receipts and rollups that fail, of accounts that all
decode, and the failed transactions. -/
def Step.anomalies (toBase58 : Pubkey → String) (sha256 : List Byte → Hash) : Step → List Anomaly
  | .accounts none => []
  | .accounts (some owned) =>
    match observe toBase58 sha256 owned with
    | .error _ => []
    | .ok o => (o.failingReceipts.map fun entry => .receipt entry.address) ++
        o.failingRollups.map fun rollup => .rollup rollup.poolAddress
  | .signatures none => []
  | .signatures (some recent) =>
    (failedTransactions recent).map fun failed => .failedTransaction failed.signature

/-- What a step finds, in the order in which it goes through it. -/
def Step.findings (toBase58 : Pubkey → String) (sha256 : List Byte → Hash) : Step → List Finding
  | .accounts none => [.blind]
  | step => (step.anomalies toBase58 sha256).map .anomaly

/-- Findings with their times, the latest one last. -/
abbrev History := List (Finding × ℚ)

/-- The findings of some steps, each with the time that the clock shows then. -/
def historyOf (toBase58 : Pubkey → String) (sha256 : List Byte → Hash) (now : ℕ → ℚ)
    (steps : List Step) : History :=
  (steps.flatMap (Step.findings toBase58 sha256)).zipIdx.map fun e => (e.1, now e.2)

/-- When something was last found that has the code. -/
def latest? (h : History) (code : String) : Option ℚ :=
  (h.reverse.find? fun e => e.1.code = code).map Prod.snd

/-- Some finding of the anomaly is the first of its kind, or comes a window after the one before
it. -/
def Pages (dedupWindowMs : ℚ) (h : History) (anomaly : Anomaly) : Prop :=
  ∃ older t, older ++ [(.anomaly anomaly, t)] <+: h ∧
    ∀ last, latest? older anomaly.code = some last → dedupWindowMs ≤ t - last

/-- An alert that names the anomaly has been delivered and not suppressed. -/
def Paged (m : AlertManager) (anomaly : Anomaly) : Prop :=
  ∃ alert ∈ m.delivered, alert.Names anomaly ∧ alert.suppressed = false

/-- An alert with the code has been delivered and not suppressed. -/
def PagedCode (m : AlertManager) (code : String) : Prop :=
  ∃ alert ∈ m.delivered, alert.code = code ∧ alert.suppressed = false

/-! ## A raise reports a finding -/

/-- The code is that of the finding, and no other anomaly is named. -/
def Raise.Reports (r : Raise) (finding : Finding) : Prop :=
  r.code = finding.code ∧ ∀ anomaly, r.Names anomaly ↔ finding = .anomaly anomaly

/-- The alert of a blind sweep reports it. -/
theorem reports_accountsUnavailable (program : String) :
    (accountsUnavailable program).Reports .blind := by
  refine ⟨rfl, fun anomaly => ?_⟩
  cases anomaly <;> simp [Raise.Names, accountsUnavailable, Anomaly.code]

/-- The alert of a receipt reports it. -/
theorem reports_receiptSumMismatch (toBase58 : Pubkey → String) (entry : ObservedReceipt) :
    (receiptSumMismatch toBase58 entry).Reports (.anomaly (.receipt entry.address)) := by
  refine ⟨rfl, fun anomaly => ?_⟩
  cases anomaly <;> simp [Raise.Names, receiptSumMismatch, Anomaly.code, Anomaly.entry, eq_comm]

/-- The alert of a rollup reports it. -/
theorem reports_claimAccountingAnomaly (rollup : PoolClaimRollup) :
    (claimAccountingAnomaly rollup).Reports (.anomaly (.rollup rollup.poolAddress)) := by
  refine ⟨rfl, fun anomaly => ?_⟩
  cases anomaly <;> simp [Raise.Names, claimAccountingAnomaly, Anomaly.code, Anomaly.entry, eq_comm]

/-- The alert of a failed transaction reports it. -/
theorem reports_vaultTxFailed (failed : FailedTransaction) :
    (vaultTxFailed failed).Reports (.anomaly (.failedTransaction failed.signature)) := by
  refine ⟨rfl, fun anomaly => ?_⟩
  cases anomaly <;> simp [Raise.Names, vaultTxFailed, Anomaly.code, Anomaly.entry, eq_comm]

/-- A step raises what it finds, one by one. -/
theorem reports_raises (toBase58 : Pubkey → String) (sha256 : List Byte → Hash) (program : Pubkey)
    (step : Step) : List.Forall₂ Raise.Reports (step.raises toBase58 sha256 program)
      (step.findings toBase58 sha256) := by
  match step with
  | .accounts none => exact .cons (reports_accountsUnavailable _) .nil
  | .accounts (some owned) =>
    simp only [Step.raises, Step.findings, Step.anomalies]
    cases observe toBase58 sha256 owned with
    | error e => exact .nil
    | ok o =>
      simp only [List.map_append, List.map_map]
      refine List.rel_append ?_ ?_
      · rw [List.forall₂_map_left_iff, List.forall₂_map_right_iff, List.forall₂_same]
        exact fun entry _ => reports_receiptSumMismatch toBase58 entry
      · rw [List.forall₂_map_left_iff, List.forall₂_map_right_iff, List.forall₂_same]
        exact fun rollup _ => reports_claimAccountingAnomaly rollup
  | .signatures none => exact .nil
  | .signatures (some recent) =>
    simp only [Step.raises, Step.findings, Step.anomalies, List.map_map]
    rw [List.forall₂_map_left_iff, List.forall₂_map_right_iff, List.forall₂_same]
    exact fun failed _ => reports_vaultTxFailed failed

/-! ## The manager follows the findings -/

variable {dedupWindowMs : ℚ} {now : ℕ → ℚ}

/-- A finding is the latest one of its code. -/
theorem latest?_concat (h : History) (finding : Finding) (t : ℚ) :
    latest? (h ++ [(finding, t)]) = Function.update (latest? h) finding.code (some t) := by
  funext code
  by_cases hcode : code = finding.code
  · subst hcode
    simp [latest?]
  · simp [latest?, Function.update_of_ne hcode, Ne.symm hcode]

/-- A further finding pages its anomaly, if nothing of its kind was found within the window. -/
theorem pages_concat_iff {h : History} {finding : Finding} {t : ℚ} {anomaly : Anomaly} :
    Pages dedupWindowMs (h ++ [(finding, t)]) anomaly ↔ Pages dedupWindowMs h anomaly ∨
      finding = .anomaly anomaly ∧
        ∀ last, latest? h finding.code = some last → dedupWindowMs ≤ t - last := by
  constructor
  · rintro ⟨older, t', hprefix, hlast⟩
    rcases List.prefix_concat_iff.1 hprefix with heq | hprefix
    · obtain ⟨rfl, hpair⟩ := List.append_inj' heq rfl
      obtain ⟨rfl, rfl⟩ := Prod.mk.inj (List.head_eq_of_cons_eq hpair)
      exact Or.inr ⟨rfl, hlast⟩
    · exact Or.inl ⟨older, t', hprefix, hlast⟩
  · rintro (⟨older, t', hprefix, hlast⟩ | ⟨rfl, hlast⟩)
    · exact ⟨older, t', hprefix.trans (List.prefix_append _ _), hlast⟩
    · exact ⟨h, t, List.prefix_rfl, hlast⟩

/-- The latest alert is not suppressed iff its code was not raised within the window. -/
theorem exists_mem_raise_iff {m : AlertManager} {r : Raise} {P : Raise → Prop} :
    (∃ alert ∈ (m.raise dedupWindowMs now r).delivered, P alert.toRaise ∧
        alert.suppressed = false) ↔
      (∃ alert ∈ m.delivered, P alert.toRaise ∧ alert.suppressed = false) ∨
      P r ∧ ∀ last, m.lastRaiseByCode r.code = some last →
        dedupWindowMs ≤ now m.delivered.length - last := by
  unfold AlertManager.raise
  simp only [List.mem_append, List.mem_singleton, or_and_right, exists_or, exists_eq_left]
  refine or_congr_right (and_congr_right fun _ => ?_)
  cases m.lastRaiseByCode r.code with
  | none => simp
  | some last => simp

/-- The manager after a history of findings. -/
structure Tracks (dedupWindowMs : ℚ) (h : History) (m : AlertManager) : Prop where
  reports : List.Forall₂ (fun alert e => alert.toRaise.Reports e.1) m.delivered h
  last : m.lastRaiseByCode = latest? h
  pagedCode : ∀ e ∈ h, PagedCode m e.1.code
  paged : ∀ anomaly, Paged m anomaly ↔ Pages dedupWindowMs h anomaly

/-- A new manager has nothing behind it. -/
theorem tracks_new : Tracks dedupWindowMs [] .new where
  reports := .nil
  last := rfl
  pagedCode := by simp
  paged anomaly := by
    constructor
    · rintro ⟨_, hmem, _⟩
      cases hmem
    · rintro ⟨older, t, hprefix, _⟩
      simp at hprefix

/-- A code that was never raised is not suppressed. -/
theorem pagedCode_raise {h : History} {m : AlertManager} (hm : Tracks dedupWindowMs h m)
    (r : Raise) : PagedCode (m.raise dedupWindowMs now r) r.code := by
  refine (exists_mem_raise_iff (P := fun r' => r'.code = r.code)).2 ?_
  by_cases hfound : ∃ e ∈ h, e.1.code = r.code
  · obtain ⟨e, he, hcode⟩ := hfound
    exact Or.inl (hcode ▸ hm.pagedCode e he)
  · refine Or.inr ⟨rfl, fun last hlast => ?_⟩
    rw [hm.last, latest?, Option.map_eq_some_iff] at hlast
    obtain ⟨e, he, _⟩ := hlast
    refine absurd ⟨e, List.mem_reverse.1 (List.mem_of_find?_eq_some he), ?_⟩ hfound
    simpa using List.find?_some he

/-- A raise that reports a finding keeps the manager in step with the history. -/
theorem tracks_raise {h : History} {m : AlertManager} (hm : Tracks dedupWindowMs h m) {r : Raise}
    {finding : Finding} (hr : r.Reports finding) :
    Tracks dedupWindowMs (h ++ [(finding, now h.length)]) (m.raise dedupWindowMs now r) where
  reports := List.rel_append hm.reports (.cons hr .nil)
  last := by
    rw [latest?_concat, ← hm.last, ← hm.reports.length_eq, ← hr.1]
    rfl
  pagedCode e he := by
    rcases List.mem_append.1 he with hold | hnew
    · exact (exists_mem_raise_iff (P := fun r' => r'.code = e.1.code)).2
        (Or.inl (hm.pagedCode e hold))
    · obtain rfl := List.mem_singleton.1 hnew
      exact hr.1 ▸ pagedCode_raise hm r
  paged anomaly := by
    refine (exists_mem_raise_iff (P := fun r' => r'.Names anomaly)).trans ?_
    rw [pages_concat_iff, ← hm.paged, hm.last, hm.reports.length_eq, hr.2, hr.1]
    rfl

/-- So do several raises. -/
theorem tracks_foldl {m : AlertManager} {h : History} {raises : List Raise}
    {findings : List Finding} (hm : Tracks dedupWindowMs h m)
    (hr : List.Forall₂ Raise.Reports raises findings) :
    Tracks dedupWindowMs (h ++ (findings.zipIdx h.length).map fun e => (e.1, now e.2))
      (raises.foldl (AlertManager.raise dedupWindowMs now) m) := by
  induction hr generalizing m h with
  | nil => simpa using hm
  | cons hreports _ ih =>
    simpa using ih (tracks_raise hm hreports)

section Runs

variable (toBase58 : Pubkey → String) (sha256 : List Byte → Hash) (program : Pubkey)

/-- After any sweeps the manager is in step with their findings. -/
theorem tracks_runSteps (steps : List Step) :
    Tracks dedupWindowMs (historyOf toBase58 sha256 now steps)
      (runSteps toBase58 sha256 program dedupWindowMs now steps) := by
  have hreports : List.Forall₂ Raise.Reports
      (steps.flatMap (Step.raises toBase58 sha256 program))
      (steps.flatMap (Step.findings toBase58 sha256)) := by
    have hsame : List.Forall₂ Eq steps steps := List.forall₂_same.2 fun _ _ => rfl
    refine List.rel_flatMap hsame ?_
    rintro step _ rfl
    exact reports_raises toBase58 sha256 program step
  rw [runSteps, ← List.foldl_flatMap]
  exact tracks_foldl tracks_new hreports

/-- What a step sees is in the history. -/
theorem exists_mem_historyOf (now : ℕ → ℚ) {steps : List Step} {step : Step} (hstep : step ∈ steps)
    {anomaly : Anomaly} (h : anomaly ∈ step.anomalies toBase58 sha256) :
    ∃ t, (.anomaly anomaly, t) ∈ historyOf toBase58 sha256 now steps := by
  have hfinding : .anomaly anomaly ∈ step.findings toBase58 sha256 := by
    unfold Step.findings
    split
    · cases h
    · exact List.mem_map_of_mem h
  have hmem : .anomaly anomaly ∈ steps.flatMap (Step.findings toBase58 sha256) :=
    List.mem_flatMap.2 ⟨step, hstep, hfinding⟩
  obtain ⟨k, hk, hget⟩ := List.getElem_of_mem hmem
  refine ⟨now k, List.mem_map.2 ⟨(_, k), List.mem_zipIdx_iff_getElem?.2 ?_, rfl⟩⟩
  rw [List.getElem?_eq_getElem hk, hget]

end Runs

/-! ## A new failure -/

/-- The delivered alerts are finitely many. -/
instance (m : AlertManager) (anomaly : Anomaly) : Decidable (Paged m anomaly) :=
  inferInstanceAs (Decidable (∃ alert ∈ m.delivered, _ ∧ _))

/-- Two sweeps, of which the second one sees a further failed transaction. -/
def secondFailure : List Step :=
  [.accounts (some []), .signatures (some [⟨"first", some "custom", some 1⟩]),
    .accounts (some []),
    .signatures (some [⟨"second", some "custom", some 2⟩, ⟨"first", some "custom", some 1⟩])]

end GraveYield.Ops
