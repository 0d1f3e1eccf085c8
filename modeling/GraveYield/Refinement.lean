import GraveYield.Estate
import GraveYield.Solvency
import GraveYield.Staleness

/-!
# The two programs refine the estate

`Represents` says which estate a world stands for : an anchor is a sighting, a cert a warrant, a
registry a settlement, the claim records are the payments. The estate knows more than the world :
a settlement carries the warrant it was made under, which the vault reads and forgets.

Every instruction is at most one step of the estate (`represents_exec`), so a run is a path of
it (`refines_estate`), whatever other programs do in between. The plain facts of the estate hold
of both programs from there.
-/

namespace GraveYield.World

open Machine Checked Vault Estate

/-- The commitment that a sealed root is. -/
def Attests (rt : Runtime) (root : Hash) (holder : Pubkey) (balance : ℕ) : Prop :=
  ∃ (b : U64) (proof : List Hash), b.val = balance ∧
    verifyProof rt.sha256 root (computeLeaf rt.sha256 holder b) proof = true

/-- The estates of all pools, by program id and pool address. -/
abbrev Estates := Estate.State Pubkey Pubkey Pubkey Hash

/-- The sighting that an anchor stands for. -/
def sightingOf (a : Scanner.EligibilityAnchor) : Sighting :=
  ⟨a.firstEligibleEpoch.val, a.invalidated⟩

/-- The epochs of a warrant, and when it expires. -/
def warrantTerms (w : Warrant) : ℕ × ℕ × ℤ :=
  (w.sighted, w.issued, w.expires)

/-- Those of a cert. -/
def certTerms (c : Scanner.EligibilityCert) : ℕ × ℕ × ℤ :=
  (c.anchorEpoch.val, c.certEpoch.val, c.expiresAt)

/-- The terms of a settlement. -/
def settlementTerms (s : Estate.Settlement Pubkey Hash) : Pubkey × Hash × ℕ × ℕ × ℤ :=
  (s.label, s.root, s.supply, s.total, s.time)

/-- Those of a registry. -/
def registryTerms (r : PoolRegistry) : Pubkey × Hash × ℕ × ℕ × ℤ :=
  (r.ammProgramId, r.lpSnapshotMerkleRoot, r.lpTotalSupplyAtSnapshot.val,
    r.lpHolderPoolTotalLamports.val, r.salvagedAtTs)

/-- What the scanner shows of an estate. -/
structure ShownByScanner (s : Scanner.State) (e : Estates) : Prop where
  epoch : e.epoch = s.clock.epoch.val
  now : e.now = s.clock.unixTimestamp
  price : ∀ k, e.price k = (s.launchPrices k).map fun lp => lp.launchPriceQ64x64.val
  sighting : ∀ k, e.sighting k = (s.anchors k).map sightingOf
  warrant : ∀ k, (e.warrant k).map warrantTerms = (s.certs k).map certTerms

/-- What the vault shows of it. -/
structure ShownByVault (v : Vault.State) (e : Estates) : Prop where
  settled : ∀ p, (e.settled p).map settlementTerms = (v.registries p).map registryTerms
  paid : e.paid = claimBook v

/-- The world stands for the estate. -/
structure Represents (w : World) (e : Estates) : Prop where
  scanner : ShownByScanner w.scanner e
  vault : ShownByVault w.vault e

section

variable {rt : Runtime} {w w' : World} {ix : Ix} {e : Estates}

/-- The new chain stands for the empty estate. -/
theorem represents_genesis (clock : Clock) (ledger : Ledger) :
    Represents (genesis clock ledger) (State.empty clock.epoch.val clock.unixTimestamp) :=
  ⟨⟨rfl, rfl, fun _ => rfl, fun _ => rfl, fun _ => rfl⟩, ⟨fun _ => rfl, rfl⟩⟩

/-! ## The scanner -/

/-- Two slots that agree still do when both are written alike. -/
theorem slots_update {κ β γ : Type} [DecidableEq κ] {f : κ → β} {g : κ → γ} {P : γ → β → Prop}
    (h : ∀ k, P (g k) (f k)) {k : κ} {b : β} {c : γ} (hb : P c b) (j : κ) :
    P (Function.update g k c j) (Function.update f k b j) := by
  rcases eq_or_ne j k with rfl | hj
  · rwa [Function.update_self, Function.update_self]
  · rw [Function.update_of_ne hj, Function.update_of_ne hj]
    exact h j

/-- A call of the scanner is at most one step, and no settlement or payment. -/
theorem shownByScanner_exec {s s' : Scanner.State} {call : Scanner.Call} (hs : ShownByScanner s e)
    (hfloor : Scanner.TtlFloor s) (h : Scanner.exec rt s call = .ok s') :
    ∃ e', Relation.ReflGen (Step (Attests rt)) e e' ∧ ShownByScanner s' e' ∧
      e'.settled = e.settled ∧ e'.paid = e.paid := by
  have hpriced : ∀ {k lp}, s.launchPrices k = some lp → ∃ n, e.price k = some n :=
    fun {k lp} hlp => ⟨lp.launchPriceQ64x64.val, by rw [hs.price, hlp, Option.map_some]⟩
  cases call with
  | initializeProtocol params =>
    obtain ⟨_, _, _, rfl⟩ := Scanner.initializeProtocol_ok h
    exact ⟨e, .refl, { hs with }, rfl, rfl⟩
  | updateProtocolConfig params authority =>
    obtain ⟨_, _, _, _, _, rfl⟩ := Scanner.updateProtocolConfig_ok h
    exact ⟨e, .refl, { hs with }, rfl, rfl⟩
  | emergencyPause paused authority =>
    obtain ⟨_, _, _, _, rfl⟩ := Scanner.emergencyPause_ok h
    exact ⟨e, .refl, { hs with }, rfl, rfl⟩
  | recordLaunchPrice params sysvar =>
    obtain ⟨hnone, _, lp, _, _, _, _, _, hpos, rfl⟩ := Scanner.recordLaunchPrice_ok h
    refine ⟨_, .single (.price params.key lp.launchPriceQ64x64.val ?_ hpos),
      { hs with price := ?_ }, rfl, rfl⟩
    · rw [hs.price, hnone, Option.map_none]
    · exact slots_update (P := fun n lp => n = Option.map _ lp) hs.price rfl
  | evaluatePoolPhase1 params accounts =>
    obtain ⟨_, lp, _, _, a, _, _, hnone, hlp, _, _, hepoch, hvalid, rfl⟩ :=
      Scanner.evaluatePoolPhase1_ok h
    refine ⟨_, .single (.sight params.key (hpriced hlp) ?_), { hs with sighting := ?_ }, rfl, rfl⟩
    · rw [hs.sighting, hnone, Option.map_none]
    · refine slots_update (P := fun s a => s = Option.map sightingOf a) hs.sighting ?_
      rw [Option.map_some, sightingOf, hepoch, hvalid, hs.epoch]
  | evaluatePoolPhase2 params accounts =>
    obtain ⟨_, _, _, c', hc, _, _, hissued⟩ := Scanner.issuedCert_of_ok h
    obtain ⟨cfg, lp, _, _, a, c, hcfg, _, ha, hvalid, hlp, _, _, hexpired, hof, rfl⟩ :=
      Scanner.evaluatePoolPhase2_written h
    obtain rfl : c = c' := by simpa using hc
    obtain rfl := Option.some.inj (ha.symm.trans hissued.anchor)
    have hconfirmed := hissued.confirmed
    refine ⟨_, .single (.grant params.key (sightingOf a)
      ⟨a.firstEligibleEpoch.val, c.certEpoch.val, c.expiresAt, hconfirmed⟩ (hpriced hlp) ?_ hvalid
      rfl ?_ ?_ fun old hold => ?_), { hs with warrant := ?_ }, rfl, rfl⟩
    · rw [hs.sighting, ha, Option.map_some]
    · exact (congrArg Fin.val hof.certEpoch).trans hs.epoch.symm
    · have := hfloor cfg hcfg
      rw [hs.now, hof.expiresAt]
      exact Int.add_le_add_left this _
    · have hterms := hs.warrant params.key
      rw [hold, Option.map_some] at hterms
      cases hcert : s.certs params.key with
      | none =>
        rw [hcert] at hterms
        cases hterms
      | some c' =>
        rw [hcert, Option.map_some, Option.some.injEq] at hterms
        rw [hcert, Option.getD_some] at hexpired
        have hexp : old.expires = c'.expiresAt := congrArg (fun t => t.2.2) hterms
        rw [hexp, hs.now]
        exact of_decide_eq_true hexpired
    · refine slots_update (P := fun w c => Option.map warrantTerms w = Option.map certTerms c)
        hs.warrant ?_
      rw [Option.map_some, Option.map_some, warrantTerms, certTerms, hof.anchorEpoch]
  | invalidateAnchor key authority =>
    obtain ⟨_, a, _, _, ha, hvalid, rfl⟩ := Scanner.invalidateAnchor_ok h
    refine ⟨_, .single (.strike key (sightingOf a) ?_ hvalid), { hs with sighting := ?_ }, rfl, rfl⟩
    · rw [hs.sighting, ha, Option.map_some]
    · exact slots_update (P := fun s a => s = Option.map sightingOf a) hs.sighting rfl
  | sweepStaleAnchor key anchorWriter =>
    obtain ⟨_, a, _, ha, _, hgate, rfl⟩ := Scanner.sweepStaleAnchor_ok h
    refine ⟨_, .single (.lapse key (sightingOf a) ?_ ?_), { hs with sighting := ?_ }, rfl, rfl⟩
    · rw [hs.sighting, ha, Option.map_some]
    · rw [hs.epoch]
      exact Scanner.sweepGate_four hgate
    · exact slots_update (P := fun s a => s = Option.map sightingOf a) hs.sighting rfl
  | tick clock =>
    obtain ⟨⟨_, hepoch, hnow⟩, rfl⟩ := Scanner.tick_ok h
    exact ⟨_, .single (.pass clock.epoch.val clock.unixTimestamp (hs.epoch.trans_le hepoch)
      (hs.now.trans_le hnow)), { hs with epoch := rfl, now := rfl }, rfl, rfl⟩

/-! ## The vault -/

/-- A new claim record is a new payment. -/
theorem claimBook_pay (v : Vault.State) (registries : Pubkey → Option PoolRegistry)
    (pool holder : Pubkey) (record : ClaimRecord) :
    claimBook { v with
      registries
      claimRecords := Function.update v.claimRecords (pool, holder) (some record) } =
      Function.update (claimBook v) pool
        (Function.update (claimBook v pool) holder (some record.amountLamports.val)) := by
  funext p
  rcases eq_or_ne p pool with rfl | hp
  · rw [Function.update_self]
    exact claimBook_update v p holder record
  · rw [Function.update_of_ne hp]
    funext h
    simp [claimBook, hp]

/-- The settlement behind a registry. -/
theorem ShownByVault.of_registry {v : Vault.State} (hv : ShownByVault v e) {pool : Pubkey}
    {registry : PoolRegistry} (h : v.registries pool = some registry) :
    ∃ s, e.settled pool = some s ∧ settlementTerms s = registryTerms registry := by
  have hmap := hv.settled pool
  rw [h, Option.map_some] at hmap
  obtain ⟨s, hs, hterms⟩ := Option.map_eq_some_iff.1 hmap
  exact ⟨s, hs, hterms⟩

/-- A salvage settles the pool, under the warrant that its cert stands for. -/
theorem shownByVault_salvage {clock : Clock} {params : SalvagePoolParams}
    {accounts : SalvageAccounts} {programs : Programs} {v : Vault.State} {l : Ledger}
    (hw : Represents w e) (hclock : w.scanner.clock = clock)
    (h : salvagePool rt clock (w.scanner.certs (params.ammProgramId, params.poolAddress)) w.vault
      w.ledger params accounts programs = .ok (v, l)) :
    ∃ e', Step (Attests rt) e e' ∧ ShownByScanner w.scanner e' ∧ ShownByVault v e' := by
  subst hclock
  obtain ⟨p, s, dust, hpre, _, _, rfl⟩ := salvagePool_effect h
  obtain ⟨c, hc, hlive, _⟩ := hpre.cert
  have hterms := hw.scanner.warrant (params.ammProgramId, params.poolAddress)
  rw [hc, Option.map_some] at hterms
  obtain ⟨warrant, hwarrant, hterms⟩ := Option.map_eq_some_iff.1 hterms
  have hexp : warrant.expires = c.expiresAt := congrArg (fun t => t.2.2) hterms
  have hnow : w.scanner.clock.unixTimestamp < warrant.expires := by
    rw [hexp]
    exact not_le.1 (of_decide_eq_false hlive)
  let settlement : Estate.Settlement Pubkey Hash :=
    ⟨params.ammProgramId, params.lpSnapshotMerkleRoot, params.lpTotalSupplyAtSnapshot.val,
      s.lpHolderShare.val, warrant, w.scanner.clock.epoch.val, w.scanner.clock.unixTimestamp, hnow⟩
  refine ⟨_, .settle params.poolAddress settlement ?_ hwarrant hw.scanner.epoch.symm
    hw.scanner.now.symm, { hw.scanner with }, ⟨?_, hw.vault.paid⟩⟩
  · have hfree := hw.vault.settled params.poolAddress
    rw [hpre.registry, Option.map_none] at hfree
    exact Option.map_eq_none_iff.1 hfree
  · exact slots_update (P := fun s r => Option.map settlementTerms s = Option.map registryTerms r)
      hw.vault.settled rfl

/-- A claim is a payment. -/
theorem shownByVault_claim {clock : Clock} {params : ClaimLpProceedsParams} {lpHolder : Pubkey}
    {v : Vault.State} {l : Ledger} (hw : Represents w e) (hsolvent : Solvent w)
    (h : claimLpProceeds rt clock w.vault w.ledger params lpHolder = .ok (v, l)) :
    ∃ e', Step (Attests rt) e e' ∧ ShownByScanner w.scanner e' ∧ ShownByVault v e' := by
  obtain ⟨registry, amount, newClaimed, record, hreg, hnone, hamount, hra, _, rfl, _⟩ :=
    claimLpProceeds_ok h
  obtain ⟨hpos, hsupply, hproof, hshare, hnew, hcap⟩ := claimAmount_ok_iff.1 hamount
  obtain ⟨s, hs, hterms⟩ := hw.vault.of_registry hreg
  have hroot : s.root = registry.lpSnapshotMerkleRoot := congrArg (fun t => t.2.1) hterms
  have hsup : s.supply = registry.lpTotalSupplyAtSnapshot.val := congrArg (fun t => t.2.2.1) hterms
  have htotal : s.total = registry.lpHolderPoolTotalLamports.val :=
    congrArg (fun t => t.2.2.2.1) hterms
  have hshare' : ProRata.share s.total s.supply params.lpBalanceAtSnapshot.val = amount.val := by
    rw [ProRata.share, htotal, hsup, hshare]
  have hpaid : (e.paid params.poolAddress).paid = registry.lpHolderPoolClaimedLamports.val := by
    rw [hw.vault.paid, (hsolvent.pools _ _ hreg).recorded]
  refine ⟨_, .pay params.poolAddress lpHolder s params.lpBalanceAtSnapshot.val hs ?_ hpos
    (hsup ▸ hsupply) ⟨_, params.merkleProof, rfl, hroot ▸ hproof⟩ ?_, { hw.scanner with },
    ⟨fun p => ?_, ?_⟩⟩
  · rw [hw.vault.paid, claimBook, hnone, Option.map_none]
  · rwa [hpaid, hshare', htotal, ← hnew]
  · rcases eq_or_ne p params.poolAddress with rfl | hp
    · simp only [Function.update_self, Option.map_some]
      rw [hs, Option.map_some, hterms]
      rfl
    · simp only [Function.update_of_ne hp]
      exact hw.vault.settled p
  · rw [claimBook_pay, hshare', hra, hw.vault.paid]

/-! ## The system -/

/-- Every instruction is at most one step. -/
theorem represents_exec (hw : Represents w e) (hsolvent : Solvent w)
    (hfloor : Scanner.TtlFloor w.scanner) (h : exec rt w ix = .ok w') :
    ∃ e', Relation.ReflGen (Step (Attests rt)) e e' ∧ Represents w' e' := by
  cases ix with
  | scanner call =>
    obtain ⟨s, hs, rfl⟩ := scanner_ok_iff.1 h
    obtain ⟨e', hstep, hshown, hsettled, hpaid⟩ := shownByScanner_exec hw.scanner hfloor hs
    exact ⟨e', hstep, hshown, ⟨by rw [hsettled]; exact hw.vault.settled, hpaid.trans hw.vault.paid⟩⟩
  | vault call =>
    obtain ⟨v, l, hcall, rfl⟩ := vault_ok_iff.1 h
    rcases execVault_cases hcall with ⟨⟨hregistries, _, hrecords⟩, _⟩ |
      ⟨params, accounts, programs, rfl, hcall⟩ | ⟨params, lpHolder, rfl, hcall⟩ |
      ⟨pool, mint, sweeper, rfl, hcall⟩
    · refine ⟨e, .refl, hw.scanner, ⟨?_, ?_⟩⟩
      · rw [hregistries]
        exact hw.vault.settled
      · funext p a
        rw [hw.vault.paid, claimBook, claimBook, hrecords]
    · obtain ⟨e', hstep, hscanner, hvault⟩ := shownByVault_salvage hw rfl hcall
      exact ⟨e', .single hstep, hscanner, hvault⟩
    · obtain ⟨e', hstep, hscanner, hvault⟩ := shownByVault_claim hw hsolvent hcall
      exact ⟨e', .single hstep, hscanner, hvault⟩
    · obtain ⟨_, _, _, _, rfl, _⟩ := sweepDust_ok hcall
      exact ⟨e, .refl, hw.scanner, ⟨hw.vault.settled, hw.vault.paid⟩⟩
  | systemTransfer src dst amount =>
    obtain ⟨_, _, rfl⟩ := systemTransfer_ok_iff.1 h
    exact ⟨e, .refl, hw.scanner, hw.vault⟩
  | external program metas data =>
    obtain ⟨_, _, _, rfl⟩ := external_ok_iff.1 h
    exact ⟨e, .refl, hw.scanner, hw.vault⟩

/-- The relation of the refinement, with the invariants it rests on. -/
structure Stands (w : World) (e : Estates) : Prop where
  represents : Represents w e
  solvent : Solvent w
  floor : Scanner.TtlFloor w.scanner

/-- The new chain and the empty estate. -/
theorem stands_genesis (clock : Clock) (ledger : Ledger) :
    Stands (genesis clock ledger) (State.empty clock.epoch.val clock.unixTimestamp) := by
  refine ⟨represents_genesis clock ledger, solvent_genesis clock ledger, fun cfg hcfg => ?_⟩
  cases hcfg

/-- A step of the chain is one of the estate, or none. -/
theorem refines_step (rt : Runtime) : Refines (exec rt) (Step (Attests rt)) Stands := by
  intro w e ix w' hw h
  obtain ⟨e', hstep, hrep⟩ := represents_exec hw.represents hw.solvent hw.floor h
  refine ⟨e', hstep, hrep, solvent_step hw.solvent h, ?_⟩
  cases ix with
  | scanner call =>
    obtain ⟨_, hs, rfl⟩ := scanner_ok_iff.1 h
    exact Scanner.ttlFloor_exec hs hw.floor
  | _ => exact (scanner_exec h rfl).symm ▸ hw.floor

end

/-- Two moments of a run of both programs stand for two estates of one path. Both are sound, and
the second takes nothing back of what is recorded, settled or paid in the first. -/
theorem refines_estate (rt : Runtime) (clock : Clock) (ledger : Ledger) (ixs later : List Ix) :
    ∃ e e' : Estates,
      Relation.ReflTransGen (Step (Attests rt))
        (State.empty clock.epoch.val clock.unixTimestamp) e ∧
      Relation.ReflTransGen (Step (Attests rt)) e e' ∧
      Represents (run (exec rt) (genesis clock ledger) ixs) e ∧
      Represents (run (exec rt) (genesis clock ledger) (ixs ++ later)) e' ∧
      Sound (Attests rt) e ∧ Sound (Attests rt) e' ∧ Kept e e' := by
  obtain ⟨e, hpath, hw⟩ := (refines_step rt).run (stands_genesis clock ledger) ixs
  obtain ⟨e', hlater, hw'⟩ := (refines_step rt).run hw later
  have hsound := sound_path (sound_empty _ _) hpath
  exact ⟨e, e', hpath, hlater, hw.represents, run_append (exec rt) _ ixs later ▸ hw'.represents,
    hsound, sound_path hsound hlater, kept_path hlater⟩

end GraveYield.World
