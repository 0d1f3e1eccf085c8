import GraveYield.Bookkeeping
import GraveYield.Lib.Base58
import GraveYield.Ops.VaultObserver
import GraveYield.Rent

/-!
# The rollups of a reachable vault

The observer, against the vault it observes. `Represents` ties a decoded account to the account of
the vault at an address, and `Decodes` the lists of a sweep to the addresses that were swept. With
the books of the vault (`Booked`) a pool of the rollups is a settled pool, whose receipt and
registry are found and whose claims sum to what its claim records sum to; the checks are then
the invariants of the vault (`Solvent`).
-/

namespace GraveYield.Ops

open Machine Checked Sdk World

/-! ## Decoding the accounts of a vault -/

/-- No two kinds of accounts share a discriminator. -/
def DistinctDiscriminators (sha256 : List Byte → Hash) : Prop :=
  (["SalvageReceipt", "ClaimRecord", "PoolRegistry", "ProtocolConfig"].map
    (accountDiscriminator sha256)).Nodup

/-- Finitely many discriminators are compared. -/
instance (sha256 : List Byte → Hash) : Decidable (DistinctDiscriminators sha256) :=
  inferInstanceAs (Decidable (List.Nodup _))

/-- The receipt is read off the one that the vault stores for the pool. -/
def IsReceipt (v : Vault.State) (pool : Pubkey) (receipt : Vault.SalvageReceipt) : Prop :=
  ∃ stored, v.receipts pool = some stored ∧ receipt.poolAddress = stored.poolAddress ∧
    receipt.lpHolderAmountLamports = stored.lpHolderAmountLamports

/-- The claim is read off the one that the vault stores for the pool and the holder. -/
def IsClaim (v : Vault.State) (key : Pubkey × Pubkey) (claim : Vault.ClaimRecord) : Prop :=
  ∃ stored, v.claimRecords key = some stored ∧ claim.poolAddress = stored.poolAddress ∧
    claim.amountLamports = stored.amountLamports

/-- The registry is read off the one that the vault stores for the pool. -/
def IsRegistry (v : Vault.State) (pool : Pubkey) (registry : Vault.PoolRegistry) : Prop :=
  ∃ stored, v.registries pool = some stored ∧ registry.poolAddress = stored.poolAddress ∧
    registry.lpHolderPoolTotalLamports = stored.lpHolderPoolTotalLamports ∧
    registry.lpHolderPoolClaimedLamports = stored.lpHolderPoolClaimedLamports

/-- A decoded account is the account of the vault at an address, as far as the rollups read it. -/
def Represents (v : Vault.State) : Account → DecodedVaultAccount → Prop
  | .salvageReceipt pool, .salvageReceipt receipt => IsReceipt v pool receipt.toSalvageReceipt
  | .claimRecord pool holder, .claimRecord claim => IsClaim v (pool, holder) claim.toClaimRecord
  | .poolRegistry pool, .poolRegistry registry => IsRegistry v pool registry.toPoolRegistry
  | .vaultConfig, .vaultConfig _ => True
  | _, _ => False

section Decoding

variable {sha256 : List Byte → Hash} {v : Vault.State} {a : Account} {data : List Byte}

/-- Account bytes with the header of a kind. -/
structure Header (sha256 : List Byte → Hash) (data : List Byte) (pascalName : String) : Prop where
  length : ¬data.length < 8
  disc : data.take 8 = accountDiscriminator sha256 pascalName

/-- Data that starts with a discriminator has it for a header. -/
theorem header_flatten {pascalName : String} {encs : List (List Byte)}
    (hdata : data = (discriminator sha256 "account" pascalName :: encs).flatten) :
    Header sha256 data pascalName := by
  refine ⟨?_, take_eq hdata⟩
  rw [hdata, List.flatten_cons, List.length_append, length_discriminator]
  omega

/-- The decoder is the one of the kind. -/
theorem tryDecodeVaultAccount_eq (hdisc : DistinctDiscriminators sha256) :
    (Header sha256 data "SalvageReceipt" → tryDecodeVaultAccount sha256 data =
      (some ∘ .salvageReceipt) <$> decodeSalvageReceipt sha256 data) ∧
    (Header sha256 data "ClaimRecord" → tryDecodeVaultAccount sha256 data =
      (some ∘ .claimRecord) <$> decodeClaimRecord sha256 data) ∧
    (Header sha256 data "PoolRegistry" → tryDecodeVaultAccount sha256 data =
      (some ∘ .poolRegistry) <$> decodePoolRegistry sha256 data) ∧
    (Header sha256 data "ProtocolConfig" → tryDecodeVaultAccount sha256 data =
      (some ∘ .vaultConfig) <$> decodeVaultProtocolConfig sha256 data) := by
  simp only [DistinctDiscriminators, List.map_cons, List.map_nil, List.nodup_cons, List.mem_cons,
    List.not_mem_nil, or_false, not_or, List.nodup_nil, and_true, not_false_eq_true] at hdisc
  obtain ⟨⟨hrc, hrr, hrp⟩, ⟨hcr, hcp⟩, hgp⟩ := hdisc
  refine ⟨fun h => ?_, fun h => ?_, fun h => ?_, fun h => ?_⟩
  · simp only [tryDecodeVaultAccount, h.length, h.disc, if_false, if_true]
  · simp only [tryDecodeVaultAccount, h.length, h.disc, if_false, if_true, Ne.symm hrc]
  · simp only [tryDecodeVaultAccount, h.length, h.disc, if_false, if_true, Ne.symm hrr,
      Ne.symm hcr]
  · simp only [tryDecodeVaultAccount, h.length, h.disc, if_false, if_true, Ne.symm hrp,
      Ne.symm hcp, Ne.symm hgp]

/-- Every account of the vault is decoded, to what it stores. -/
theorem tryDecodeVaultAccount_of_stores (hdisc : DistinctDiscriminators sha256)
    (h : v.Stores sha256 a data) :
    ∃ d, tryDecodeVaultAccount sha256 data = .ok (some d) ∧ Represents v a d := by
  obtain ⟨hreceipt, hclaim, hregistry, hconfig⟩ :=
    @tryDecodeVaultAccount_eq sha256 data hdisc
  cases h with
  | @vaultConfig c h bump reserved =>
    rw [hconfig (header_flatten rfl), decodeVaultProtocolConfig_wrap]
    exact ⟨_, rfl, trivial⟩
  | @poolRegistry pool r h bump reserved =>
    rw [hregistry (header_flatten rfl), decodePoolRegistry_wrap]
    exact ⟨_, rfl, r, h, rfl, rfl, rfl⟩
  | @salvageReceipt pool r h bump reserved =>
    rw [hreceipt (header_flatten rfl), decodeSalvageReceipt_wrap]
    exact ⟨_, rfl, r, h, rfl, rfl⟩
  | @claimRecord pool holder r h bump reserved =>
    rw [hclaim (header_flatten rfl), decodeClaimRecord_wrap]
    exact ⟨_, rfl, r, h, rfl, rfl⟩

end Decoding

/-! ## A sweep -/

/-- The pool of a receipt's address. -/
def receiptPool? : Account → Option Pubkey
  | .salvageReceipt pool => some pool
  | _ => none

/-- The pool and the holder of a claim record's address. -/
def claimKey? : Account → Option (Pubkey × Pubkey)
  | .claimRecord pool holder => some (pool, holder)
  | _ => none

/-- The pool of a registry's address. -/
def registryPool? : Account → Option Pubkey
  | .poolRegistry pool => some pool
  | _ => none

/-- The lists of a sweep are the accounts at the addresses, in their order. -/
structure Decodes (v : Vault.State) (addresses : List Account) (accounts : Accounts) : Prop where
  receipts : List.Forall₂ (fun pool o => IsReceipt v pool o.receipt.toSalvageReceipt)
    (addresses.filterMap receiptPool?) accounts.receipts
  claims : List.Forall₂ (fun key o => IsClaim v key o.claim.toClaimRecord)
    (addresses.filterMap claimKey?) accounts.claims
  registries : List.Forall₂ (fun pool o => IsRegistry v pool o.registry.toPoolRegistry)
    (addresses.filterMap registryPool?) accounts.registries
  known : accounts.unknownAccounts = 0

section Sweep

variable {toBase58 : Pubkey → String} {sha256 : List Byte → Hash} {v : Vault.State}
  {addresses : List Account} {accounts : Accounts} {owned : List OwnedAccount}

/-- An address of another kind leaves the list of a kind as it is. -/
theorem forall₂_skip {κ β : Type} {R : κ → β → Prop} {f : Account → Option κ} {l : List β}
    (h : List.Forall₂ R (addresses.filterMap f) l) {a : Account} (ha : f a = none) :
    List.Forall₂ R ((addresses ++ [a]).filterMap f) l := by
  rwa [List.filterMap_append, List.filterMap_cons_none ha, List.filterMap_nil, List.append_nil]

theorem forall₂_push {κ β : Type} {R : κ → β → Prop} {f : Account → Option κ} {l : List β}
    (h : List.Forall₂ R (addresses.filterMap f) l) {a : Account} {k : κ} (ha : f a = some k)
    {x : β} (hx : R k x) : List.Forall₂ R ((addresses ++ [a]).filterMap f) (l ++ [x]) := by
  rw [List.filterMap_append, List.filterMap_cons_some ha, List.filterMap_nil]
  exact List.rel_append h (.cons hx .nil)

/-- Before the first account nothing is decoded. -/
theorem decodes_none : Decodes v [] .none :=
  ⟨.nil, .nil, .nil, rfl⟩

theorem decodes_push (hs : Decodes v addresses accounts) {a : Account} {d : DecodedVaultAccount}
    (h : Represents v a d) (pubkey : Pubkey) :
    Decodes v (addresses ++ [a]) (accounts.push toBase58 pubkey (some d)) := by
  obtain ⟨hr, hc, hg, hk⟩ := hs
  cases d with
  | salvageReceipt receipt =>
    cases a with
    | salvageReceipt pool =>
      exact ⟨forall₂_push hr rfl h, forall₂_skip hc rfl, forall₂_skip hg rfl, hk⟩
    | _ => exact h.elim
  | claimRecord claim =>
    cases a with
    | claimRecord pool holder =>
      exact ⟨forall₂_skip hr rfl, forall₂_push hc rfl h, forall₂_skip hg rfl, hk⟩
    | _ => exact h.elim
  | poolRegistry registry =>
    cases a with
    | poolRegistry pool =>
      exact ⟨forall₂_skip hr rfl, forall₂_skip hc rfl, forall₂_push hg rfl h, hk⟩
    | _ => exact h.elim
  | vaultConfig config =>
    cases a with
    | vaultConfig => exact ⟨forall₂_skip hr rfl, forall₂_skip hc rfl, forall₂_skip hg rfl, hk⟩
    | _ => exact h.elim

/-- The observer decodes an account that the vault stores. -/
theorem observeAccount_of_stores (toBase58 : Pubkey → String)
    (hdisc : DistinctDiscriminators sha256) (hs : Decodes v addresses accounts) {a : Account}
    {o : OwnedAccount} (h : v.Stores sha256 a o.data) :
    ∃ accounts', observeAccount toBase58 sha256 accounts o = .ok accounts' ∧
      Decodes v (addresses ++ [a]) accounts' := by
  obtain ⟨d, hd, hrep⟩ := tryDecodeVaultAccount_of_stores hdisc h
  refine ⟨accounts.push toBase58 o.pubkey (some d), ?_, decodes_push hs hrep o.pubkey⟩
  rw [observeAccount, hd]
  rfl

/-- The accounts of a vault, at the addresses of a list : all of them, each once. -/
structure Presents (sha256 : List Byte → Hash) (v : Vault.State) (addresses : List Account)
    (owned : List OwnedAccount) : Prop where
  stores : List.Forall₂ (fun a o => v.Stores sha256 a o.data) addresses owned
  nodup : addresses.Nodup
  complete : ∀ a data, v.Stores sha256 a data → a ∈ addresses

/-- The loop over the accounts of a vault decodes all of them. -/
theorem observeAccounts_of_stores (toBase58 : Pubkey → String)
    (hdisc : DistinctDiscriminators sha256)
    (h : List.Forall₂ (fun a o => v.Stores sha256 a o.data) addresses owned) :
    ∃ accounts, observeAccounts toBase58 sha256 owned = .ok accounts ∧
      Decodes v addresses accounts := by
  have hloop : ∀ {pre start}, Decodes v pre start →
      ∃ accounts, owned.foldlM (observeAccount toBase58 sha256) start = .ok accounts ∧
        Decodes v (pre ++ addresses) accounts := by
    induction h with
    | nil =>
      intro pre start hstart
      exact ⟨start, rfl, by rwa [List.append_nil]⟩
    | @cons a o addresses owned hstores _ ih =>
      intro pre start hstart
      obtain ⟨next, hnext, hdecodes⟩ :=
        observeAccount_of_stores toBase58 hdisc hstart hstores
      obtain ⟨accounts, hok, haccounts⟩ := ih hdecodes
      refine ⟨accounts, ?_, by rwa [List.append_assoc] at haccounts⟩
      rw [List.foldlM_cons, hnext, ok_bind, hok]
  exact hloop decodes_none

end Sweep

/-! ## The rollups -/

/-- What stands on the right has something on the left. -/
theorem exists_left_of_mem {α β : Type} {R : α → β → Prop} {as : List α} {bs : List β}
    (h : List.Forall₂ R as bs) {b : β} (hb : b ∈ bs) : ∃ a ∈ as, R a b := by
  induction h with
  | nil => exact absurd hb List.not_mem_nil
  | @cons a _ _ _ hab _ ih =>
    rcases List.mem_cons.1 hb with rfl | hb
    · exact ⟨a, List.mem_cons_self, hab⟩
    · obtain ⟨x, hx, hr⟩ := ih hb
      exact ⟨x, List.mem_cons_of_mem a hx, hr⟩

/-- What stands on the left has something on the right. -/
theorem exists_right_of_mem {α β : Type} {R : α → β → Prop} {as : List α} {bs : List β}
    (h : List.Forall₂ R as bs) {a : α} (ha : a ∈ as) : ∃ b ∈ bs, R a b :=
  exists_left_of_mem h.flip ha

section Rollups

variable {toBase58 : Pubkey → String} {sha256 : List Byte → Hash} {w : World}
  {addresses : List Account} {accounts : Accounts} {owned : List OwnedAccount}
  {pool : Pubkey} {registry : Vault.PoolRegistry}

/-- A pool of the rollups is settled. -/
theorem settled_of_mem_rollupPools (hb : Booked w.vault) (hsolvent : Solvent w)
    (hs : Decodes w.vault addresses accounts) {name : String}
    (h : name ∈ rollupPools toBase58 accounts.receipts accounts.claims accounts.registries) :
    ∃ pool registry, w.vault.registries pool = some registry ∧ name = toBase58 pool := by
  simp only [rollupPools, List.mem_dedup, List.mem_append, List.mem_map] at h
  rcases h with (⟨o, ho, rfl⟩ | ⟨o, ho, rfl⟩) | ⟨o, ho, rfl⟩
  · obtain ⟨pool, _, stored, hstored, hpool, _⟩ := exists_left_of_mem hs.receipts ho
    obtain ⟨hkey, registry, hregistry⟩ := hb.receipts pool stored hstored
    exact ⟨pool, registry, hregistry, by rw [hpool, hkey]⟩
  · obtain ⟨⟨pool, holder⟩, _, stored, hstored, hpool, _⟩ := exists_left_of_mem hs.claims ho
    obtain ⟨registry, hregistry, _⟩ := hsolvent.records pool holder stored hstored
    exact ⟨pool, registry, hregistry, by rw [hpool, (hb.claimRecords _ _ _ hstored).1]⟩
  · obtain ⟨pool, _, stored, hstored, hpool, _⟩ := exists_left_of_mem hs.registries ho
    exact ⟨pool, stored, hstored, by rw [hpool, (hb.registries _ _ hstored).1]⟩

theorem mem_filterMap {κ : Type} {f : Account → Option κ} {a : Account} {k : κ}
    (h : a ∈ addresses) (ha : f a = some k) : k ∈ addresses.filterMap f :=
  List.mem_filterMap.2 ⟨a, h, ha⟩

variable (hb : Booked w.vault) (hs : Decodes w.vault addresses accounts)
  (hp : Presents sha256 w.vault addresses owned) (hbase58 : Function.Injective toBase58)

include hb hs hp hbase58

omit hb hs hp in
/-- Where a list is the accounts of the pools of another, each under its own pool, the map by pool
finds the account of a listed pool. -/
theorem get?_byPool {β γ : Type} {R : Pubkey → β → Prop} {pools : List Pubkey} {os : List β}
    (h : List.Forall₂ R pools os) {poolAddress : β → Pubkey} {value : β → γ} {P : γ → Prop}
    (hpool : ∀ pool o, R pool o → poolAddress o = pool) (hmem : pool ∈ pools)
    (hvalue : ∀ o, R pool o → P (value o)) :
    ∃ found, (InsertionMap.ofEntries (os.map fun o => (toBase58 (poolAddress o), value o))).get?
      (toBase58 pool) = some found ∧ P found := by
  obtain ⟨o, ho, hr⟩ := exists_right_of_mem h hmem
  refine InsertionMap.exists_get?_ofEntries
    ⟨_, List.mem_map_of_mem ho, congrArg toBase58 (hpool pool o hr)⟩ fun e he hk => ?_
  obtain ⟨o', ho', rfl⟩ := List.mem_map.1 he
  obtain ⟨q, _, hr'⟩ := exists_left_of_mem h ho'
  obtain rfl : q = pool := (hpool q o' hr').symm.trans (hbase58 hk)
  exact hvalue o' hr'

/-- The registry of a settled pool is found. -/
theorem get?_registryByPool (h : w.vault.registries pool = some registry) :
    ∃ found, (registryByPool toBase58 accounts.registries).get? (toBase58 pool) = some found ∧
      found.lpHolderPoolTotalLamports = registry.lpHolderPoolTotalLamports ∧
      found.lpHolderPoolClaimedLamports = registry.lpHolderPoolClaimedLamports := by
  refine get?_byPool hbase58 hs.registries ?_ (mem_filterMap
    (hp.complete _ _ (.poolRegistry h 0 (Bytes.ofNat 64 0))) rfl) ?_
  · rintro q o ⟨stored, hstored, hq, _⟩
    exact hq.trans (hb.registries q stored hstored).1
  · rintro o ⟨stored, hstored, _, htotal, hclaimed⟩
    obtain rfl : stored = registry := Option.some.inj (hstored.symm.trans h)
    exact ⟨htotal, hclaimed⟩

/-- The receipt of a settled pool is found. -/
theorem get?_receiptByPool {receipt : Vault.SalvageReceipt}
    (h : w.vault.receipts pool = some receipt) :
    ∃ found, (receiptByPool toBase58 accounts.receipts).get? (toBase58 pool) = some found ∧
      found.lpHolderAmountLamports = receipt.lpHolderAmountLamports := by
  refine get?_byPool hbase58 hs.receipts ?_ (mem_filterMap
    (hp.complete _ _ (.salvageReceipt h 0 (Bytes.ofNat 32 0))) rfl) ?_
  · rintro q o ⟨stored, hstored, hq, _⟩
    exact hq.trans (hb.receipts q stored hstored).1
  · rintro o ⟨stored, hstored, _, hamount⟩
    obtain rfl : stored = receipt := Option.some.inj (hstored.symm.trans h)
    exact hamount

omit hs hp in
/-- The claims of a pool, in the order of their addresses. -/
theorem sum_claims_eq {keys : List (Pubkey × Pubkey)} {claims : List ObservedClaim}
    (h : List.Forall₂ (fun key o => IsClaim w.vault key o.claim.toClaimRecord) keys claims)
    (pool : Pubkey) :
    ((claims.filter fun c => toBase58 c.claim.poolAddress = toBase58 pool).map
        fun c => c.claim.amountLamports.val).sum =
      ((keys.filter fun k => k.1 = pool).map fun k =>
        (claimBook w.vault pool k.2).getD 0).sum := by
  induction h with
  | nil => rfl
  | @cons key o keys claims hkey _ ih =>
    obtain ⟨stored, hstored, hpool, hamount⟩ := hkey
    rw [(hb.claimRecords key.1 key.2 stored hstored).1] at hpool
    by_cases hq : key.1 = pool
    · have hbook : (claimBook w.vault pool key.2).getD 0 = o.claim.amountLamports.val := by
        rw [claimBook, ← hq, Prod.mk.eta, hstored, hamount]
        rfl
      rw [List.filter_cons_of_pos (by simp [hpool, hq]), List.filter_cons_of_pos (by simp [hq]),
        List.map_cons, List.map_cons, List.sum_cons, List.sum_cons, ih, hbook]
    · have hne : toBase58 o.claim.poolAddress ≠ toBase58 pool := by
        rw [hpool]
        exact fun heq => hq (hbase58 heq)
      rw [List.filter_cons_of_neg (by simpa using hne), List.filter_cons_of_neg (by simpa using hq),
        ih]

/-- The claims of a pool sum to what its claim records sum to. -/
theorem sum_claims (pool : Pubkey) :
    ((accounts.claims.filter fun c => toBase58 c.claim.poolAddress = toBase58 pool).map
        fun c => c.claim.amountLamports.val).sum = (claimBook w.vault pool).paid := by
  have hkeys : (addresses.filterMap claimKey?).Nodup := by
    refine hp.nodup.filterMap fun a a' key ha ha' => ?_
    cases a with
    | claimRecord pool holder =>
      cases a' with
      | claimRecord pool' holder' =>
        obtain rfl := Option.some.inj ha
        obtain ⟨rfl, rfl⟩ := Prod.mk.inj (Option.some.inj ha')
        rfl
      | _ => cases ha'
    | _ => cases ha
  let holders := ((addresses.filterMap claimKey?).filter fun k => k.1 = pool).map Prod.snd
  have hholders : holders.Nodup := by
    refine List.Nodup.map_on (fun a ha b hb hab => Prod.ext ?_ hab) (hkeys.filter _)
    rw [of_decide_eq_true (List.mem_filter.1 ha).2, of_decide_eq_true (List.mem_filter.1 hb).2]
  have hrest : ∀ holder, holder ∉ holders → (claimBook w.vault pool holder).getD 0 = 0 := by
    intro holder hn
    cases hr : w.vault.claimRecords (pool, holder) with
    | none => simp [claimBook, hr]
    | some record =>
      have hmem := mem_filterMap (f := claimKey?)
        (hp.complete _ _ (.claimRecord hr 0 (Bytes.ofNat 32 0))) rfl
      exact absurd (List.mem_map.2 ⟨_, List.mem_filter.2 ⟨hmem, by simp⟩, rfl⟩) hn
  calc _ = (((addresses.filterMap claimKey?).filter fun k => k.1 = pool).map fun k =>
        (claimBook w.vault pool k.2).getD 0).sum := sum_claims_eq hb hbase58 hs.claims pool
    _ = (holders.map fun holder => (claimBook w.vault pool holder).getD 0).sum := by
        rw [List.map_map]
        rfl
    _ = ∑ holder ∈ holders.toFinset, (claimBook w.vault pool holder).getD 0 :=
        (List.sum_toFinset _ hholders).symm
    _ = (claimBook w.vault pool).paid :=
        Finset.sum_subset (Finset.subset_univ _) fun holder _ hn =>
          hrest holder fun hmem => hn (List.mem_toFinset.2 hmem)

/-- The rollup of a settled pool passes its checks. -/
theorem claimRollup_pass (hsolvent : Solvent w) (h : w.vault.registries pool = some registry) :
    (claimRollup toBase58 (receiptByPool toBase58 accounts.receipts)
      (registryByPool toBase58 accounts.registries) accounts.claims (toBase58 pool)).checks =
        ⟨true, true, true⟩ := by
  obtain ⟨_, receipt, hreceipt, hagree⟩ := hb.registries pool registry h
  obtain ⟨registry', hregistry', htotal, hclaimed⟩ := get?_registryByPool hb hs hp hbase58 h
  obtain ⟨receipt', hreceipt', hamount⟩ := get?_receiptByPool hb hs hp hbase58 hreceipt
  have hsum := sum_claims hb hs hp hbase58 pool
  have hpool := hsolvent.pools pool registry h
  have hrecorded := hpool.recorded
  have hcapped := hpool.capped
  rw [← hsum] at hrecorded
  rw [hrecorded, hagree] at hcapped
  simp only [claimRollup, hregistry', hreceipt', Option.map_some, hclaimed, hamount, htotal, hagree,
    hrecorded, hcapped, decide_true]

end Rollups

/-- The claim monitor raises no false alarm : over the accounts of a reachable vault, in any order,
the observer decodes all of them, every pool with a registry has a rollup, and every rollup passes
its three checks. -/
theorem observe_noFalseAlarm (rt : Runtime) (toBase58 : Pubkey → String)
    (hbase58 : Function.Injective toBase58) (hdisc : DistinctDiscriminators rt.sha256)
    (clock : Clock) (ledger : Ledger) (ixs : List Ix) (addresses : List Account)
    (owned : List OwnedAccount)
    (hp : Presents rt.sha256 (run (exec rt) (genesis clock ledger) ixs).vault addresses owned) :
    ∃ observation, observe toBase58 rt.sha256 owned = .ok observation ∧
      observation.unknownAccounts = 0 ∧ observation.anomalousRollups = 0 ∧
      observation.rollups = buildClaimRollups toBase58 observation.receipts observation.claims
        observation.registries ∧
      (∀ rollup ∈ observation.rollups, rollup.checks.c1Accounted = true ∧
        rollup.checks.c2WithinCeiling = true ∧ rollup.checks.c3Agrees = true) ∧
      ∀ pool registry,
        (run (exec rt) (genesis clock ledger) ixs).vault.registries pool = some registry →
        ∃ rollup ∈ observation.rollups, rollup.poolAddress = toBase58 pool := by
  have hb := booked_run rt clock ledger ixs
  have hsolvent := solvent_run rt clock ledger ixs
  obtain ⟨accounts, hok, hs⟩ := observeAccounts_of_stores toBase58 hdisc hp.stores
  have hpass : ∀ rollup ∈ buildClaimRollups toBase58 accounts.receipts accounts.claims
      accounts.registries, rollup.checks = ⟨true, true, true⟩ := by
    intro rollup hmem
    obtain ⟨name, hname, rfl⟩ := List.mem_map.1 hmem
    obtain ⟨pool, registry, h, rfl⟩ :=
      settled_of_mem_rollupPools hb hsolvent hs (List.mem_mergeSort.1 hname)
    exact claimRollup_pass hb hs hp hbase58 hsolvent h
  refine ⟨_, by rw [observe, hok]; rfl, hs.known, ?_, rfl, fun rollup hmem => ?_,
    fun pool registry h => ?_⟩
  · rw [List.length_eq_zero_iff, List.filter_eq_nil_iff]
    intro rollup hmem
    rw [hpass rollup hmem]
    decide
  · rw [hpass rollup hmem]
    exact ⟨rfl, rfl, rfl⟩
  · have hmem := mem_filterMap (f := registryPool?)
      (hp.complete _ _ (.poolRegistry h 0 (Bytes.ofNat 64 0))) rfl
    obtain ⟨o, ho, _, hstored, hpool, _⟩ := exists_right_of_mem hs.registries hmem
    rw [(hb.registries _ _ hstored).1] at hpool
    refine ⟨_, List.mem_map_of_mem (List.mem_mergeSort.2 (List.mem_dedup.2 ?_)), rfl⟩
    exact List.mem_append_right _ (List.mem_map.2 ⟨o, ho, congrArg toBase58 hpool⟩)

/-! ## A settled pool and its one claim -/

/-- The salvage and the claim of the one holder. -/
def demoRun : List Ix :=
  demoSetup ++ [demoSalvage, .vault (.claimLpProceeds demoClaim demoHolder)]

/-- The configuration after `demoSetup`. -/
def demoVaultConfig : Vault.ProtocolConfig :=
  ⟨Scanner.demoAuthority, defaultPubkey, 0, 4000, 4000, 2000, 1000000000, 300, 1000000000000,
    259200, false⟩

/-- The registry after the claim. -/
def claimedRegistry : Vault.PoolRegistry :=
  { demoRegistry with lpHolderPoolClaimedLamports := 360000000 }

/-- The receipt of the salvage. -/
def demoReceipt : Vault.SalvageReceipt :=
  Vault.newReceipt ⟨900000, 102, 10360000⟩ demoSalvageParams demoSalvageAccounts
    ⟨900000000, 360000000, 360000000, 180000000⟩ 900000000000

/-- The record of the claim. -/
def demoRecord : Vault.ClaimRecord :=
  ⟨Scanner.demoPool, demoHolder, 360000000, 1000, 900000, 10360000⟩

/-- What the vault stores after the run. -/
theorem accounts_demo (w : World)
    (hw : w = run (exec Scanner.demoRuntime) (genesis Scanner.demoClock demoLedger) demoRun) :
    w.vault.protocolConfig = some demoVaultConfig ∧
      w.vault.registries Scanner.demoPool = some claimedRegistry ∧
      w.vault.receipts Scanner.demoPool = some demoReceipt ∧
      w.vault.claimRecords (Scanner.demoPool, demoHolder) = some demoRecord := by
  rw [hw]
  decide +kernel

/-- The addresses of these four. -/
def demoAddresses : List Account :=
  [.claimRecord Scanner.demoPool demoHolder, .poolRegistry Scanner.demoPool, .vaultConfig,
    .salvageReceipt Scanner.demoPool]

/-- The four accounts as the node serves them. -/
def demoOwned : List OwnedAccount :=
  [⟨Pubkey.fill 71, demoRecord.accountData Machine.sha256 255 (Bytes.ofNat 32 0)⟩,
    ⟨Pubkey.fill 72, claimedRegistry.accountData Machine.sha256 254 (Bytes.ofNat 64 0)⟩,
    ⟨Pubkey.fill 73, demoVaultConfig.accountData Machine.sha256 253 (Bytes.ofNat 96 0)⟩,
    ⟨Pubkey.fill 74, demoReceipt.accountData Machine.sha256 252 (Bytes.ofNat 32 0)⟩]

/-- No other pool is settled in the run. -/
theorem pool_eq_demoPool {pool : Pubkey} {registry : Vault.PoolRegistry}
    (h : (run (exec Scanner.demoRuntime) (genesis Scanner.demoClock demoLedger)
      demoRun).vault.registries pool = some registry) : pool = Scanner.demoPool := by
  obtain ⟨params, accounts, programs, hmem, rfl⟩ := salvaged_of_registry h
  simp only [demoRun, demoSetup, demoSalvage, Scanner.demoCalls, List.map_cons, List.map_nil,
    List.cons_append, List.nil_append, List.mem_cons, List.not_mem_nil, or_false, reduceCtorEq,
    false_or, Ix.vault.injEq, Vault.Call.salvagePool.injEq] at hmem
  rw [hmem.1]
  rfl

/-- The four are the accounts of the vault. -/
theorem presents_demo : Presents Scanner.demoRuntime.sha256 (run (exec Scanner.demoRuntime)
    (genesis Scanner.demoClock demoLedger) demoRun).vault demoAddresses demoOwned := by
  obtain ⟨hconfig, hregistry, hreceipt, hrecord⟩ := accounts_demo _ rfl
  refine ⟨.cons (.claimRecord hrecord _ _) <| .cons (.poolRegistry hregistry _ _) <|
    .cons (.vaultConfig hconfig _ _) <| .cons (.salvageReceipt hreceipt _ _) .nil,
    by decide +kernel, fun a data h => ?_⟩
  cases h with
  | vaultConfig => simp [demoAddresses]
  | poolRegistry h =>
    rw [pool_eq_demoPool h]
    simp [demoAddresses]
  | salvageReceipt h =>
    obtain ⟨_, _, hr⟩ := (booked_run _ _ _ _).receipts _ _ h
    rw [pool_eq_demoPool hr]
    simp [demoAddresses]
  | claimRecord h =>
    obtain ⟨params, hmem, rfl⟩ := claimed_of_record h
    simp only [demoRun, demoSetup, demoSalvage, Scanner.demoCalls, List.map_cons, List.map_nil,
      List.cons_append, List.nil_append, List.mem_cons, List.not_mem_nil, or_false, reduceCtorEq,
      false_or, Ix.vault.injEq, Vault.Call.claimLpProceeds.injEq] at hmem
    rw [hmem.1, hmem.2]
    simp [demoAddresses, demoClaim]

/-- The observer counts no anomalous rollup. -/
theorem observe_noFalseAlarm_demo : ∃ observation,
    observe (fun key => Base58.encode key.val) Machine.sha256 demoOwned = .ok observation ∧
      observation.anomalousRollups = 0 ∧
      ∃ rollup ∈ observation.rollups,
        rollup.poolAddress = Base58.encode Scanner.demoPool.val := by
  have hbase58 : Function.Injective fun key : Pubkey => Base58.encode key.val := fun a b h =>
    Subtype.ext (Base58.encode_inj (by rw [a.2, b.2]) h)
  obtain ⟨observation, hok, _, hanomalous, _, _, hall⟩ :=
    observe_noFalseAlarm Scanner.demoRuntime _ hbase58 (by decide +kernel) Scanner.demoClock
      demoLedger demoRun demoAddresses demoOwned presents_demo
  exact ⟨observation, hok, hanomalous, hall Scanner.demoPool _ (accounts_demo _ rfl).2.1⟩

end GraveYield.Ops
