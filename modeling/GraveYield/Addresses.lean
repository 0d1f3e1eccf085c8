import GraveYield.Ledger
import GraveYield.Sdk.Instructions

/-!
# The addresses behind the accounts

The accounts of both programs stand at addresses derived from seeds : the hash of the seeds, a
bump, the program and a marker, with the first of the bumps 255, 254, … whose hash is no point of
the curve. The seeds are hashed without separators or lengths, so two accounts are kept apart by
what their tags are : shorter than a key, and distinct under one program (`Pda.eq_of_flatten`).

The ledger names an account by its seeds, and so does the scanner (`Site`).
`Site.address_separated` is what this rests on : if two accounts have one address they are the same
account, or their own preimages are a collision of the hash (`Site.Clash`). Keys count too : a
wallet is on the curve, and an address of another program is hashed with that program. The helpers
of the SDK compute the same addresses.
-/

namespace GraveYield

open Machine Checked

/-! ## Derivation -/

namespace Sdk

/-- What the derivation throws. -/
inductive PdaError where
  /-- `Max number of PDA seeds exceeded: … > 16`. -/
  | maxSeeds (count : ℕ)
  /-- `Max PDA seed length exceeded: … > 32`. -/
  | maxSeedLength (length : ℕ)
  /-- `Invalid seeds: address must fall off the ed25519 curve`. -/
  | onCurve
  /-- `Unable to find a viable program address bump`. -/
  | noBump
  deriving DecidableEq

/-- The most seeds that an address may have. -/
def MAX_PDA_SEEDS : ℕ := 16

/-- The most bytes that a seed may have. -/
def MAX_SEED_LENGTH : ℕ := 32

/-- The bytes of which an address is the hash. -/
def pdaPreimage (seeds : List (List Byte)) (programId : Pubkey) : List Byte :=
  seeds.flatten ++ programId.val ++ ascii "ProgramDerivedAddress"

variable (sha256 : List Byte → Hash) (isOnCurve : Hash → Bool)

/-- The address of the seeds, unless it lies on the curve. -/
def createProgramAddressSync (seeds : List (List Byte)) (programId : Pubkey) :
    Except PdaError Pubkey := do
  require (seeds.length ≤ MAX_PDA_SEEDS) (.maxSeeds seeds.length)
  for seed in seeds do
    require (seed.length ≤ MAX_SEED_LENGTH) (.maxSeedLength seed.length)
  let digest := sha256 (pdaPreimage seeds programId)
  require (isOnCurve digest = false) .onCurve
  return digest

/-- The bumps below `bound`, from the largest. -/
def searchBump (seeds : List (List Byte)) (programId : Pubkey) : ℕ → Except PdaError (Pubkey × U8)
  | 0 => .error .noBump
  | n + 1 =>
    let bump : U8 := Fin.ofNat (2 ^ 8) n
    match createProgramAddressSync sha256 isOnCurve (seeds ++ [[bump]]) programId with
    | .ok pda => .ok (pda, bump)
    | .error _ => searchBump seeds programId n

/-- The first address off the curve, from the largest bump down. -/
def findProgramAddressSync (seeds : List (List Byte)) (programId : Pubkey) :
    Except PdaError (Pubkey × U8) :=
  searchBump sha256 isOnCurve seeds programId 256

variable {sha256 isOnCurve} {seeds : List (List Byte)} {programId pda : Pubkey} {bump : U8}

/-- A derived address is the digest of its seeds and lies off the curve. -/
theorem createProgramAddressSync_ok
    (h : createProgramAddressSync sha256 isOnCurve seeds programId = .ok pda) :
    sha256 (pdaPreimage seeds programId) = pda ∧ isOnCurve pda = false := by
  simp only [createProgramAddressSync, bind_ok_iff, require_ok_iff, exists_const, pure_ok_iff] at h
  obtain ⟨_, _, _, hcurve, rfl⟩ := h
  exact ⟨rfl, hcurve⟩

/-- The search ends at a bump whose address is derived. -/
theorem searchBump_ok {n : ℕ}
    (h : searchBump sha256 isOnCurve seeds programId n = .ok (pda, bump)) :
    createProgramAddressSync sha256 isOnCurve (seeds ++ [[bump]]) programId = .ok pda := by
  induction n with
  | zero => cases h
  | succ n ih =>
    simp only [searchBump] at h
    split at h
    · next heq =>
      obtain ⟨rfl, rfl⟩ := Prod.mk.inj (Except.ok.inj h)
      exact heq
    · exact ih h

/-- What the search finds is the digest of the seeds with the bump. -/
theorem findProgramAddressSync_ok
    (h : findProgramAddressSync sha256 isOnCurve seeds programId = .ok (pda, bump)) :
    sha256 (pdaPreimage (seeds ++ [[bump]]) programId) = pda ∧ isOnCurve pda = false :=
  createProgramAddressSync_ok (searchBump_ok h)

/-- The program can be read off a preimage, -/
theorem program_of_pdaPreimage {seeds' : List (List Byte)} {programId' : Pubkey}
    (h : pdaPreimage seeds programId = pdaPreimage seeds' programId') :
    seeds.flatten = seeds'.flatten ∧ programId = programId' := by
  obtain ⟨hleft, _⟩ := List.append_inj' h rfl
  obtain ⟨hseeds, hprogram⟩ :=
    List.append_inj' hleft ((Bytes.length_val _).trans (Bytes.length_val _).symm)
  exact ⟨hseeds, Subtype.ext hprogram⟩

/-- and so can the bump. -/
theorem bump_of_pdaPreimage {seeds' : List (List Byte)} {programId' : Pubkey} {bump' : U8}
    (h : pdaPreimage (seeds ++ [[bump]]) programId = pdaPreimage (seeds' ++ [[bump']]) programId') :
    seeds.flatten = seeds'.flatten ∧ bump = bump' ∧ programId = programId' := by
  obtain ⟨hflatten, hprogram⟩ := program_of_pdaPreimage h
  rw [List.flatten_append, List.flatten_append] at hflatten
  obtain ⟨hseeds, hbump⟩ := List.append_inj' hflatten rfl
  exact ⟨hseeds, by simpa using hbump, hprogram⟩

end Sdk

/-! ## The derived accounts -/

/-- `EFJpKtWx5gDnc4Hh6GEEgPLUrPh377E4Nfic8jsJAQJL`, the scanner. -/
def scannerProgramId : Pubkey :=
  Bytes.ofNat 32 0xc4d234b87204358bba70d18850e87c1b2a157a64ed5fa072f81cbf5e1f87e1e1

/-- `7VxUGJNgi1bZ8x4rTtLBNdgLs9sCLmUTpVE3on1nshya`, the vault. -/
def vaultProgramId : Pubkey :=
  Bytes.ofNat 32 0x60911abaf06c9aa96ce43c46cdab604b916945144e417bb9f9552274d0ab7a51

/-- The first seed of an address. The associated-token program uses none. -/
inductive SeedTag where
  | scannerConfig
  | eligibilityAnchor
  | eligibilityCert
  | launchPrice
  | vaultConfig
  | poolRegistry
  | lpHolderPool
  | salvageReceipt
  | claimRecord
  | protocolTreasury
  | vaultAuthority
  | vaultSolHolding
  | associatedToken
  deriving DecidableEq

namespace SeedTag

/-- The program that an account is derived for. -/
def program : SeedTag → Pubkey
  | .scannerConfig | .eligibilityAnchor | .eligibilityCert | .launchPrice => scannerProgramId
  | .associatedToken => Sdk.ASSOCIATED_TOKEN_PROGRAM_ID
  | _ => vaultProgramId

/-- The label of an account, where it has one. -/
def bytes : SeedTag → List Byte
  | .scannerConfig => ascii "protocol_config"
  | .eligibilityAnchor => ascii "eligibility_anchor"
  | .eligibilityCert => ascii "eligibility_cert"
  | .launchPrice => ascii "launch_price"
  | .vaultConfig => ascii "protocol_config"
  | .poolRegistry => ascii "pool_registry"
  | .lpHolderPool => ascii "lp_holder_pool"
  | .salvageReceipt => ascii "salvage_receipt"
  | .claimRecord => ascii "claim_record"
  | .protocolTreasury => ascii "protocol_treasury"
  | .vaultAuthority => ascii "vault_authority"
  | .vaultSolHolding => ascii "vault_sol_holding"
  | .associatedToken => []

/-- No label is as long as a key. -/
theorem length_bytes (t : SeedTag) : t.bytes.length < 32 := by
  cases t <;> decide

/-- A label belongs to one kind of account of a program. -/
theorem eq_of_bytes {t t' : SeedTag} (hprogram : t.program = t'.program)
    (hbytes : t.bytes = t'.bytes) : t = t' := by
  -- only the two configurations have one tag, under two programs
  cases t <;> cases t' <;>
    first
    | rfl
    | exact absurd hbytes (by decide)
    | exact absurd hprogram (by decide)

end SeedTag

/-- A derived account : its tag, and the keys behind it. -/
structure Pda where
  tag : SeedTag
  keys : List Pubkey
  deriving DecidableEq

namespace Pda

/-- The seeds of an account, its label and its keys. -/
def seeds (p : Pda) : List (List Byte) :=
  match p.tag with
  | .associatedToken => p.keys.map Subtype.val
  | t => t.bytes :: p.keys.map Subtype.val

/-- The bytes of the seeds, the label before the keys. -/
theorem flatten_seeds (p : Pda) :
    p.seeds.flatten = p.tag.bytes ++ (p.keys.map Subtype.val).flatten := by
  obtain ⟨tag, keys⟩ := p
  cases tag <;> rfl

/-- Keys have 32 bytes each. -/
theorem length_keys (keys : List Pubkey) :
    (keys.map Subtype.val).flatten.length = 32 * keys.length := by
  induction keys with
  | nil => rfl
  | cons k keys ih =>
    rw [List.map_cons, List.flatten_cons, List.length_append, Bytes.length_val, ih,
      List.length_cons]
    omega

/-- The bytes of keys determine them. -/
theorem keys_inj {keys keys' : List Pubkey}
    (h : (keys.map Subtype.val).flatten = (keys'.map Subtype.val).flatten) : keys = keys' := by
  have hlength := congrArg List.length h
  rw [length_keys, length_keys] at hlength
  induction keys generalizing keys' with
  | nil =>
    cases keys' with
    | nil => rfl
    | cons k' keys' => simp at hlength
  | cons k keys ih =>
    cases keys' with
    | nil => simp at hlength
    | cons k' keys' =>
      obtain ⟨hk, hkeys⟩ :=
        List.append_inj h ((Bytes.length_val k).trans (Bytes.length_val k').symm)
      rw [Subtype.ext hk, ih hkeys (by simpa using hlength)]

/-- Concatenated without separators, the seeds still tell the accounts of a program apart : the
number of keys and the length of the tag are the quotient and the remainder of the length. -/
theorem eq_of_flatten {p q : Pda} (hprogram : p.tag.program = q.tag.program)
    (h : p.seeds.flatten = q.seeds.flatten) : p = q := by
  rw [flatten_seeds, flatten_seeds] at h
  have hp := p.tag.length_bytes
  have hq := q.tag.length_bytes
  have htag : p.tag.bytes.length = q.tag.bytes.length := by
    have hlength := congrArg List.length h
    rw [List.length_append, List.length_append, length_keys, length_keys] at hlength
    omega
  obtain ⟨hbytes, hkeys⟩ := List.append_inj h htag
  obtain ⟨tag, keys⟩ := p
  obtain ⟨tag', keys'⟩ := q
  obtain rfl : tag = tag' := SeedTag.eq_of_bytes hprogram hbytes
  obtain rfl : keys = keys' := keys_inj hkeys
  rfl

end Pda

/-! ## Addresses -/

section Addresses

variable (sha256 : List Byte → Hash) (isOnCurve : Hash → Bool)
  (origin : Pubkey → Option (List (List Byte) × Pubkey))

/-- Two preimages of one hash. -/
structure Collides (x y : List Byte) : Prop where
  ne : x ≠ y
  hash_eq : sha256 x = sha256 y

/-- A collision has no order. -/
theorem Collides.symm {x y : List Byte} (h : Collides sha256 x y) : Collides sha256 y x :=
  ⟨h.ne.symm, h.hash_eq.symm⟩

/-- The address of a derived account, and the bytes it is the hash of. -/
def Pda.locate (p : Pda) : Except Sdk.PdaError (Pubkey × Option (List Byte)) := do
  let (address, bump) ← Sdk.findProgramAddressSync sha256 isOnCurve p.seeds p.tag.program
  return (address, some (Sdk.pdaPreimage (p.seeds ++ [[bump]]) p.tag.program))

namespace Account

/-- The tag and the keys of an account, behind the address of its owner if it has one. -/
def pda? (owner : Pubkey) : Account → Option Pda
  | .key _ => none
  | .vaultConfig => some ⟨.vaultConfig, []⟩
  | .poolRegistry pool => some ⟨.poolRegistry, [pool]⟩
  | .salvageReceipt pool => some ⟨.salvageReceipt, [pool]⟩
  | .claimRecord pool holder => some ⟨.claimRecord, [pool, holder]⟩
  | .lpHolderPoolVault pool => some ⟨.lpHolderPool, [pool]⟩
  | .vaultSolHolding pool => some ⟨.vaultSolHolding, [pool]⟩
  | .protocolTreasury => some ⟨.protocolTreasury, []⟩
  | .vaultAuthority => some ⟨.vaultAuthority, []⟩
  | .eligibilityCert amm pool => some ⟨.eligibilityCert, [amm, pool]⟩
  | .ata _ mint => some ⟨.associatedToken, [owner, tokenProgramId, mint]⟩

/-- The address of an account, and the bytes it is the hash of. Those of a key are what `origin`
knows of it. -/
def locate : Account → Except Sdk.PdaError (Pubkey × Option (List Byte))
  | .key k => return (k, (origin k).map fun o => Sdk.pdaPreimage o.1 o.2)
  | .ata owner mint => do
    let (address, _) ← locate owner
    Pda.locate sha256 isOnCurve ⟨.associatedToken, [address, tokenProgramId, mint]⟩
  | a => match a.pda? defaultPubkey with
    | none => .error .noBump
    | some p => p.locate sha256 isOnCurve

/-- The keys of an account are on the curve, or addresses that other programs derive. -/
def Genuine : Account → Prop
  | .key k => match origin k with
    | none => isOnCurve k = true
    | some (seeds, programId) => (∀ t : SeedTag, programId ≠ t.program) ∧
      Sdk.createProgramAddressSync sha256 isOnCurve seeds programId = .ok k
  | .ata owner _ => owner.Genuine
  | _ => True

/-- Two accounts whose own preimages collide, or those of whose owners do. -/
inductive Clash : Account → Account → Prop
  | own {a b : Account} {k k' : Pubkey} {x y : List Byte}
      (ha : a.locate sha256 isOnCurve origin = .ok (k, some x))
      (hb : b.locate sha256 isOnCurve origin = .ok (k', some y)) (h : Collides sha256 x y) :
      Clash a b
  | owner {o o' : Account} (mint : Pubkey) (h : Clash o o') : Clash (.ata o mint) (.ata o' mint)

end Account

variable {sha256 isOnCurve origin}

namespace Account

variable {a b : Account} {k : Pubkey} {x y : Option (List Byte)}

/-- An account is a key, or derived; its owner's address is that of its owner. -/
theorem locate_cases (h : a.locate sha256 isOnCurve origin = .ok (k, x)) :
    (a = .key k ∧ x = (origin k).map fun o => Sdk.pdaPreimage o.1 o.2) ∨
      ∃ owner p, a.pda? owner = some p ∧ p.locate sha256 isOnCurve = .ok (k, x) ∧
        ∀ o mint, a = .ata o mint → ∃ z, o.locate sha256 isOnCurve origin = .ok (owner, z) := by
  cases a with
  | key k' =>
    simp only [locate, pure_ok_iff, Prod.mk.injEq] at h
    obtain ⟨rfl, rfl⟩ := h
    exact Or.inl ⟨rfl, rfl⟩
  | ata o mint =>
    simp only [locate, bind_ok_iff, Prod.exists] at h
    obtain ⟨owner, z, ho, h⟩ := h
    refine Or.inr ⟨owner, _, rfl, h, fun o' mint' heq => ?_⟩
    obtain ⟨rfl, rfl⟩ := Account.ata.inj heq
    exact ⟨z, ho⟩
  | _ => exact Or.inr ⟨defaultPubkey, _, rfl, h, fun _ _ heq => by cases heq⟩

/-- The tag and the keys name the account, but for the owner, of which they have the address. -/
theorem eq_of_pda? {owner owner' : Pubkey} {p : Pda} (ha : a.pda? owner = some p)
    (hb : b.pda? owner' = some p) :
    a = b ∨ ∃ o o' mint, a = .ata o mint ∧ b = .ata o' mint ∧ owner = owner' := by
  have h := ha.trans hb.symm
  cases a with
  | key k => cases ha
  | _ =>
    clear ha hb
    cases b <;> simp_all [pda?]

/-- Where a derived account is, and from which preimage. -/
theorem pda_locate_ok {p : Pda} (h : p.locate sha256 isOnCurve = .ok (k, x)) :
    ∃ bump, x = some (Sdk.pdaPreimage (p.seeds ++ [[bump]]) p.tag.program) ∧
      sha256 (Sdk.pdaPreimage (p.seeds ++ [[bump]]) p.tag.program) = k ∧ isOnCurve k = false := by
  simp only [Pda.locate, bind_ok_iff, Prod.exists, pure_ok_iff, Prod.mk.injEq] at h
  obtain ⟨_, bump, hfind, rfl, rfl⟩ := h
  exact ⟨bump, rfl, Sdk.findProgramAddressSync_ok hfind⟩

/-- A genuine key at the address of a derived account has another preimage. -/
theorem collides_of_key {p : Pda} (hk : (Account.key k).Genuine sha256 isOnCurve origin)
    (hp : p.locate sha256 isOnCurve = .ok (k, y)) : ∃ x y', y = some y' ∧
      (Account.key k).locate sha256 isOnCurve origin = .ok (k, some x) ∧ Collides sha256 x y' := by
  obtain ⟨bump, rfl, hhash, hcurve⟩ := pda_locate_ok hp
  cases ho : origin k with
  | none =>
    simp only [Genuine, ho] at hk
    rw [hk] at hcurve
    cases hcurve
  | some o =>
    obtain ⟨seeds, programId⟩ := o
    simp only [Genuine, ho] at hk
    obtain ⟨hprogram, hcreate⟩ := hk
    obtain ⟨hx, _⟩ := Sdk.createProgramAddressSync_ok hcreate
    refine ⟨Sdk.pdaPreimage seeds programId, _, rfl, ?_, fun heq => ?_, hx.trans hhash.symm⟩
    · simp only [locate, ho, Option.map_some, pure_ok_iff]
    · exact hprogram _ (Sdk.program_of_pdaPreimage heq).2

/-- Two tags with keys at one address are the same, or their preimages collide. -/
theorem pda_separated {p q : Pda} (hp : p.locate sha256 isOnCurve = .ok (k, x))
    (hq : q.locate sha256 isOnCurve = .ok (k, y)) :
    p = q ∨ ∃ x' y', x = some x' ∧ y = some y' ∧ Collides sha256 x' y' := by
  obtain ⟨bump, rfl, hx, _⟩ := pda_locate_ok hp
  obtain ⟨bump', rfl, hy, _⟩ := pda_locate_ok hq
  by_cases heq : Sdk.pdaPreimage (p.seeds ++ [[bump]]) p.tag.program =
      Sdk.pdaPreimage (q.seeds ++ [[bump']]) q.tag.program
  · obtain ⟨hseeds, _, hprogram⟩ := Sdk.bump_of_pdaPreimage heq
    exact Or.inl (Pda.eq_of_flatten hprogram hseeds)
  · exact Or.inr ⟨_, _, rfl, rfl, heq, hx.trans hy.symm⟩

/-- Two derived accounts at one address are the same, or token accounts whose owners have one
address, or their preimages collide. -/
theorem derived_separated {owner owner' : Pubkey} {p q : Pda} (ha : a.pda? owner = some p)
    (hb : b.pda? owner' = some q) (hp : p.locate sha256 isOnCurve = .ok (k, x))
    (hq : q.locate sha256 isOnCurve = .ok (k, y)) :
    a = b ∨ (∃ o o' mint, a = .ata o mint ∧ b = .ata o' mint ∧ owner = owner') ∨
      ∃ x' y', x = some x' ∧ y = some y' ∧ Collides sha256 x' y' := by
  rcases pda_separated hp hq with rfl | hc
  · rcases eq_of_pda? ha hb with hab | hata
    · exact Or.inl hab
    · exact Or.inr (Or.inl hata)
  · exact Or.inr (Or.inr hc)

/-- Two accounts at one address, if their owners are apart. -/
theorem separated_of_owners (ha : a.Genuine sha256 isOnCurve origin)
    (hb : b.Genuine sha256 isOnCurve origin) (hak : a.locate sha256 isOnCurve origin = .ok (k, x))
    (hbk : b.locate sha256 isOnCurve origin = .ok (k, y))
    (howners : ∀ o o' mint owner z z', a = .ata o mint → b = .ata o' mint →
      o.locate sha256 isOnCurve origin = .ok (owner, z) →
      o'.locate sha256 isOnCurve origin = .ok (owner, z') →
      o = o' ∨ Clash sha256 isOnCurve origin o o') :
    a = b ∨ Clash sha256 isOnCurve origin a b := by
  rcases locate_cases hak with ⟨rfl, _⟩ | ⟨owner, p, hap, hp, hao⟩
  · rcases locate_cases hbk with ⟨rfl, _⟩ | ⟨_, q, _, hq, _⟩
    · exact Or.inl rfl
    · obtain ⟨x', y', rfl, hx, hc⟩ := collides_of_key ha hq
      exact Or.inr (.own hx hbk hc)
  · rcases locate_cases hbk with ⟨rfl, _⟩ | ⟨owner', q, hbq, hq, hbo⟩
    · obtain ⟨y', x', rfl, hy, hc⟩ := collides_of_key hb hp
      exact Or.inr (.own hak hy hc.symm)
    · rcases derived_separated hap hbq hp hq with hab | ⟨o, o', mint, rfl, rfl, rfl⟩ |
        ⟨x', y', rfl, rfl, hc⟩
      · exact Or.inl hab
      · obtain ⟨z, hz⟩ := hao o mint rfl
        obtain ⟨z', hz'⟩ := hbo o' mint rfl
        rcases howners o o' mint owner z z' rfl rfl hz hz' with rfl | hclash
        · exact Or.inl rfl
        · exact Or.inr (.owner mint hclash)
      · exact Or.inr (.own hak hbk hc)

/-- Two genuine accounts of the ledger at one address are the same, or they clash. The induction is
on the owner of a token account. -/
theorem separated (ha : a.Genuine sha256 isOnCurve origin) (hb : b.Genuine sha256 isOnCurve origin)
    (hak : a.locate sha256 isOnCurve origin = .ok (k, x))
    (hbk : b.locate sha256 isOnCurve origin = .ok (k, y)) :
    a = b ∨ Clash sha256 isOnCurve origin a b := by
  induction a generalizing b k x y with
  | ata o mint ih =>
    refine separated_of_owners ha hb hak hbk fun o₁ o' mint' owner z z' heq hb' ho ho' => ?_
    subst hb'
    obtain ⟨rfl, rfl⟩ := Account.ata.inj heq
    exact ih ha hb ho ho'
  | _ => exact separated_of_owners ha hb hak hbk fun _ _ _ _ _ _ heq => by cases heq

/-- No account of the ledger has a tag that only the scanner uses. -/
theorem tag_of_pda? {owner : Pubkey} {p : Pda} (h : a.pda? owner = some p) :
    p.tag ≠ .scannerConfig ∧ p.tag ≠ .eligibilityAnchor ∧ p.tag ≠ .launchPrice := by
  cases a with
  | key k => cases h
  | _ =>
    obtain rfl := Option.some.inj h
    exact ⟨by simp, by simp, by simp⟩

end Account

end Addresses

/-! ## Where all accounts are -/

/-- An account of the ledger, or one that only the scanner keeps. -/
inductive Site where
  | ledger (account : Account)
  | scannerConfig
  | eligibilityAnchor (ammProgramId poolAddress : Pubkey)
  | launchPrice (ammProgramId poolAddress : Pubkey)
  deriving DecidableEq

namespace Site

section Separation

variable (sha256 : List Byte → Hash) (isOnCurve : Hash → Bool)
  (origin : Pubkey → Option (List (List Byte) × Pubkey))

/-- The tag and the keys of an account of the scanner. -/
def pda? : Site → Option Pda
  | .ledger _ => none
  | .scannerConfig => some ⟨.scannerConfig, []⟩
  | .eligibilityAnchor amm pool => some ⟨.eligibilityAnchor, [amm, pool]⟩
  | .launchPrice amm pool => some ⟨.launchPrice, [amm, pool]⟩

/-- The address of an account, and the bytes it is the hash of. -/
def locate : Site → Except Sdk.PdaError (Pubkey × Option (List Byte))
  | .ledger a => a.locate sha256 isOnCurve origin
  | .scannerConfig => Pda.locate sha256 isOnCurve ⟨.scannerConfig, []⟩
  | .eligibilityAnchor amm pool => Pda.locate sha256 isOnCurve ⟨.eligibilityAnchor, [amm, pool]⟩
  | .launchPrice amm pool => Pda.locate sha256 isOnCurve ⟨.launchPrice, [amm, pool]⟩

/-- The keys of an account of the ledger are genuine. -/
def Genuine : Site → Prop
  | .ledger a => a.Genuine sha256 isOnCurve origin
  | _ => True

/-- Two accounts whose own preimages collide, or those of whose owners do. -/
inductive Clash : Site → Site → Prop
  | own {s t : Site} {k k' : Pubkey} {x y : List Byte}
      (hs : s.locate sha256 isOnCurve origin = .ok (k, some x))
      (ht : t.locate sha256 isOnCurve origin = .ok (k', some y)) (h : Collides sha256 x y) :
      Clash s t
  | ledger {a b : Account} (h : Account.Clash sha256 isOnCurve origin a b) :
      Clash (.ledger a) (.ledger b)

variable {sha256 isOnCurve origin} {s t : Site} {k : Pubkey} {x y : Option (List Byte)}

/-- A site that is derived is where its derivation says. -/
theorem locate_of_pda? {p : Pda} (hp : s.pda? = some p) :
    s.locate sha256 isOnCurve origin = p.locate sha256 isOnCurve := by
  cases s with
  | ledger a => cases hp
  | _ =>
    obtain rfl := Option.some.inj hp
    rfl

/-- A derivation belongs to one site. -/
theorem eq_of_pda? {p : Pda} (hs : s.pda? = some p) (ht : t.pda? = some p) : s = t := by
  have h := hs.trans ht.symm
  cases s with
  | ledger a => cases hs
  | _ =>
    clear hs ht
    cases t <;> simp_all [pda?]

/-- An account of the scanner and one of the ledger are never at one address without a
collision. -/
theorem ledger_separated {p : Pda} {a : Account} (hs : s.pda? = some p)
    (ha : a.Genuine sha256 isOnCurve origin) (hsk : p.locate sha256 isOnCurve = .ok (k, x))
    (hak : a.locate sha256 isOnCurve origin = .ok (k, y)) : ∃ x' y', x = some x' ∧ y = some y' ∧
      Collides sha256 x' y' := by
  rcases Account.locate_cases hak with ⟨rfl, _⟩ | ⟨owner, q, haq, hq, _⟩
  · obtain ⟨y', x', rfl, hy, hc⟩ := Account.collides_of_key ha hsk
    obtain ⟨_, rfl⟩ := Prod.mk.inj (Except.ok.inj (hak.symm.trans hy))
    exact ⟨x', y', rfl, rfl, hc.symm⟩
  · rcases Account.pda_separated hsk hq with rfl | hc
    · obtain ⟨h1, h2, h3⟩ := Account.tag_of_pda? haq
      cases s with
      | ledger b => cases hs
      | scannerConfig => exact absurd (congrArg Pda.tag (Option.some.inj hs)).symm h1
      | eligibilityAnchor amm pool => exact absurd (congrArg Pda.tag (Option.some.inj hs)).symm h2
      | launchPrice amm pool => exact absurd (congrArg Pda.tag (Option.some.inj hs)).symm h3
    · exact hc

/-- A site is one of the ledger, or it is derived. -/
theorem exists_pda? (s : Site) : (∃ a, s = .ledger a) ∨ ∃ p, s.pda? = some p := by
  cases s with
  | ledger a => exact Or.inl ⟨a, rfl⟩
  | _ => exact Or.inr ⟨_, rfl⟩

/-- Two sites at one address are one site, or they clash. -/
theorem separated (hs : s.Genuine sha256 isOnCurve origin) (ht : t.Genuine sha256 isOnCurve origin)
    (hsk : s.locate sha256 isOnCurve origin = .ok (k, x))
    (htk : t.locate sha256 isOnCurve origin = .ok (k, y)) :
    s = t ∨ Clash sha256 isOnCurve origin s t := by
  rcases s.exists_pda? with ⟨a, rfl⟩ | ⟨p, hp⟩
  · rcases t.exists_pda? with ⟨b, rfl⟩ | ⟨q, hq⟩
    · exact (Account.separated hs ht hsk htk).imp (congrArg _) Clash.ledger
    · have hqk := (locate_of_pda? hq).symm.trans htk
      obtain ⟨y', x', rfl, rfl, hc⟩ := ledger_separated hq hs hqk hsk
      exact Or.inr (.own hsk htk hc.symm)
  · have hpk := (locate_of_pda? hp).symm.trans hsk
    rcases t.exists_pda? with ⟨b, rfl⟩ | ⟨q, hq⟩
    · obtain ⟨x', y', rfl, rfl, hc⟩ := ledger_separated hp ht hpk htk
      exact Or.inr (.own hsk htk hc)
    · rcases Account.pda_separated hpk ((locate_of_pda? hq).symm.trans htk) with
        rfl | ⟨x', y', rfl, rfl, hc⟩
      · exact Or.inl (eq_of_pda? hp hq)
      · exact Or.inr (.own hsk htk hc)

end Separation

end Site

/-! ## The SDK's derivations -/

/-- The address of an account with the SDK's own helpers. -/
def Account.sdkAddress (rt : Runtime) : Account → Pubkey
  | .key k => k
  | .vaultConfig => Sdk.vaultProtocolConfigPda rt vaultProgramId
  | .poolRegistry pool => Sdk.poolRegistryPda rt vaultProgramId pool
  | .salvageReceipt pool => Sdk.salvageReceiptPda rt vaultProgramId pool
  | .claimRecord pool holder => Sdk.claimRecordPda rt vaultProgramId pool holder
  | .lpHolderPoolVault pool => Sdk.lpHolderPoolVaultPda rt vaultProgramId pool
  | .vaultSolHolding pool => Sdk.vaultSolHoldingPda rt vaultProgramId pool
  | .protocolTreasury => Sdk.protocolTreasuryPda rt vaultProgramId
  | .vaultAuthority => Sdk.vaultAuthorityPda rt vaultProgramId
  | .eligibilityCert amm pool => Sdk.eligibilityCertPda rt scannerProgramId amm pool
  | .ata owner mint => Sdk.getAssociatedTokenAddressSync rt mint (owner.sdkAddress rt)

/-- The address of an account with the SDK's own helpers. -/
def Site.sdkAddress (rt : Runtime) : Site → Pubkey
  | .ledger a => a.sdkAddress rt
  | .scannerConfig => Sdk.scannerProtocolConfigPda rt scannerProgramId
  | .eligibilityAnchor amm pool => Sdk.eligibilityAnchorPda rt scannerProgramId amm pool
  | .launchPrice amm pool => Sdk.launchPricePda rt scannerProgramId amm pool

section Derivations

variable {sha256 : List Byte → Hash} {isOnCurve : Hash → Bool}
  {origin : Pubkey → Option (List (List Byte) × Pubkey)}

/-- The runtime derives addresses as the SDK's search does. -/
def Sdk.Derives (sha256 : List Byte → Hash) (isOnCurve : Hash → Bool) (rt : Runtime) : Prop :=
  ∀ seeds programId address bump,
    Sdk.findProgramAddressSync sha256 isOnCurve seeds programId = .ok (address, bump) →
      rt.findProgramAddress seeds programId = address

/-- The SDK finds each derived account where it is. -/
theorem Sdk.Derives.pda {rt : Runtime} (hrt : Sdk.Derives sha256 isOnCurve rt) {p : Pda}
    {k : Pubkey} {x : Option (List Byte)} (h : p.locate sha256 isOnCurve = .ok (k, x)) :
    rt.findProgramAddress p.seeds p.tag.program = k := by
  simp only [Pda.locate, bind_ok_iff, Prod.exists, pure_ok_iff, Prod.mk.injEq] at h
  obtain ⟨_, bump, hfind, rfl, _⟩ := h
  exact hrt _ _ _ _ hfind

/-- Where the derivation is that of the SDK, its helpers find every account of the ledger. -/
theorem Account.sdkAddress_of_locate {rt : Runtime} {a : Account} {k : Pubkey}
    {x : Option (List Byte)}
    (hrt : Sdk.Derives sha256 isOnCurve rt) (h : a.locate sha256 isOnCurve origin = .ok (k, x)) :
    a.sdkAddress rt = k := by
  induction a generalizing k x with
  | key k' =>
    simp only [locate, pure_ok_iff, Prod.mk.injEq] at h
    exact h.1
  | ata o mint ih =>
    simp only [locate, bind_ok_iff, Prod.exists] at h
    obtain ⟨address, z, ho, h⟩ := h
    rw [sdkAddress, ih ho]
    exact hrt.pda h
  | _ => exact hrt.pda h

end Derivations

/-- Accounts are at different addresses, or one sees why not : whatever the hash and the curve are,
two genuine accounts that have one address, of the ledger or of the scanner, are the same account,
or the bytes from which their own addresses (or those of their owners) are derived collide. And
where the runtime derives addresses as the SDK's search does, the SDK's helpers give the very
addresses. -/
theorem Site.address_separated (sha256 : List Byte → Hash) (isOnCurve : Hash → Bool)
    (origin : Pubkey → Option (List (List Byte) × Pubkey)) :
    (∀ (s t : Site) (k : Pubkey) (x y : Option (List Byte)), s.Genuine sha256 isOnCurve origin →
      t.Genuine sha256 isOnCurve origin → s.locate sha256 isOnCurve origin = .ok (k, x) →
      t.locate sha256 isOnCurve origin = .ok (k, y) →
      s = t ∨ Clash sha256 isOnCurve origin s t) ∧
    ∀ rt, Sdk.Derives sha256 isOnCurve rt → ∀ (s : Site) (k : Pubkey) (x : Option (List Byte)),
      s.locate sha256 isOnCurve origin = .ok (k, x) → s.sdkAddress rt = k := by
  refine ⟨fun s t k x y hs ht hsk htk => Site.separated hs ht hsk htk,
    fun rt hrt s k x h => ?_⟩
  cases s with
  | ledger a => exact Account.sdkAddress_of_locate hrt h
  | _ => exact hrt.pda h

/-- The two configurations have one seed, under two programs. The scanner's stands at
`5PK9pz4FcmiWGG3h81WquD2QpwuEj2GeAXxLGGMJkKKe`, the vault's at
`5aocH2UAFixQneb5LzoNf2m3b92AUc9zFP6oWEh6Vnda`, both with bump 255 : the first hashes are off the
curve. -/
theorem Site.locate_configs :
    Site.scannerConfig.locate Machine.sha256 (fun _ => false) (fun _ => none) =
      .ok (Bytes.ofNat 32 0x41260cdda97fa4c2098902f6d153f2ed9c494dc1d73e64bc11d99f06ede29849,
        some (Sdk.pdaPreimage [ascii "protocol_config", [255]] scannerProgramId)) ∧
    (Site.ledger .vaultConfig).locate Machine.sha256 (fun _ => false) (fun _ => none) =
      .ok (Bytes.ofNat 32 0x44179d4e72660d656825dca834f217255d4f6b608fa46690d28e65550341200d,
        some (Sdk.pdaPreimage [ascii "protocol_config", [255]] vaultProgramId)) := by
  decide +kernel

/-- A runtime that searches as the SDK does, where no hash is on the curve. -/
def searchingRuntime : Runtime where
  sha256 := Machine.sha256
  findProgramAddress seeds programId :=
    match Sdk.findProgramAddressSync Machine.sha256 (fun _ => false) seeds programId with
    | .ok (address, _) => address
    | .error _ => defaultPubkey
  rentMinimumBalance _ := 0

/-- The search over all bumps is one that the SDK may use. -/
theorem derives_searchingRuntime :
    Sdk.Derives Machine.sha256 (fun _ => false) searchingRuntime := by
  intro seeds programId address bump h
  simp only [searchingRuntime, h]

/-- Under a hash that tells nothing apart the two configurations have one address, and clash; with
the real one the SDK finds both. -/
theorem Site.address_separated_configs :
    Site.Clash (fun _ => Pubkey.fill 9) (fun _ => false) (fun _ => none) .scannerConfig
      (.ledger .vaultConfig) ∧
    Sdk.scannerProtocolConfigPda searchingRuntime scannerProgramId =
      Bytes.ofNat 32 0x41260cdda97fa4c2098902f6d153f2ed9c494dc1d73e64bc11d99f06ede29849 ∧
    Sdk.vaultProtocolConfigPda searchingRuntime vaultProgramId =
      Bytes.ofNat 32 0x44179d4e72660d656825dca834f217255d4f6b608fa46690d28e65550341200d := by
  refine ⟨?_, ?_, ?_⟩
  · exact ((Site.address_separated (fun _ => Pubkey.fill 9) (fun _ => false) fun _ => none).1
      .scannerConfig (.ledger .vaultConfig) (Pubkey.fill 9) _ _ trivial trivial rfl
      rfl).resolve_left (by simp)
  · exact (Site.address_separated Machine.sha256 (fun _ => false) fun _ => none).2 searchingRuntime
      derives_searchingRuntime .scannerConfig _ _ Site.locate_configs.1
  · exact (Site.address_separated Machine.sha256 (fun _ => false) fun _ => none).2 searchingRuntime
      derives_searchingRuntime (.ledger .vaultConfig) _ _ Site.locate_configs.2

end GraveYield
