import GraveYield.Basic
import GraveYield.Lib.Checked
import GraveYield.Lib.PairTree
import GraveYield.Lib.Run
import GraveYield.Lib.Word
import GraveYield.Merkle
import GraveYield.TreeShape
import GraveYield.MerkleBinding
import GraveYield.Attestation
import GraveYield.Errors
import GraveYield.Authenticity
import GraveYield.Criteria
import GraveYield.Runtime
import GraveYield.Adapters
import GraveYield.Scanner
import GraveYield.Certification
import GraveYield.Lifecycle
import GraveYield.Staleness
import GraveYield.SlotHashes
import GraveYield.Replay
import GraveYield.Ledger
import GraveYield.Vault
import GraveYield.Salvage
import GraveYield.Orientation
import GraveYield.World
import GraveYield.Lib.ProRata
import GraveYield.Lib.Tally
import GraveYield.Lib.Supply
import GraveYield.Solvency
import GraveYield.Authority
import GraveYield.Rent
import GraveYield.Snapshot
import GraveYield.Reconciliation
import GraveYield.Determinism
import GraveYield.Artifact
import GraveYield.Claims
import GraveYield.Settlement
import GraveYield.SwapFloor
import GraveYield.SplToken
import GraveYield.Custody
import GraveYield.Route
import GraveYield.Dust
import GraveYield.Bookkeeping
import GraveYield.Exit
import GraveYield.Flow
import GraveYield.Lib.Owned
import GraveYield.Governance
import GraveYield.Lib.Commute
import GraveYield.Confluence
import GraveYield.Pause
import GraveYield.Addresses
import GraveYield.Lib.Refine
import GraveYield.Estate
import GraveYield.Refinement
import GraveYield.Provenance
import GraveYield.Lib.Codec
import GraveYield.Dispatch
import GraveYield.Threshold
import GraveYield.ConfigBounds
import GraveYield.VaultBounds
import GraveYield.Split
import GraveYield.Sdk.Merkle
import GraveYield.LockEvidence
import GraveYield.Lib.PermUpTo
import GraveYield.AccountOrder
import GraveYield.Locks
import GraveYield.Enumeration
import GraveYield.Rpc
import GraveYield.Holders
import GraveYield.Lib.InsertionMap
import GraveYield.Sdk.RaydiumV4
import GraveYield.Sdk.Snapshot
import GraveYield.Lib.Borsh
import GraveYield.Lib.Wire
import GraveYield.Lib.Base58
import GraveYield.Lib.Js
import GraveYield.Sdk.Borsh
import GraveYield.Sdk.PriorityFee
import GraveYield.Sdk.Client
import GraveYield.Sdk.History
import GraveYield.Sdk.LastSwap
import GraveYield.Sdk.LaunchPrice
import GraveYield.Sdk.DryRun
import GraveYield.Indexer.Submit
import GraveYield.Indexer.Scan
import GraveYield.Indexer.Queue
import GraveYield.Slippage
import GraveYield.Residue
import GraveYield.Withdrawn
import GraveYield.Layout
import GraveYield.Sdk.Accounts
import GraveYield.Sdk.Instructions
import GraveYield.Sdk.Attestation
import GraveYield.Ops.MerkleArtifact
import GraveYield.Ops.VaultObserver
import GraveYield.Ops.ReceiptChecks
import GraveYield.Ops.Alerts
import GraveYield.Ops.ClaimRollups
