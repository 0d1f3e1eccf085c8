import Mathlib.Tactic

/-!
# Errors

The error enumerations of the two programs, and the faults of the runtime and of the
account constraints that a handler can end with.
-/

namespace GraveYield

/-- `GraveScannerError`. -/
inductive ScannerError where
  | unauthorized
  | poolNotEligible
  | launchPriceNotFound
  | unsupportedAmm
  | mathOverflow
  | invalidClock
  | invariantViolation
  | ammAdapterUnimplemented
  | lockerAdapterUnimplemented
  | poolDataParseError
  | protocolPaused
  | criteriaBitmapMismatch
  | anchorNotFound
  | epochConfirmationPending
  | anchorInvalidated
  | anchorNotStale
  | certTtlBelowMinimum
  | lockerMarkerAccountRequired
  | lockerLockEvidenceRequired
  | invalidLockerAccount
  | lockerAccountMismatch
  | attestationMissing
  | invalidAttestationOffsets
  | attestationOracleMismatch
  | attestationBindingMismatch
  | attestationTimestampInvalid
  | attestationStale
  | attestationSlotHashMismatch
  | attestationSlotInvalid
  | invalidLaunchPrice
  | launchPriceMintMismatch
  | certStillValid
  deriving DecidableEq

/-- `GraveVaultError`. -/
inductive VaultError where
  | unauthorized
  | invalidEligibilityCert
  | eligibilityCertExpired
  | protocolPaused
  | invalidShareSplit
  | protocolShareExceedsCeiling
  | lpHolderPoolUnsweepable
  | slippageExceeded
  | priorityFeeExceedsCeiling
  | mathOverflow
  | invalidClaimProof
  | claimAlreadyProcessed
  | belowDustThreshold
  | preflightFailed
  | timelockNotElapsed
  | ammRedemptionFailed
  | jupiterSwapFailed
  | ammCpiUnimplemented
  | invalidSnapshotData
  | unsupportedBaseToken
  | dustNothingToSweep
  | dustAlreadySwept
  | invariantViolation
  deriving DecidableEq

/-- Failures outside the programs' own enumerations : account constraints, the System and
SPL Token programs, and called programs. -/
inductive Fault where
  | accountNotInitialized
  | accountAlreadyInUse
  | constraint
  | insufficientFunds
  | tokenError
  | cpiFailed
  deriving DecidableEq

/-- What an instruction can fail with. -/
inductive ProgramError where
  | scanner (e : ScannerError)
  | vault (e : VaultError)
  | fault (e : Fault)
  deriving DecidableEq

end GraveYield
