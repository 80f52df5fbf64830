import Mathlib.Order.Fin.Basic
import TrustRoot.Proofs.Approval.Rotation

/-!
# Chains of accepted documents

In a chain every document is accepted after the one before it, so the core systems that approve and
the number of them that is needed may change at every step.  One step counts the version up by one
and keeps the isolation domain, and by induction versions count up along the chain; nothing of the
chain is therefore accepted again later on.
-/

namespace TrustRoot.Rotation

variable {Key : Type} {scheme : SignatureScheme Key}

/-- At least two documents, of which each is accepted after the one before. -/
structure Chain (scheme : SignatureScheme Key) where
  length : Nat
  positive : 0 < length
  documents : Fin (length + 1) → Document
  accepted : ∀ index : Fin length,
    Accepts scheme (documents index.castSucc) (documents index.succ)

namespace Chain

theorem isd_eq (chain : Chain scheme) (index : Fin (chain.length + 1)) :
    (chain.documents index).isd = (chain.documents 0).isd := by
  induction index using Fin.induction with
  | zero => rfl
  | succ index ih => exact (chain.accepted index).mayFollow.isd.trans ih

/-- Versions count up by one. -/
theorem version_toNat (chain : Chain scheme) (index : Fin (chain.length + 1)) :
    (chain.documents index).version.toNat = (chain.documents 0).version.toNat + index := by
  induction index using Fin.induction with
  | zero => rfl
  | succ index ih =>
      have step := (chain.accepted index).mayFollow.version
      rw [step, ih, Fin.val_succ, Fin.val_castSucc, Nat.add_assoc]

theorem version_injective (chain : Chain scheme) {first second : Fin (chain.length + 1)}
    (same : (chain.documents first).version = (chain.documents second).version) :
    first = second := by
  have versions := congrArg UInt64.toNat same
  rw [chain.version_toNat first, chain.version_toNat second] at versions
  exact Fin.ext (Nat.add_left_cancel versions)

/-- A document of a chain is accepted after no other document of the chain than the one before. -/
theorem succ_of_accepts (chain : Chain scheme) {first second : Fin (chain.length + 1)}
    (accepted : Accepts scheme (chain.documents first) (chain.documents second)) :
    (second : Nat) = first + 1 := by
  have version := accepted.mayFollow.version
  rw [chain.version_toNat first, chain.version_toNat second] at version
  omega

theorem creationTime_monotone (chain : Chain scheme) :
    Monotone fun index => (chain.documents index).creationTime.toNat := by
  apply Fin.monotone_iff_le_succ.mpr
  intro index
  exact UInt64.le_iff_toNat_le.mp (chain.accepted index).mayFollow.creationTime

/-- Every document of a chain precedes or succeeds another one. -/
theorem quarantine_eq_false (chain : Chain scheme) (index : Fin (chain.length + 1)) :
    (chain.documents index).quarantine = false := by
  induction index using Fin.cases with
  | zero => exact (chain.accepted ⟨0, chain.positive⟩).mayFollow.quarantine
  | succ index => exact (chain.accepted index).mayFollow.quarantine'

/-- Along a chain the isolation domain stays, versions count up without repetition, a document is
accepted at its own place only, creation times do not fall, nothing is an early announcement, and
every document after the first is approved by core systems of the one before.  The largest version
ends a chain. -/
theorem chain_safe (chain : Chain scheme) :
    (∀ index, (chain.documents index).isd = (chain.documents 0).isd) ∧
    (∀ index : Fin (chain.length + 1), (chain.documents index).version.toNat =
      (chain.documents 0).version.toNat + index) ∧
    (∀ first second, (chain.documents first).version = (chain.documents second).version →
      first = second) ∧
    (∀ first second, Accepts scheme (chain.documents first) (chain.documents second) →
      (second : Nat) = first + 1) ∧
    (∀ earlier later, earlier ≤ later →
      (chain.documents earlier).creationTime ≤ (chain.documents later).creationTime) ∧
    (∀ index, (chain.documents index).quarantine = false) ∧
    (∀ index : Fin chain.length, Quorum.Approved scheme (chain.documents index.castSucc)
      (chain.documents index.succ)) ∧
    ∀ previous candidate : Document, previous.version.toNat = 2 ^ 64 - 1 →
      ¬ Accepts scheme previous candidate := by
  refine ⟨chain.isd_eq, chain.version_toNat, fun _ _ => chain.version_injective,
    fun _ _ => chain.succ_of_accepts, ?_, chain.quarantine_eq_false, ?_,
    fun _ _ => not_accepts_of_version_eq_max⟩
  · intro earlier later order
    exact UInt64.le_iff_toNat_le.mpr (chain.creationTime_monotone order)
  · intro index
    exact (chain.accepted index).approved

/-- A version of an isolation domain with these keys of core systems. -/
def versionWith (version : UInt64) (core : List (String × Bytes)) (quorum : UInt32)
    (signatures : List (String × Bytes)) : Document where
  isd := 1
  description := ""
  version := version
  creationTime := 100 + version
  coreAses := .ofList (core.map fun (identifier, key) => (identifier, ⟨"", key, "", []⟩))
  rootCas := .empty
  pkiLogs := .empty
  quorumEepki := 0
  rootRainsKey := []
  quorumOwnTrc := quorum
  quorumCas := 1
  quarantine := false
  gracePeriod := 0
  signatures := .ofList signatures

/-- Two core systems take over from one, and then a third from both of them. -/
def rollover : Chain SignatureScheme.ownKey where
  length := 2
  positive := by decide
  documents
    | 0 => versionWith 8 [("1-1", [1])] 1 []
    | 1 => versionWith 9 [("1-2", [2]), ("1-3", [3])] 2 [("1-1", [1])]
    | 2 => versionWith 10 [("1-4", [4])] 1 [("1-2", [2]), ("1-3", [3]), ("1-9", [])]
  accepted := by decide

theorem chain_safe_rollover :
    (∀ index : Fin (rollover.length + 1),
      (rollover.documents index).version.toNat = 8 + index) ∧
    ∀ index : Fin rollover.length, Quorum.Approved .ownKey (rollover.documents index.castSucc)
      (rollover.documents index.succ) := by
  obtain ⟨-, version, -, -, -, -, approved, -⟩ := chain_safe rollover
  exact ⟨version, approved⟩

end Chain

end TrustRoot.Rotation
