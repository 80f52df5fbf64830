import TrustRoot.Error

/-!
# Trust root configurations

A document has a body, which never changes, and signatures by signer. The body has a content,
chosen by its author, and a creation time. A valid document has positive numbers where they matter
and a quorum that its core systems can reach; `Document.check` decides validity and names the first
rule that is broken.
-/

namespace TrustRoot

/-- What the author of a configuration chooses. -/
structure Content where
  isd : UInt16
  description : String
  version : UInt64
  coreAses : Dict CoreKeys
  rootCas : Dict Json
  pkiLogs : Dict Json
  quorumEepki : UInt32
  rootRainsKey : Bytes
  quorumOwnTrc : UInt32
  quorumCas : UInt32
  quarantine : Bool
  /-- Seconds for which this version stays valid after the next one. -/
  gracePeriod : UInt64
  deriving BEq

/-- What a document says, signatures apart. -/
structure Body extends Content where
  creationTime : UInt64
  deriving BEq

/-- A trust root configuration. -/
structure Document extends Body where
  signatures : Dict Bytes
  deriving BEq

/-- Everything that makes up a document except its creation time. -/
structure Values extends Content where
  signatures : Dict Bytes
  deriving BEq

namespace Document

/-- The rules that every document obeys. -/
structure Valid (document : Document) : Prop where
  isd_ne_zero : document.isd ≠ 0
  version_ne_zero : document.version ≠ 0
  quorum_ne_zero : document.quorumOwnTrc ≠ 0
  quorum_le_core : document.quorumOwnTrc.toNat ≤ document.coreAses.size
  quorumCas_ne_zero : document.quorumCas ≠ 0

def malformed {α : Type} (field : Field) (reason : MalformedReason) : Except Error α :=
  .error (.malformed field.name reason)

/-- The document if it is valid, or the first rule that is broken. -/
def check (document : Document) : Except Error Document :=
  if document.isd = 0 then malformed .isd .notPositive
  else if document.version = 0 then malformed .version .notPositive
  else if document.quorumOwnTrc = 0 then malformed .quorumOwnTrc .notPositive
  else if document.coreAses.size < document.quorumOwnTrc.toNat then
    malformed .quorumOwnTrc (.exceedsCore document.quorumOwnTrc document.coreAses.size)
  else if document.quorumCas = 0 then malformed .quorumCas .notPositive
  else .ok document

/-- Exactly the valid documents pass, unchanged. -/
theorem check_eq_ok_iff {document checked : Document} :
    document.check = .ok checked ↔ checked = document ∧ document.Valid := by
  unfold check malformed
  constructor
  · intro passed
    split at passed <;> try simp at passed
    split at passed <;> try simp at passed
    split at passed <;> try simp at passed
    split at passed <;> try simp at passed
    split at passed <;> try simp at passed
    rename_i isd version quorum core quorumCas
    exact ⟨passed.symm, ⟨isd, version, quorum, Nat.le_of_not_lt core, quorumCas⟩⟩
  · rintro ⟨rfl, valid⟩
    simp [valid.isd_ne_zero, valid.version_ne_zero, valid.quorum_ne_zero, valid.quorumCas_ne_zero,
      Nat.not_lt.mpr valid.quorum_le_core]

/-- The document of explicit values, created at a given time. -/
def ofValues (values : Values) (creationTime : UInt64) : Except Error Document :=
  check { values with creationTime }

def isdVersion (document : Document) : UInt16 × UInt64 := (document.isd, document.version)

/-- The identifiers of the core systems by ascending key; the first key that is none counts. -/
def identifiers (document : Document) : Except Error (List AsIdentifier) :=
  document.coreAses.keys.mapM AsIdentifier.ofText

end Document

end TrustRoot
