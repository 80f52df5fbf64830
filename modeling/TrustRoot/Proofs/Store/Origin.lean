import TrustRoot.Proofs.Approval.Completeness
import TrustRoot.Proofs.Approval.Locality
import TrustRoot.Proofs.Document.Construction
import TrustRoot.Proofs.Store.Isolation

/-!
# Where the documents of a store come from

Every document that comes up in a store was built or read in some way and perhaps signed, whatever
was done before.  It therefore obeys the rules, and as a reference it asks for at least one valid
signature and for no more than its core systems can give (`obeys_rules_of_perform`).  As sharing is
never seen, one step is looked at on documents that share nothing.
-/

namespace TrustRoot

namespace Store

/-! ## Actions -/

/-- What may be done in a store: the usual steps, each with a scheme and keys of its own, reading an
object, and packing a document and reading it again. -/
inductive Action : Type 1 where
  | step {Key : Type} (scheme : SignatureScheme Key) (next : Step Key)
  | read (name : String) (object : Dict Json)
  | repack (source target : String) (codec : PayloadCodec) (compress : Bool)

/-- An action on a store, if the document that it is about is there. -/
def act (store : Store) : Action → Option (Audited Store)
  | .step scheme next => store.step scheme next
  | .read name object => some do
    let document ← .ofResult (Document.ofWire object)
    return store.put name document
  | .repack source target codec compress => (store.get? source).map fun document => do
    let packed ← .ofResult (document.pack codec compress)
    let document ← Document.ofRaw codec compress packed
    return store.put target document

def perform (store : Store) (actions : List Action) : Store :=
  actions.foldl (fun store action => settle store (store.act action)) store

/-! ## Documents that share nothing -/

/-- Every document was built or read in some way, and perhaps signed. -/
def AllConstructed (documents : Dict Document) : Prop :=
  ∀ name document, documents.get? name = some document → document.Constructed

theorem AllConstructed.insert {documents : Dict Document} (all : AllConstructed documents)
    {document : Document} (constructed : document.Constructed) (name : String) :
    AllConstructed (documents.insert name document) := by
  intro other held found
  rw [Dict.get?_insert] at found
  split at found
  · obtain rfl := Option.some.inj found
    exact constructed
  · exact all other held found

theorem AllConstructed.erase {documents : Dict Document} (all : AllConstructed documents)
    (name : String) : AllConstructed (documents.erase name) := by
  intro other held found
  rw [Dict.get?_erase] at found
  split at found
  · cases found
  · exact all other held found

/-- A step adds documents that were built, read or signed, or takes one away. -/
theorem AllConstructed.step {Key : Type} {scheme : SignatureScheme Key} {next : Step Key}
    {documents after : Dict Document} (all : AllConstructed documents)
    {audited : Audited (Dict Document)} (called : stepCopies scheme documents next = some audited)
    (done : audited.result = .ok after) : AllConstructed after := by
  cases next with
  | build name values creationTime =>
      cases called
      obtain ⟨document, built, inserted⟩ := Trail.result_bind_eq_ok_iff.mp done
      cases inserted
      exact all.insert (.ofValues built) name
  | parse name codec compressed raw =>
      cases called
      obtain ⟨document, read, inserted⟩ := Trail.result_bind_eq_ok_iff.mp done
      cases inserted
      exact all.insert (.ofRaw read) name
  | clone source target =>
      obtain ⟨document, held, rfl⟩ := Option.map_eq_some_iff.mp called
      cases done
      exact all.insert (all source document held) target
  | sign name signer key =>
      obtain ⟨document, held, rfl⟩ := Option.map_eq_some_iff.mp called
      obtain ⟨signed, signing, inserted⟩ := Trail.result_bind_eq_ok_iff.mp done
      cases inserted
      exact all.insert (.sign (all name document held) signing) name
  | signed source target signer key =>
      obtain ⟨document, held, rfl⟩ := Option.map_eq_some_iff.mp called
      obtain ⟨signed, signing, inserted⟩ := Trail.result_bind_eq_ok_iff.mp done
      cases inserted
      exact all.insert (.sign (all source document held) signing) target
  | drop name =>
      cases called
      cases done
      exact all.erase name

/-! ## Stores -/

/-- Every document of a store has a bag, and was built or read in some way. -/
structure Grounded (store : Store) : Prop where
  wellFormed : store.WellFormed
  constructed : AllConstructed store.copies

theorem grounded_empty : empty.Grounded :=
  ⟨wellFormed_empty, fun _ _ found => nomatch found⟩

variable {store : Store}

theorem Grounded.put (grounded : store.Grounded) {document : Document}
    (constructed : document.Constructed) (name : String) : (store.put name document).Grounded := by
  refine ⟨grounded.wellFormed.put name document, ?_⟩
  rw [copies_put grounded.wellFormed]
  exact grounded.constructed.insert constructed name

/-- A step does to the documents of a store what it does to documents that share nothing. -/
theorem Grounded.step {Key : Type} {scheme : SignatureScheme Key} {next : Step Key}
    (grounded : store.Grounded) {audited : Audited Store}
    (called : store.step scheme next = some audited) {after : Store}
    (done : audited.result = .ok after) : after.Grounded := by
  have calledCopies : stepCopies scheme store.copies next = some (copies <$> audited) := by
    rw [← copies_step grounded.wellFormed, called]
    rfl
  have doneCopies : (copies <$> audited).result = .ok after.copies := by
    rw [map_eq_pure_bind, Trail.result_bind, done]
    rfl
  exact ⟨grounded.wellFormed.step called done, grounded.constructed.step calledCopies doneCopies⟩

/-- An action that succeeds leaves a grounded store. -/
theorem Grounded.act (grounded : store.Grounded) {action : Action} {audited : Audited Store}
    (called : store.act action = some audited) {after : Store}
    (done : audited.result = .ok after) : after.Grounded := by
  cases action with
  | step scheme next => exact grounded.step called done
  | read name object =>
      cases called
      obtain ⟨document, read, put⟩ := Trail.result_bind_eq_ok_iff.mp done
      cases put
      exact grounded.put (.ofWire read) name
  | repack source target codec compress =>
      obtain ⟨document, held, rfl⟩ := Option.map_eq_some_iff.mp called
      obtain ⟨packed, -, done⟩ := Trail.result_bind_eq_ok_iff.mp done
      obtain ⟨again, read, put⟩ := Trail.result_bind_eq_ok_iff.mp done
      cases put
      exact grounded.put (.ofRaw read) target

theorem Grounded.settle (grounded : store.Grounded) (action : Action) :
    (settle store (store.act action)).Grounded := by
  unfold Store.settle
  split
  · rename_i after events called
    exact grounded.act called rfl
  · exact grounded

theorem Grounded.perform (grounded : store.Grounded) (actions : List Action) :
    (store.perform actions).Grounded := by
  induction actions generalizing store with
  | nil => exact grounded
  | cons action actions ih => exact ih (grounded.settle action)

/-- Whatever is done, every document was built or read in some way, and perhaps signed. -/
theorem constructed_of_perform {actions : List Action} {name : String} {document : Document}
    (held : (empty.perform actions).get? name = some document) : document.Constructed := by
  rw [← get?_copies] at held
  exact (grounded_empty.perform actions).constructed name document held

end Store

/-! ## References that obey the rules -/

/-- The rules in numbers. -/
theorem Document.Valid.bounds {document : Document} (valid : document.Valid) :
    1 ≤ document.isd.toNat ∧ 1 ≤ document.version.toNat ∧ 1 ≤ document.quorumCas.toNat ∧
      1 ≤ document.quorumOwnTrc.toNat ∧ document.quorumOwnTrc.toNat ≤ document.coreAses.size := by
  refine ⟨?_, ?_, ?_, ?_, valid.quorum_le_core⟩
  · exact Nat.pos_of_ne_zero fun zero => valid.isd_ne_zero (UInt16.toNat_inj.mp zero)
  · exact Nat.pos_of_ne_zero fun zero => valid.version_ne_zero (UInt64.toNat_inj.mp zero)
  · exact Nat.pos_of_ne_zero fun zero => valid.quorumCas_ne_zero (UInt32.toNat_inj.mp zero)
  · exact Nat.pos_of_ne_zero fun zero => valid.quorum_ne_zero (UInt32.toNat_inj.mp zero)

namespace Quorum

variable {Key : Type} {scheme : SignatureScheme Key} {candidate reference : Document}

/-- A quorum is met by at least one valid signature. -/
theorem exists_checks_of_verify (valid : reference.Valid) {counted : Tally}
    (met : (verify scheme candidate reference).result = .ok counted) :
    ∃ payload signer, candidate.signingInput false = .ok payload ∧ signer ∈ counted.valid ∧
      Checks scheme candidate reference payload signer (.ok true) := by
  have tallied := (verify_eq_ok_iff.mp met).1
  obtain ⟨payload, input, divides⟩ := exists_divides_of_tally tallied
  have enough := (exists_verify_iff tallied).mp ⟨counted, met⟩
  rw [divides.required] at enough
  have positive : 0 < counted.valid.length := valid.bounds.2.2.2.1.trans enough
  obtain ⟨signer, listed⟩ := List.exists_mem_of_length_pos positive
  exact ⟨payload, signer, input, listed, (divides.valid signer).mp listed⟩

/-- A candidate without signatures meets no quorum. -/
theorem verify_of_unsigned (valid : reference.Valid) (unsigned : candidate.signatures = .empty) :
    (verify scheme candidate reference).result =
      .error (.quorumNotMet reference.quorumOwnTrc 0) := by
  obtain ⟨counted, tallied, divides⟩ :=
    exists_divides scheme reference (Document.signingInput_eq candidate false)
  have nobody : counted.valid = [] := by
    apply List.eq_nil_iff_forall_not_mem.mpr
    intro signer listed
    obtain ⟨-, signature, -, held, -⟩ := (divides.valid signer).mp listed
    rw [unsigned] at held
    cases held
  have positive := valid.bounds.2.2.2.1
  rw [result_verify tallied, divides.required, nobody, List.length_nil, if_neg (by omega)]

/-- The core systems of a reference can meet its quorum. -/
theorem exists_verify_of_all_check (valid : reference.Valid) {payload : Bytes}
    (input : candidate.signingInput false = .ok payload)
    (checks : ∀ signer ∈ reference.coreAses.keys,
      Checks scheme candidate reference payload signer (.ok true)) :
    ∃ counted, (verify scheme candidate reference).result = .ok counted := by
  have enough : reference.quorumOwnTrc.toNat ≤ reference.coreAses.keys.length := by
    rw [Dict.length_keys]
    exact valid.quorum_le_core
  obtain ⟨counted, met, -⟩ :=
    verify_of_checks input (Dict.nodup_keys reference.coreAses) enough checks
  exact ⟨counted, met⟩

end Quorum

namespace Store

open Quorum

/-- Every document that comes up in a store obeys the rules.  A candidate meets its quorum only with
a valid signature of one of its core systems, and never without signatures.  Valid signers are
different core systems, of which there are as many as the quorum asks for, so that it is met if all
of them sign. -/
theorem obeys_rules_of_perform {actions : List Action} {name : String} {reference : Document}
    (held : (empty.perform actions).get? name = some reference) :
    (1 ≤ reference.isd.toNat ∧ 1 ≤ reference.version.toNat ∧ 1 ≤ reference.quorumCas.toNat ∧
      1 ≤ reference.quorumOwnTrc.toNat ∧
      reference.quorumOwnTrc.toNat ≤ reference.coreAses.size) ∧
    ∀ {Key : Type} (scheme : SignatureScheme Key) (candidate : Document),
      (∀ counted, (verify scheme candidate reference).result = .ok counted →
        ∃ payload signer, candidate.signingInput false = .ok payload ∧ signer ∈ counted.valid ∧
          Checks scheme candidate reference payload signer (.ok true)) ∧
      (candidate.signatures = .empty → (verify scheme candidate reference).result =
        .error (.quorumNotMet reference.quorumOwnTrc 0)) ∧
      (∀ counted, (tally scheme candidate reference).result = .ok counted →
        counted.required.toNat ≤ reference.coreAses.keys.length ∧
          counted.valid.Subperm reference.coreAses.keys) ∧
      ∀ payload, candidate.signingInput false = .ok payload →
        (∀ signer ∈ reference.coreAses.keys,
          Checks scheme candidate reference payload signer (.ok true)) →
        ∃ counted, (verify scheme candidate reference).result = .ok counted := by
  have valid := (constructed_of_perform held).valid
  refine ⟨valid.bounds, fun scheme candidate => ⟨fun _ => exists_checks_of_verify valid,
    verify_of_unsigned valid, ?_, fun _ => exists_verify_of_all_check valid⟩⟩
  intro counted tallied
  obtain ⟨payload, -, divides⟩ := exists_divides_of_tally tallied
  rw [divides.required, Dict.length_keys]
  exact ⟨valid.quorum_le_core, divides.valid_subperm⟩

/-- A document is built, and its core system signs a copy. -/
def signedCopy : List Action :=
  [.step .ownKey (.build "original" Document.sampleValues 1),
    .step .ownKey (.signed "original" "copy" "1-1" [7])]

theorem obeys_rules_of_perform_signedCopy :
    ∃ reference, (empty.perform signedCopy).get? "copy" = some reference ∧
      reference.quorumOwnTrc = 1 ∧
      (verify .ownKey { reference with signatures := .empty } reference).result =
        .error (.quorumNotMet 1 0) := by
  have outcome : ((empty.perform signedCopy).get? "copy").map (·.quorumOwnTrc) = some 1 := by rfl
  obtain ⟨reference, held, one⟩ := Option.map_eq_some_iff.mp outcome
  obtain ⟨-, unsigned, -⟩ :=
    (obeys_rules_of_perform held).2 .ownKey { reference with signatures := .empty }
  exact ⟨reference, held, one, one ▸ unsigned rfl⟩

end Store

end TrustRoot
