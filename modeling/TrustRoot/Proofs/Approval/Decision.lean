import TrustRoot.Proofs.Approval.Tally
import TrustRoot.Proofs.Document.Coverage
import TrustRoot.Proofs.Document.RoundTrip

/-!
# The decision on a quorum

Checks of signatures may complete in any order.  Taking up one more outcome keeps a tally equal to
the collection of all outcomes so far, and a collection does not depend on their order, so every run
ends with the same tally.  Its sets divide the signers of the candidate by what their signatures are
worth, and the number of valid signers alone decides on the quorum.
-/

namespace TrustRoot

/-- A set of names is determined by its members. -/
theorem nameSet_congr {first second : List String}
    (same : ∀ name, name ∈ first ↔ name ∈ second) : nameSet first = nameSet second := by
  apply congrArg Dict.keys
  ext key value
  have found (names : List String) :
      (Dict.ofList (names.map fun name => (name, ()))).get? key = some value ↔ key ∈ names := by
    rw [← mem_nameSet, nameSet, Dict.mem_keys_iff]
    constructor
    · intro held
      exact ⟨value, held⟩
    · rintro ⟨_, held⟩
      exact held
  rw [found, found, same]

namespace Tally

/-- The tally before any check is complete. -/
def start (required : UInt32) : Tally := ⟨required, [], [], []⟩

/-- The tally after one more check is complete. -/
def record (tally : Tally) (check : String × Standing) : Tally :=
  match check.2 with
  | .foreign => { tally with foreign := nameSet (check.1 :: tally.foreign) }
  | .valid => { tally with valid := nameSet (check.1 :: tally.valid) }
  | .mismatch | .fault _ => { tally with rejected := nameSet (check.1 :: tally.rejected) }

theorem signersWith_cons (test : Standing → Bool) (check : String × Standing)
    (seen : List (String × Standing)) :
    signersWith test (check :: seen) =
      if test check.2 then nameSet (check.1 :: signersWith test seen)
      else signersWith test seen := by
  split
  · rename_i passes
    apply nameSet_congr
    intro name
    simp [passes, signersWith]
  · rename_i fails
    simp [signersWith, fails]

/-- One more check makes one more outcome to collect. -/
theorem record_collect (required : UInt32) (seen : List (String × Standing))
    (check : String × Standing) :
    (collect required seen).record check = collect required (check :: seen) := by
  obtain ⟨signer, worth⟩ := check
  -- The outcome passes the test of one set and fails those of the others.
  cases worth <;>
    simp [record, collect, signersWith_cons, Standing.isValid, Standing.isRejected,
      Standing.isForeign]

/-- Outcomes that come one by one are collected, the last of them first. -/
theorem foldl_record (required : UInt32) (seen arrival : List (String × Standing)) :
    arrival.foldl record (collect required seen) = collect required (arrival.reverse ++ seen) := by
  induction arrival generalizing seen with
  | nil => rfl
  | cons check rest ih =>
      rw [List.foldl_cons, record_collect, ih, List.reverse_cons, List.append_assoc]
      rfl

theorem collect_perm (required : UInt32) {first second : List (String × Standing)}
    (same : first.Perm second) : collect required first = collect required second := by
  have sets (test : Standing → Bool) : signersWith test first = signersWith test second := by
    apply nameSet_congr
    intro name
    exact ((same.filter _).map _).mem_iff
  simp only [collect, sets]

/-- Whatever the order in which checks complete, the tally is the same in the end. -/
theorem foldl_record_start (required : UInt32) {arrival standings : List (String × Standing)}
    (order : arrival.Perm standings) :
    arrival.foldl record (start required) = collect required standings := by
  calc
    arrival.foldl record (start required) = collect required (arrival.reverse ++ []) :=
      foldl_record required [] arrival
    _ = collect required standings := by
      apply collect_perm
      rw [List.append_nil]
      exact (List.reverse_perm arrival).trans order

end Tally

namespace Quorum

variable {Key : Type} {scheme : SignatureScheme Key} {candidate reference : Document}

/-- A signer of the candidate is a core system of the reference, and the check of the signature
under the online key of that system has this outcome. -/
def Checks (scheme : SignatureScheme Key) (candidate reference : Document) (payload : Bytes)
    (signer : String) (outcome : Except String Bool) : Prop :=
  ∃ keys signature, reference.coreAses.get? signer = some keys ∧
    candidate.signatures.get? signer = some signature ∧
    scheme.verify payload signature keys.onlineKey = outcome

/-- The sets of a tally divide the signers of a candidate by what their signatures over a payload
are worth to a reference. -/
structure Divides (scheme : SignatureScheme Key) (candidate reference : Document)
    (payload : Bytes) (counted : Tally) : Prop where
  required : counted.required = reference.quorumOwnTrc
  valid : ∀ signer, signer ∈ counted.valid ↔
    Checks scheme candidate reference payload signer (.ok true)
  rejected : ∀ signer, signer ∈ counted.rejected ↔
    Checks scheme candidate reference payload signer (.ok false) ∨
      ∃ fault, Checks scheme candidate reference payload signer (.error fault)
  foreign : ∀ signer, signer ∈ counted.foreign ↔
    signer ∈ candidate.signatures.keys ∧ signer ∉ reference.coreAses.keys
  disjoint : (counted.valid ++ counted.rejected ++ counted.foreign).Nodup
  complete : (counted.valid ++ counted.rejected ++ counted.foreign).Perm candidate.signatures.keys

theorem mem_signersWith_standings {test : Standing → Bool} {payload : Bytes} {signer : String} :
    signer ∈ Tally.signersWith test (standings scheme candidate reference payload) ↔
      ∃ signature, candidate.signatures.get? signer = some signature ∧
        test (standing scheme reference payload signer signature) = true := by
  simp only [Tally.mem_signersWith, mem_standings]
  constructor
  · rintro ⟨_, ⟨signature, held, rfl⟩, passes⟩
    exact ⟨signature, held, passes⟩
  · rintro ⟨signature, held, passes⟩
    exact ⟨_, ⟨signature, held, rfl⟩, passes⟩

theorem standing_isRejected_iff {payload : Bytes} {signer : String} {signature : Bytes} :
    (standing scheme reference payload signer signature).isRejected = true ↔
      ∃ keys, reference.coreAses.get? signer = some keys ∧
        (scheme.verify payload signature keys.onlineKey = .ok false ∨
          ∃ fault, scheme.verify payload signature keys.onlineKey = .error fault) := by
  unfold standing
  cases reference.coreAses.get? signer with
  | none => simp [Standing.isRejected]
  | some keys =>
      rcases outcome : scheme.verify payload signature keys.onlineKey with fault | (_ | _) <;>
        simp [outcome, Standing.isRejected]

theorem standing_isForeign_iff {payload : Bytes} {signer : String} {signature : Bytes} :
    (standing scheme reference payload signer signature).isForeign = true ↔
      signer ∉ reference.coreAses.keys := by
  rw [Dict.mem_keys_iff]
  unfold standing
  cases reference.coreAses.get? signer with
  | none => simp [Standing.isForeign]
  | some keys =>
      rcases outcome : scheme.verify payload signature keys.onlineKey with fault | (_ | _) <;>
        simp [outcome, Standing.isForeign]

/-- Tests that no standing passes together select different signers. -/
theorem ne_of_mem_signersWith {test test' : Standing → Bool}
    (exclusive : ∀ worth, test worth = true → test' worth = false) {payload : Bytes} :
    ∀ signer ∈ Tally.signersWith test (standings scheme candidate reference payload),
    ∀ signer' ∈ Tally.signersWith test' (standings scheme candidate reference payload),
      signer ≠ signer' := by
  rintro signer listed _ listed' rfl
  obtain ⟨signature, held, passes⟩ := mem_signersWith_standings.mp listed
  obtain ⟨signature', held', passes'⟩ := mem_signersWith_standings.mp listed'
  -- A signer has one signature, and so one standing.
  obtain rfl : signature = signature' := Option.some.inj (held.symm.trans held')
  rw [exclusive _ passes] at passes'
  cases passes'

/-- The sets of a collection are disjoint. -/
theorem nodup_collect (required : UInt32) (payload : Bytes) :
    let counted := Tally.collect required (standings scheme candidate reference payload)
    (counted.valid ++ counted.rejected ++ counted.foreign).Nodup := by
  apply List.nodup_append.mpr
  refine ⟨List.nodup_append.mpr ⟨Tally.nodup_signersWith _ _, Tally.nodup_signersWith _ _, ?_⟩,
    Tally.nodup_signersWith _ _, ?_⟩
  · apply ne_of_mem_signersWith
    rintro (_ | _ | _ | _) <;> simp [Standing.isValid, Standing.isRejected]
  · intro signer listed
    rcases List.mem_append.mp listed with valid | rejected
    · refine ne_of_mem_signersWith ?_ signer valid
      rintro (_ | _ | _ | _) <;> simp [Standing.isValid, Standing.isForeign]
    · refine ne_of_mem_signersWith ?_ signer rejected
      rintro (_ | _ | _ | _) <;> simp [Standing.isRejected, Standing.isForeign]

/-- The sets of a collection make up the signers of the candidate. -/
theorem mem_collect_iff (required : UInt32) {payload : Bytes} {signer : String} :
    let counted := Tally.collect required (standings scheme candidate reference payload)
    signer ∈ counted.valid ++ counted.rejected ++ counted.foreign ↔
      signer ∈ candidate.signatures.keys := by
  simp only [Tally.collect, List.mem_append, mem_signersWith_standings, Dict.mem_keys_iff]
  constructor
  · rintro ((⟨signature, held, -⟩ | ⟨signature, held, -⟩) | ⟨signature, held, -⟩) <;>
      exact ⟨signature, held⟩
  · rintro ⟨signature, held⟩
    cases worth : standing scheme reference payload signer signature with
    | valid => exact .inl (.inl ⟨signature, held, by rw [worth]; rfl⟩)
    | mismatch | fault => exact .inl (.inr ⟨signature, held, by rw [worth]; rfl⟩)
    | foreign => exact .inr ⟨signature, held, by rw [worth]; rfl⟩

theorem divides_collect (scheme : SignatureScheme Key) (candidate reference : Document)
    (payload : Bytes) :
    Divides scheme candidate reference payload
      (Tally.collect reference.quorumOwnTrc (standings scheme candidate reference payload)) := by
  constructor
  case required => rfl
  case valid =>
    intro signer
    refine mem_signersWith_standings.trans ?_
    simp only [standing_isValid_iff]
    constructor
    · rintro ⟨signature, held, keys, core, verified⟩
      exact ⟨keys, signature, core, held, verified⟩
    · rintro ⟨keys, signature, core, held, verified⟩
      exact ⟨signature, held, keys, core, verified⟩
  case rejected =>
    intro signer
    refine mem_signersWith_standings.trans ?_
    simp only [standing_isRejected_iff]
    constructor
    · rintro ⟨signature, held, keys, core, failed | ⟨fault, failed⟩⟩
      · exact .inl ⟨keys, signature, core, held, failed⟩
      · exact .inr ⟨fault, keys, signature, core, held, failed⟩
    · rintro (⟨keys, signature, core, held, failed⟩ | ⟨fault, keys, signature, core, held, failed⟩)
      · exact ⟨signature, held, keys, core, .inl failed⟩
      · exact ⟨signature, held, keys, core, .inr ⟨fault, failed⟩⟩
  case foreign =>
    intro signer
    refine mem_signersWith_standings.trans ?_
    simp only [standing_isForeign_iff, @Dict.mem_keys_iff _ candidate.signatures]
    constructor
    · rintro ⟨signature, held, absent⟩
      exact ⟨⟨signature, held⟩, absent⟩
    · rintro ⟨⟨signature, held⟩, absent⟩
      exact ⟨signature, held, absent⟩
  case disjoint => exact nodup_collect _ payload
  case complete =>
    apply (List.perm_ext_iff_of_nodup (nodup_collect _ payload) (Dict.nodup_keys _)).mpr
    intro signer
    exact mem_collect_iff _

/-- The result of the decision is the tally if enough signers are valid, and says how many there are
otherwise. -/
theorem result_verify {counted : Tally}
    (tallied : (tally scheme candidate reference).result = .ok counted) :
    (verify scheme candidate reference).result =
      if counted.required.toNat ≤ counted.valid.length then .ok counted
      else .error (.quorumNotMet counted.required counted.valid.length) := by
  have isMet : counted.isMet = true ↔ counted.required.toNat ≤ counted.valid.length :=
    decide_eq_true_iff
  rw [verify, Trail.result_bind, tallied]
  change (if counted.isMet = true then _ else _ : Audited Tally).result = _
  by_cases met : counted.required.toNat ≤ counted.valid.length
  · rw [if_pos met, if_pos (isMet.mpr met)]
    rfl
  · rw [if_neg met, if_neg (mt isMet.mp met)]
    rfl

/-- There always is a tally.  Its sets divide the signers of the candidate, it is the same in
whatever order the checks complete, and it is the result of the decision exactly if the valid
signers are as many as the reference requires. -/
theorem tally_decides (scheme : SignatureScheme Key) (candidate reference : Document) :
    ∃ payload counted, candidate.signingInput false = .ok payload ∧
      (tally scheme candidate reference).result = .ok counted ∧
      Divides scheme candidate reference payload counted ∧
      (∀ arrival : List (String × Standing),
        arrival.Perm (standings scheme candidate reference payload) →
        arrival.foldl Tally.record (Tally.start reference.quorumOwnTrc) = counted) ∧
      (verify scheme candidate reference).result =
        if reference.quorumOwnTrc.toNat ≤ counted.valid.length then .ok counted
        else .error (.quorumNotMet reference.quorumOwnTrc counted.valid.length) := by
  obtain ⟨payload, signed⟩ : ∃ payload, candidate.signingInput false = .ok payload :=
    ⟨_, Document.signingInput_eq candidate false⟩
  have tallied : (tally scheme candidate reference).result =
      .ok (Tally.collect reference.quorumOwnTrc
        (standings scheme candidate reference payload)) :=
    tally_eq_ok_iff.mpr ⟨payload, signed, rfl⟩
  refine ⟨payload, _, signed, tallied, divides_collect scheme candidate reference payload, ?_, ?_⟩
  · intro arrival order
    exact Tally.foldl_record_start reference.quorumOwnTrc order
  · exact result_verify tallied

/-- A key is its own signature, and nothing is no signature at all. -/
def ownKeyOrFault : SignatureScheme Bytes where
  sign _ key := .ok key
  verify _ signature publicKey :=
    if signature = [] then .error "no signature" else .ok (signature == publicKey)

/-- A reference that requires two of three core systems. -/
def threeCore : Document :=
  { Document.sample with
    coreAses := .ofList [("1-1", ⟨"", [1], "", []⟩), ("1-2", ⟨"", [2], "", []⟩),
      ("1-3", ⟨"", [3], "", []⟩)]
    quorumOwnTrc := 2 }

/-- A candidate with a good, a wrong, an unusable and a foreign signature. -/
def mixedSignatures : Document :=
  { Document.sample with
    signatures := .ofList [("1-1", [1]), ("1-2", [8]), ("1-3", []), ("1-4", [4])] }

theorem tally_decides_mixed :
    ∃ payload, mixedSignatures.signingInput false = .ok payload ∧
      (standings ownKeyOrFault mixedSignatures threeCore payload).reverse.Perm
        (standings ownKeyOrFault mixedSignatures threeCore payload) ∧
      (standings ownKeyOrFault mixedSignatures threeCore payload).reverse.foldl Tally.record
        (Tally.start 2) = ⟨2, ["1-1"], ["1-2", "1-3"], ["1-4"]⟩ ∧
      (verify ownKeyOrFault mixedSignatures threeCore).result = .error (.quorumNotMet 2 1) := by
  obtain ⟨payload, counted, signed, -, -, anyOrder, decided⟩ :=
    tally_decides ownKeyOrFault mixedSignatures threeCore
  have worth : standings ownKeyOrFault mixedSignatures threeCore payload =
      [("1-1", .valid), ("1-2", .mismatch), ("1-3", .fault (.signaturePrimitive "no signature")),
        ("1-4", .foreign)] := rfl
  have same : counted = ⟨2, ["1-1"], ["1-2", "1-3"], ["1-4"]⟩ := by
    rw [← anyOrder _ (List.Perm.refl _), worth]
    decide
  rw [same] at anyOrder decided
  exact ⟨payload, signed, List.reverse_perm _, anyOrder _ (List.reverse_perm _), decided⟩

end Quorum

end TrustRoot
