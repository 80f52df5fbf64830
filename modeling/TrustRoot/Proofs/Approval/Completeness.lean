import TrustRoot.Proofs.Approval.Decision
import TrustRoot.Proofs.Document.Collection

/-!
# Honest signatures count

Signing and verification work out the signing input each for itself, at different states of a
document.  They come to the same octets, so the signature of an honest call verifies, and once
enough core systems have signed last with the key that the reference knows, the quorum is met.  What
else was signed before, in between or by others does not matter.
-/

namespace TrustRoot

open Document (SigningCall)

variable {Key : Type}

namespace Document

/-- The scheme signs in a call whatever it is asked to, and what it signs verifies under the public
key. -/
def SigningCall.Honest (call : SigningCall Key) (scheme : SignatureScheme Key)
    (publicKey : Key → Bytes) : Prop :=
  ∀ payload key, ∃ signature, call.scheme.sign payload key = .ok signature ∧
    scheme.verify payload signature (publicKey key) = .ok true

/-- The last of the calls by a signer. -/
def lastCall? (signer : String) (calls : List (SigningCall Key)) : Option (SigningCall Key) :=
  calls.reverse.find? fun call => call.signer == signer

theorem lastCall?_append_singleton (signer : String) (calls : List (SigningCall Key))
    (call : SigningCall Key) :
    lastCall? signer (calls ++ [call]) =
      if call.signer = signer then some call else lastCall? signer calls := by
  rw [lastCall?, List.reverse_concat, List.find?_cons]
  split <;> simp_all [lastCall?]

theorem mem_of_lastCall? {signer : String} {calls : List (SigningCall Key)}
    {call : SigningCall Key} (last : lastCall? signer calls = some call) : call ∈ calls :=
  List.mem_reverse.mp (List.mem_of_find?_eq_some last)

/-- Where no call fails, the last call is the last successful one. -/
theorem lastSuccess?_eq_lastCall? {payload : Bytes} {calls : List (SigningCall Key)}
    (succeed : ∀ call ∈ calls, (call.answer payload).isOk = true) (signer : String) :
    lastSuccess? payload signer calls = lastCall? signer calls := by
  induction calls using List.reverseRecOn with
  | nil => rfl
  | append_singleton calls call ih =>
      have succeeds := succeed call (by simp)
      have earlier := ih fun other listed => succeed other (by simp [listed])
      rw [lastSuccess?_append_singleton, lastCall?_append_singleton, earlier]
      simp only [succeeds, and_true]

theorem SigningCall.Honest.isOk {call : SigningCall Key} {scheme : SignatureScheme Key}
    {publicKey : Key → Bytes} (honest : call.Honest scheme publicKey) (payload : Bytes) :
    (call.answer payload).isOk = true := by
  obtain ⟨signature, signed, -⟩ := honest payload call.key
  rw [SigningCall.answer, signed]
  rfl

/-- The signature of the last honest call is held in the end, and verifies. -/
theorem verifies_of_lastCall? {document : Document} {payload : Bytes}
    (input : document.signingInput false = .ok payload) {calls : List (SigningCall Key)}
    {scheme : SignatureScheme Key} {publicKey : Key → Bytes}
    (honest : ∀ call ∈ calls, call.Honest scheme publicKey) {signer : String}
    {call : SigningCall Key} (last : lastCall? signer calls = some call) :
    ∃ signature, (document.signAll calls).signatures.get? signer = some signature ∧
      scheme.verify payload signature (publicKey call.key) = .ok true := by
  obtain ⟨signature, signed, verified⟩ := honest call (mem_of_lastCall? last) payload call.key
  have lastSuccess : lastSuccess? payload signer calls = lastCall? signer calls :=
    lastSuccess?_eq_lastCall? (fun call listed => (honest call listed).isOk payload) signer
  refine ⟨signature, ?_, verified⟩
  rw [get?_signAll input, lastSuccess, last]
  simp only [SigningCall.answer, signed, Except.toOption]

end Document

namespace Quorum

open Document

variable {scheme : SignatureScheme Key} {reference candidate : Document}

/-- The last call under the identifier of a core system uses the key that the reference knows. -/
def Endorsed (reference : Document) (publicKey : Key → Bytes) (calls : List (SigningCall Key))
    (signer : String) : Prop :=
  ∃ call keys, lastCall? signer calls = some call ∧
    reference.coreAses.get? signer = some keys ∧ publicKey call.key = keys.onlineKey

/-- Different core systems with signatures that verify meet the quorum if they are enough. -/
theorem verify_of_checks {payload : Bytes} (input : candidate.signingInput false = .ok payload)
    {signers : List String} (different : signers.Nodup)
    (enough : reference.quorumOwnTrc.toNat ≤ signers.length)
    (checks : ∀ signer ∈ signers, Checks scheme candidate reference payload signer (.ok true)) :
    ∃ counted, (verify scheme candidate reference).result = .ok counted ∧
      ∀ signer ∈ signers, signer ∈ counted.valid := by
  have tallied : (tally scheme candidate reference).result =
      .ok (Tally.collect reference.quorumOwnTrc (standings scheme candidate reference payload)) :=
    tally_eq_ok_iff.mpr ⟨payload, input, rfl⟩
  have divides := divides_collect scheme candidate reference payload
  generalize Tally.collect reference.quorumOwnTrc _ = counted at tallied divides
  have listed : ∀ signer ∈ signers, signer ∈ counted.valid := fun signer member =>
    (divides.valid signer).mpr (checks signer member)
  have met : counted.required.toNat ≤ counted.valid.length := by
    rw [divides.required]
    exact Nat.le_trans enough (List.subperm_of_subset different listed).length_le
  refine ⟨counted, ?_, listed⟩
  rw [result_verify tallied, if_pos met]

/-- If the last calls under enough identifiers of core systems use the keys that the reference
knows, the quorum is met and these identifiers are among the valid ones, whatever the document held
and whatever else was signed.  Every call does what signing does. -/
theorem quorum_of_lastCalls {publicKey : Key → Bytes} {calls : List (SigningCall Key)}
    (honest : ∀ call ∈ calls, call.Honest scheme publicKey) (reference document : Document)
    {signers : List String} (different : signers.Nodup)
    (enough : reference.quorumOwnTrc.toNat ≤ signers.length)
    (endorsed : ∀ signer ∈ signers, Endorsed reference publicKey calls signer) :
    (∀ call ∈ calls, ∀ earlier, call.perform earlier = call.signing earlier) ∧
      ∃ counted, (verify scheme (document.signAll calls) reference).result = .ok counted ∧
        ∀ signer ∈ signers, signer ∈ counted.valid := by
  refine ⟨fun call _ => call.perform_eq, ?_⟩
  obtain ⟨payload, input⟩ : ∃ payload, document.signingInput false = .ok payload :=
    ⟨_, signingInput_eq document false⟩
  refine verify_of_checks (signingInput_signAll input calls) different enough ?_
  intro signer listed
  obtain ⟨call, keys, last, core, known⟩ := endorsed signer listed
  obtain ⟨signature, held, verified⟩ := verifies_of_lastCall? input honest last
  exact ⟨keys, signature, core, held, known ▸ verified⟩

/-- A core system signs with a wrong key and then with its own, a stranger signs, a second core
system signs, and a third one replaces its signature by a wrong one. -/
def collectedCalls : List (SigningCall Bytes) :=
  [⟨.ownKey, "1-1", [8]⟩, ⟨.ownKey, "1-3", [3]⟩, ⟨.ownKey, "1-1", [1]⟩,
    ⟨.ownKey, "2-7", [1]⟩, ⟨.ownKey, "1-2", [2]⟩, ⟨.ownKey, "1-3", [9]⟩]

theorem quorum_of_lastCalls_collected :
    ["1-1", "1-2"].Nodup ∧ threeCore.quorumOwnTrc.toNat ≤ 2 ∧
      (∀ signer ∈ ["1-1", "1-2"], Endorsed threeCore id collectedCalls signer) ∧
      ∃ counted,
        (verify SignatureScheme.ownKey (mixedSignatures.signAll collectedCalls) threeCore).result =
          .ok counted ∧ ∀ signer ∈ ["1-1", "1-2"], signer ∈ counted.valid := by
  have honest : ∀ call ∈ collectedCalls, call.Honest SignatureScheme.ownKey id := by
    intro call listed payload key
    have scheme : call.scheme = SignatureScheme.ownKey := by
      simp only [collectedCalls, List.mem_cons, List.not_mem_nil, or_false] at listed
      rcases listed with rfl | rfl | rfl | rfl | rfl | rfl <;> rfl
    rw [scheme]
    exact ⟨key, rfl, congrArg Except.ok (beq_self_eq_true key)⟩
  have endorsed : ∀ signer ∈ ["1-1", "1-2"], Endorsed threeCore id collectedCalls signer := by
    intro signer listed
    simp only [List.mem_cons, List.not_mem_nil, or_false] at listed
    rcases listed with rfl | rfl
    · exact ⟨⟨.ownKey, "1-1", [1]⟩, ⟨"", [1], "", []⟩, rfl, rfl, rfl⟩
    · exact ⟨⟨.ownKey, "1-2", [2]⟩, ⟨"", [2], "", []⟩, rfl, rfl, rfl⟩
  have different : ["1-1", "1-2"].Nodup := by decide
  have enough : threeCore.quorumOwnTrc.toNat ≤ 2 := by decide
  obtain ⟨-, approved⟩ :=
    quorum_of_lastCalls honest threeCore mixedSignatures different enough endorsed
  exact ⟨different, enough, endorsed, approved⟩

end Quorum

end TrustRoot
