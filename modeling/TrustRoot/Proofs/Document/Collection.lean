import Mathlib.Data.List.Induction
import Mathlib.Data.List.Nodup
import TrustRoot.Proofs.Document.Encoding

/-!
# Collecting signatures

While signatures are collected, a document is signed in place, again and again.  A call either fails
and leaves the document as it was, or stores one signature.  The signing input is the same at every
call, since signatures are no part of it.  So in the end every signer has the signature of the last
call that did not fail, and the order of calls by different signers makes no difference.
-/

namespace TrustRoot.Document

variable {Key : Type}

/-- A call for a signature.  A scheme may answer one question in different ways, so a call comes
with the scheme as it answers then. -/
structure SigningCall (Key : Type) where
  scheme : SignatureScheme Key
  signer : String
  key : Key

namespace SigningCall

/-- Signing in place.  The document is written to once the signature is there. -/
def signInPlace (call : SigningCall Key) : EStateM Error Document Unit := do
  let document ← get
  let signature ← MonadExcept.ofExcept (document.signatureOf call.scheme call.key)
  set (document.addSignature call.signer signature)

/-- The result of working in place, and the document that is left. -/
def outcome : EStateM.Result Error Document Unit → Except Error Unit × Document
  | .ok done after => (.ok done, after)
  | .error error after => (.error error, after)

/-- What a call returns, and what it leaves of a document. -/
def perform (call : SigningCall Key) (document : Document) : Except Error Unit × Document :=
  outcome (call.signInPlace.run document)

/-- What the scheme makes of a payload in a call. -/
def answer (call : SigningCall Key) (payload : Bytes) : Except String Bytes :=
  call.scheme.sign payload call.key

/-- What `Document.sign` gives, or else the document as it was. -/
def signing (call : SigningCall Key) (document : Document) : Except Error Unit × Document :=
  match (document.sign call.scheme call.signer call.key).result with
  | .ok signed => (.ok (), signed)
  | .error error => (.error error, document)

/-- Signing in place leaves what signing gives. -/
theorem perform_eq (call : SigningCall Key) (document : Document) :
    call.perform document = call.signing document := by
  simp only [perform, signInPlace, signing, sign, Trail.result_bind, Trail.result_ofResult,
    EStateM.run_bind, EStateM.run_get]
  cases document.signatureOf call.scheme call.key <;> rfl

/-- A call does what its scheme makes of the signing input. -/
theorem perform_of_answer (call : SigningCall Key) {document : Document} {payload : Bytes}
    (input : document.signingInput false = .ok payload) :
    call.perform document =
      match call.answer payload with
      | .ok signature => (.ok (), document.addSignature call.signer signature)
      | .error message => (.error (.signaturePrimitive message), document) := by
  rw [perform_eq, signing, result_sign input, answer]
  cases call.scheme.sign payload call.key <;> rfl

end SigningCall

/-- Signatures are no part of the signing input. -/
theorem signingInput_of_toBody {first second : Document} (same : first.toBody = second.toBody) :
    first.signingInput false = second.signingInput false := by
  obtain ⟨body, signatures⟩ := first
  obtain ⟨body', signatures'⟩ := second
  obtain rfl : body = body' := same
  refine signingInput_false_eq_iff.mpr fun field different => ?_
  cases field with
  | coreAses => trivial
  | rootCas | pkiLogs => exact fun _ _ => Iff.rfl
  | signatures => exact absurd rfl different
  | _ => rfl

/-! ## One call -/

section Calls

variable {document : Document} {payload : Bytes}

theorem SigningCall.toBody_perform (call : SigningCall Key) (document : Document) :
    (call.perform document).2.toBody = document.toBody := by
  rw [call.perform_of_answer (signingInput_eq document false)]
  cases call.answer _ <;> rfl

theorem SigningCall.perform_of_error {call : SigningCall Key} {error : Error}
    (failed : (call.perform document).1 = .error error) : (call.perform document).2 = document := by
  rw [call.perform_of_answer (signingInput_eq document false)] at failed ⊢
  cases answered : call.answer _ with
  | error message => rfl
  | ok signature =>
      rw [answered] at failed
      cases failed

/-! ## Calls in sequence -/

/-- The document after some calls, of which any may fail. -/
def signAll (document : Document) (calls : List (SigningCall Key)) : Document :=
  calls.foldl (fun document call => (call.perform document).2) document

/-- The last of the calls by a signer that do not fail on a payload. -/
def lastSuccess? (payload : Bytes) (signer : String) (calls : List (SigningCall Key)) :
    Option (SigningCall Key) :=
  calls.reverse.find? fun call => call.signer == signer && (call.answer payload).isOk

theorem signAll_append_singleton (document : Document) (calls : List (SigningCall Key))
    (call : SigningCall Key) :
    document.signAll (calls ++ [call]) = (call.perform (document.signAll calls)).2 := by
  simp only [signAll, List.foldl_append, List.foldl_cons, List.foldl_nil]

theorem lastSuccess?_append_singleton (payload : Bytes) (signer : String)
    (calls : List (SigningCall Key)) (call : SigningCall Key) :
    lastSuccess? payload signer (calls ++ [call]) =
      if call.signer = signer ∧ (call.answer payload).isOk then some call
      else lastSuccess? payload signer calls := by
  rw [lastSuccess?, List.reverse_concat, List.find?_cons]
  split <;> simp_all [lastSuccess?]

theorem toBody_signAll (document : Document) (calls : List (SigningCall Key)) :
    (document.signAll calls).toBody = document.toBody := by
  induction calls using List.reverseRecOn with
  | nil => rfl
  | append_singleton calls call ih => rw [signAll_append_singleton, call.toBody_perform, ih]

theorem signingInput_signAll (input : document.signingInput false = .ok payload)
    (calls : List (SigningCall Key)) :
    (document.signAll calls).signingInput false = .ok payload := by
  rw [signingInput_of_toBody (toBody_signAll document calls), input]

/-- A signer has the signature of the last call that did not fail, and what the document held if
there was none. -/
theorem get?_signAll (input : document.signingInput false = .ok payload)
    (calls : List (SigningCall Key)) (signer : String) :
    (document.signAll calls).signatures.get? signer =
      match lastSuccess? payload signer calls with
      | some call => (call.answer payload).toOption
      | none => document.signatures.get? signer := by
  induction calls using List.reverseRecOn with
  | nil => rfl
  | append_singleton calls call ih =>
      rw [signAll_append_singleton, call.perform_of_answer (signingInput_signAll input calls),
        lastSuccess?_append_singleton]
      cases answered : call.answer payload with
      | error message => simpa [Except.isOk, Except.toBool] using ih
      | ok signature =>
          by_cases same : call.signer = signer
          · simp [same, answered, Except.isOk, Except.toBool, Except.toOption]
          · have other : signer ≠ call.signer := Ne.symm same
            simpa [same, other, Dict.get?_insert] using ih

/-- Only the last successful calls count. -/
theorem signAll_congr (input : document.signingInput false = .ok payload)
    {calls calls' : List (SigningCall Key)}
    (same : ∀ signer, lastSuccess? payload signer calls = lastSuccess? payload signer calls') :
    document.signAll calls = document.signAll calls' := by
  have body : (document.signAll calls).toBody = (document.signAll calls').toBody := by
    rw [toBody_signAll, toBody_signAll]
  have signatures : (document.signAll calls).signatures =
      (document.signAll calls').signatures := by
    ext1 signer
    rw [get?_signAll input, get?_signAll input, same]
  calc
    document.signAll calls
      = ⟨(document.signAll calls).toBody, (document.signAll calls).signatures⟩ := rfl
    _ = ⟨(document.signAll calls').toBody, (document.signAll calls').signatures⟩ := by
        rw [body, signatures]

/-- Among calls by different signers, the last successful call of a signer is the only one. -/
theorem lastSuccess?_eq_some_iff {calls : List (SigningCall Key)} {signer : String}
    {call : SigningCall Key} (different : (calls.map SigningCall.signer).Nodup) :
    lastSuccess? payload signer calls = some call ↔
      call ∈ calls ∧ call.signer = signer ∧ (call.answer payload).isOk = true := by
  constructor
  · intro found
    have passes := List.find?_some found
    have listed := List.mem_of_find?_eq_some found
    simp only [Bool.and_eq_true, beq_iff_eq] at passes
    exact ⟨List.mem_reverse.mp listed, passes⟩
  · rintro ⟨listed, by_signer, succeeds⟩
    cases found : lastSuccess? payload signer calls with
    | none =>
        have fails := List.find?_eq_none.mp found call (List.mem_reverse.mpr listed)
        simp [by_signer, succeeds] at fails
    | some other =>
        have passes := List.find?_some found
        have listed' := List.mem_reverse.mp (List.mem_of_find?_eq_some found)
        simp only [Bool.and_eq_true, beq_iff_eq] at passes
        have same : other.signer = call.signer := passes.1.trans by_signer.symm
        rw [List.inj_on_of_nodup_map different listed' listed same]

theorem signAll_perm (document : Document) {calls calls' : List (SigningCall Key)}
    (order : calls.Perm calls') (different : (calls.map SigningCall.signer).Nodup) :
    document.signAll calls = document.signAll calls' := by
  have different' := (order.map SigningCall.signer).nodup_iff.mp different
  refine signAll_congr (signingInput_eq document false) fun signer => ?_
  ext call
  rw [lastSuccess?_eq_some_iff different, lastSuccess?_eq_some_iff different', order.mem_iff]

end Calls

/-- Every call does what signing does.  It keeps the body and the signing input, and one that fails
keeps the document.  After any calls a signer has the signature of the signing input from the last
call that did not fail, and without such a call what the document held.  So calls with the same last
successes leave one document and one text, and calls by different signers do so in any order. -/
theorem signing_collects (document : Document) :
    ∃ payload, document.signingInput false = .ok payload ∧
      (∀ (calls : List (SigningCall Key)) (call : SigningCall Key),
        let earlier := document.signAll calls
        let later := (call.perform earlier).2
        call.perform earlier = call.signing earlier ∧
        document.signAll (calls ++ [call]) = later ∧ later.toBody = earlier.toBody ∧
        later.signingInput false = earlier.signingInput false ∧
        ∀ error, (call.perform earlier).1 = .error error → later = earlier) ∧
      (∀ (calls : List (SigningCall Key)) (signer : String),
        (∀ call, lastSuccess? payload signer calls = some call →
          ∃ signature, call.answer payload = .ok signature ∧
            (document.signAll calls).signatures.get? signer = some signature) ∧
        (lastSuccess? payload signer calls = none →
          (document.signAll calls).signatures.get? signer = document.signatures.get? signer)) ∧
      (∀ calls calls' : List (SigningCall Key),
        (∀ signer, lastSuccess? payload signer calls = lastSuccess? payload signer calls') →
        document.signAll calls = document.signAll calls' ∧
        ∀ codec, (document.signAll calls).pack codec false =
          (document.signAll calls').pack codec false) ∧
      ∀ calls calls' : List (SigningCall Key),
        calls.Perm calls' → (calls.map SigningCall.signer).Nodup →
        document.signAll calls = document.signAll calls' ∧
        ∀ codec, (document.signAll calls).pack codec false =
          (document.signAll calls').pack codec false := by
  obtain ⟨payload, input⟩ : ∃ payload, document.signingInput false = .ok payload :=
    ⟨_, signingInput_eq document false⟩
  refine ⟨payload, input, ?_, ?_, ?_, ?_⟩
  · intro calls call earlier later
    have body : later.toBody = earlier.toBody := call.toBody_perform earlier
    exact ⟨call.perform_eq earlier, signAll_append_singleton document calls call, body,
      signingInput_of_toBody body, fun _ => SigningCall.perform_of_error⟩
  · intro calls signer
    have held := get?_signAll input calls signer
    constructor
    · intro call last
      rw [last] at held
      cases answered : call.answer payload with
      | error message =>
          have succeeds := List.find?_some last
          simp [answered, Except.isOk, Except.toBool] at succeeds
      | ok signature =>
          refine ⟨signature, rfl, ?_⟩
          simp only [held, answered, Except.toOption]
    · intro none_succeeds
      rw [held, none_succeeds]
  · intro calls calls' same
    have equal := signAll_congr input same
    exact ⟨equal, fun codec => by rw [equal]⟩
  · intro calls calls' order different
    have equal := signAll_perm document order different
    exact ⟨equal, fun codec => by rw [equal]⟩

/-- A key of one octet is its own signature, and other keys are unusable. -/
def octetKeys : SignatureScheme Bytes where
  sign _ key := if key.length = 1 then .ok key else .error "not an octet"
  verify _ signature publicKey := .ok (signature == publicKey)

/-- A core system signs twice and then fails, a second one fails, and a stranger signs. -/
def mixedCalls : List (SigningCall Bytes) :=
  [⟨octetKeys, "1-1", [1]⟩, ⟨octetKeys, "1-2", []⟩, ⟨octetKeys, "1-1", [3]⟩,
    ⟨octetKeys, "2-7", [5]⟩, ⟨octetKeys, "1-1", [6, 6]⟩]

/-- The calls that count. -/
def lastCalls : List (SigningCall Bytes) := [⟨octetKeys, "2-7", [5]⟩, ⟨octetKeys, "1-1", [3]⟩]

theorem signing_collects_mixed :
    (sample.signAll mixedCalls).signatures.get? "1-1" = some [3] ∧
      (sample.signAll mixedCalls).signatures.get? "1-2" = none ∧
      sample.signAll lastCalls.reverse = sample.signAll mixedCalls ∧
      sample.signAll lastCalls = sample.signAll lastCalls.reverse := by
  obtain ⟨payload, -, -, final, sameLast, anyOrder⟩ := @signing_collects Bytes sample
  obtain ⟨_, answered, held⟩ := (final mixedCalls "1-1").1 ⟨octetKeys, "1-1", [3]⟩ rfl
  cases answered
  have unsigned := (final mixedCalls "1-2").2 rfl
  refine ⟨held, unsigned, (sameLast lastCalls.reverse mixedCalls ?_).1,
    (anyOrder lastCalls lastCalls.reverse (List.reverse_perm _).symm (by decide)).1⟩
  intro signer
  by_cases first : signer = "1-1"
  · subst first
    rfl
  by_cases second : signer = "1-2"
  · subst second
    rfl
  by_cases third : signer = "2-7"
  · subst third
    rfl
  · simp [lastSuccess?, lastCalls, mixedCalls, Ne.symm first, Ne.symm second, Ne.symm third]

end TrustRoot.Document
