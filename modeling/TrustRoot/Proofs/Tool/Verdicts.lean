import TrustRoot.Proofs.Document.Encoding
import TrustRoot.Tool.Command

/-!
# Verdicts and output

A command writes its report line by line, and what has been written stays there when a later step
fails.  Still nothing is written by a command that fails, because everything that can fail comes
before the first line (`writes_run`).  The verdicts of the two commands that check signatures are
those of the library: whatever the library refuses once both files have been read is rejected, and
never a failure (`verdicts_agree`).
-/

namespace TrustRoot.Tool

/-- Writing to an output that takes everything. -/
abbrev Writing := EStateM Failure Bytes

namespace Writing

def octets (written : Bytes) : Writing Unit := modify fun output => output ++ written

def line (text : String) : Writing Unit := octets (textLines [text])

/-- A step that writes nothing. -/
def step {α : Type} (trail : Trail Failure α) : Writing α := MonadExcept.ofExcept trail.result

end Writing

namespace Command

open Writing

section

variable (service : Service Ed25519.KeyPair) (compressed : Bool)

def writeVerification (candidate reference : Bytes) : Writing Verdict := do
  let candidate ← step (readDocument service compressed .candidate candidate)
  let reference ← step (readDocument service compressed .reference reference)
  let tally ← step ((Quorum.tally service.scheme candidate reference).mapError .operation)
  line s!"required: {tally.required}"
  line s!"valid:    {listing tally.valid}"
  line s!"rejected: {listing tally.rejected}"
  line s!"foreign:  {listing tally.foreign}"
  if tally.isMet then
    line s!"quorum met ({tally.achieved} of {tally.required})"
    return .accepted
  else
    line s!"quorum NOT met ({tally.achieved} of {tally.required})"
    return .rejected

def writeRotation (predecessor successor : Bytes) : Writing Verdict := do
  let predecessor ← step (readDocument service compressed .predecessor predecessor)
  let successor ← step (readDocument service compressed .successor successor)
  match ← step (service.verifyRotation predecessor successor).attempt with
  | .ok tally =>
    line (acceptedLine predecessor successor tally)
    return .accepted
  | .error reason =>
    if reason.isRejection then
      line s!"rejected: {reason.message}"
      return .rejected
    else step (.fail (.operation reason))

/-- A command on the contents of its files, as it writes its report. -/
def write : Command Bytes → Writing Verdict
  | .display raw includeSignatures => do
    let document ← step (readDocument service compressed .subject raw)
    line (document.text includeSignatures)
    return .accepted
  | .fingerprint raw => do
    let document ← step (readDocument service compressed .subject raw)
    let digest ← step (.ofResult (document.fingerprint.mapError .operation))
    line (Hex.encodeText digest)
    return .accepted
  | .canonical raw includeSignatures => do
    let document ← step (readDocument service compressed .subject raw)
    let payload ← step (.ofResult ((document.signingInput includeSignatures).mapError .operation))
    octets payload
    return .accepted
  | .sign raw signer seedHex => do
    octets (← step (signRaw service compressed raw signer seedHex))
    return .accepted
  | .verify candidate reference => writeVerification service compressed candidate reference
  | .rotate predecessor successor => writeRotation service compressed predecessor successor

end

/-! ## Writing and reporting -/

/-- The end of a command: its report added to the output, or the output as it was. -/
def settle (output : Bytes) : Except Failure Report → EStateM.Result Failure Bytes Verdict
  | .ok report => .ok report.verdict (output ++ report.output)
  | .error failure => .error failure output

/-- What is written is the report, all of it or nothing. -/
def Writes (writing : Writing Verdict) (report : Trail Failure Report) : Prop :=
  ∀ output, writing.run output = settle output report.result

/-- As long as nothing is written, a failure leaves the output as it was. -/
theorem Writes.step {α : Type} (first : Trail Failure α) {next : α → Writing Verdict}
    {report : α → Trail Failure Report} (following : ∀ value, Writes (next value) (report value)) :
    Writes (Writing.step first >>= next) (first >>= report) := by
  intro output
  rw [Trail.result_bind, EStateM.run_bind]
  unfold Writing.step
  cases first.result with
  | error failure => rfl
  | ok value => exact following value output

theorem writes_octets (written : Bytes) (verdict : Verdict) :
    Writes (octets written >>= fun _ => pure verdict) (pure ⟨verdict, written⟩) :=
  fun _ => rfl

theorem writes_line (text : String) (verdict : Verdict) :
    Writes (line text >>= fun _ => pure verdict) (pure ⟨verdict, textLines [text]⟩) :=
  writes_octets _ _

theorem textLines_cons (text : String) (texts : List String) :
    textLines (text :: texts) = textLines [text] ++ textLines texts := by
  simp [textLines, Bytes.ofText_append]

/-- A line ahead is the first line of the report. -/
theorem Writes.line {writing : Writing Verdict} {verdict : Verdict} {texts : List String}
    (following : Writes writing (pure ⟨verdict, textLines texts⟩)) (text : String) :
    Writes (line text >>= fun _ => writing) (pure ⟨verdict, textLines (text :: texts)⟩) := by
  intro output
  change writing.run (output ++ textLines [text]) = _
  rw [following]
  simp only [Trail.result_pure, settle, textLines_cons text texts, List.append_assoc]

variable {service : Service Ed25519.KeyPair} {compressed : Bool}

theorem writes_verification (candidate reference : Bytes) :
    Writes (writeVerification service compressed candidate reference)
      (verifyRaw service compressed candidate reference) := by
  refine Writes.step _ fun candidate => Writes.step _ fun reference => Writes.step _ fun tally => ?_
  rw [tallyLines]
  cases tally.isMet with
  | false => exact .line (.line (.line (.line (writes_line _ .rejected) _) _) _) _
  | true => exact .line (.line (.line (.line (writes_line _ .accepted) _) _) _) _

theorem writes_rotation (predecessor successor : Bytes) :
    Writes (writeRotation service compressed predecessor successor)
      (rotateRaw service compressed predecessor successor) := by
  refine Writes.step _ fun predecessor => Writes.step _ fun successor =>
    Writes.step _ fun outcome => ?_
  cases outcome with
  | ok tally => exact writes_line _ .accepted
  | error reason =>
      change Writes (if reason.isRejection = true then _ else _) (if _ then _ else _)
      split
      · exact writes_line _ .rejected
      · exact fun _ => rfl

/-- A command writes its report, all of it or nothing. -/
theorem writes_run (command : Command Bytes) :
    Writes (command.write service compressed) (command.run service compressed) := by
  cases command with
  | display raw includeSignatures => exact Writes.step _ fun _ => writes_line _ _
  | fingerprint raw => exact Writes.step _ fun _ => Writes.step _ fun _ => writes_line _ _
  | canonical raw includeSignatures =>
      exact Writes.step _ fun _ => Writes.step _ fun _ => writes_octets _ _
  | sign raw signer seedHex => exact Writes.step _ fun _ => writes_octets _ _
  | verify candidate reference => exact writes_verification candidate reference
  | rotate predecessor successor => exact writes_rotation predecessor successor

/-- A command that fails has written nothing. -/
theorem eq_of_run_write_eq_error {command : Command Bytes} {output after : Bytes}
    {failure : Failure}
    (failed : (command.write service compressed).run output = .error failure after) :
    after = output := by
  rw [writes_run command output] at failed
  cases result : (command.run service compressed).result with
  | ok report =>
      rw [result] at failed
      cases failed
  | error other =>
      rw [result] at failed
      cases failed
      rfl

/-! ## Verdicts on two files -/

/-- A command on two files fails exactly if one of them cannot be read, of two the first one, and
otherwise accepts exactly what the library approves. -/
structure Decides (service : Service Ed25519.KeyPair) (compressed : Bool) (role role' : Role)
    (approve : Document → Document → Audited Tally) (command : Bytes → Bytes → Writing Verdict) :
    Prop where
  fails : ∀ raw raw' output,
    (∃ failure after, (command raw raw').run output = .error failure after) ↔
      (∃ error, (service.parse compressed raw).result = .error error) ∨
        ∃ error, (service.parse compressed raw').result = .error error
  first : ∀ raw raw' output error, (service.parse compressed raw).result = .error error →
    (command raw raw').run output = .error (.document role error) output
  second : ∀ raw raw' output document error,
    (service.parse compressed raw).result = .ok document →
    (service.parse compressed raw').result = .error error →
    (command raw raw').run output = .error (.document role' error) output
  both : ∀ raw raw' output document document',
    (service.parse compressed raw).result = .ok document →
    (service.parse compressed raw').result = .ok document' →
    ∃ verdict report, (command raw raw').run output = .ok verdict (output ++ report) ∧
      (verdict = .accepted ↔ ∃ tally, (approve document document').result = .ok tally)

/-- A command decides if it comes to a verdict on any two documents. -/
theorem decides_of_judge {role role' : Role} {approve : Document → Document → Audited Tally}
    {command : Bytes → Bytes → Writing Verdict} {judge : Document → Document → Trail Failure Report}
    (writes : ∀ raw raw', Writes (command raw raw') (do
      let document ← readDocument service compressed role raw
      let document' ← readDocument service compressed role' raw'
      judge document document'))
    (judges : ∀ document document', ∃ report, (judge document document').result = .ok report ∧
      (report.verdict = .accepted ↔ ∃ tally, (approve document document').result = .ok tally)) :
    Decides service compressed role role' approve command := by
  have first {raw raw' output : Bytes} {error : Error}
      (unread : (service.parse compressed raw).result = .error error) :
      (command raw raw').run output = .error (.document role error) output := by
    rw [writes, Trail.result_bind, readDocument, Trail.result_mapError, unread]
    rfl
  have second {raw raw' output : Bytes} {document : Document} {error : Error}
      (read : (service.parse compressed raw).result = .ok document)
      (unread : (service.parse compressed raw').result = .error error) :
      (command raw raw').run output = .error (.document role' error) output := by
    simp only [writes raw raw' output, Trail.result_bind, readDocument, Trail.result_mapError, read,
      unread]
    rfl
  have both {raw raw' output : Bytes} {document document' : Document}
      (read : (service.parse compressed raw).result = .ok document)
      (read' : (service.parse compressed raw').result = .ok document') :
      ∃ verdict report, (command raw raw').run output = .ok verdict (output ++ report) ∧
        (verdict = .accepted ↔ ∃ tally, (approve document document').result = .ok tally) := by
    obtain ⟨report, judged, agrees⟩ := judges document document'
    refine ⟨report.verdict, report.output, ?_, agrees⟩
    simp only [writes raw raw' output, Trail.result_bind, readDocument, Trail.result_mapError, read,
      read']
    change settle output (judge document document').result = _
    rw [judged]
    rfl
  refine ⟨fun raw raw' output => ?_, fun _ _ _ _ => first, fun _ _ _ _ _ => second,
    fun _ _ _ _ _ => both⟩
  cases read : (service.parse compressed raw).result with
  | error error => simp [first read]
  | ok document =>
      cases read' : (service.parse compressed raw').result with
      | error error => simp [second read read']
      | ok document' =>
          obtain ⟨verdict, report, ran, -⟩ := @both raw raw' output _ _ read read'
          simp [ran]

theorem decides_verify (service : Service Ed25519.KeyPair) (compressed : Bool) :
    Decides service compressed .candidate .reference service.verifyQuorum
      fun candidate reference => (Command.verify candidate reference).write service compressed := by
  refine decides_of_judge writes_verification fun candidate reference => ?_
  obtain ⟨counted, tallied⟩ := Quorum.exists_tally service.scheme candidate reference
  refine ⟨⟨if counted.isMet then .accepted else .rejected, textLines (tallyLines counted)⟩, ?_, ?_⟩
  · rw [Trail.result_bind, Trail.result_mapError, tallied]
    rfl
  · have approved : (∃ tally, (service.verifyQuorum candidate reference).result = .ok tally) ↔
        counted.isMet = true := by
      simp only [Service.verifyQuorum, Quorum.verify_eq_ok_iff, tallied, Except.ok.injEq,
        exists_eq_left']
    rw [approved]
    cases counted.isMet <;> simp

theorem decides_rotate (service : Service Ed25519.KeyPair) (compressed : Bool) :
    Decides service compressed .predecessor .successor service.verifyRotation
      fun predecessor successor =>
        (Command.rotate predecessor successor).write service compressed := by
  refine decides_of_judge writes_rotation fun predecessor successor => ?_
  have attempted : ((service.verifyRotation predecessor successor).attempt :
      Trail Failure (Except Error Tally)).result =
        .ok (service.verifyRotation predecessor successor).result := rfl
  rw [Trail.result_bind, attempted]
  cases outcome : (service.verifyRotation predecessor successor).result with
  | ok tally => exact ⟨_, rfl, fun _ => ⟨tally, rfl⟩, fun _ => rfl⟩
  | error reason =>
      -- Whatever the library refuses is a rejection, so the command does not fail.
      have rejection : reason.isRejection = true := Rotation.isRejection_of_verify outcome
      refine ⟨⟨.rejected, textLines [s!"rejected: {reason.message}"]⟩, ?_, ?_⟩
      · change (if reason.isRejection = true then _ else _ : Trail Failure Report).result = _
        rw [if_pos rejection]
        rfl
      · simp

/-- Whoever is accepted as a successor is accepted by the quorum of the predecessor. -/
theorem verify_of_rotate {predecessor successor output after : Bytes}
    (accepted : ((Command.rotate predecessor successor).write service compressed).run output =
      .ok .accepted after) :
    ∃ after', ((Command.verify successor predecessor).write service compressed).run output =
      .ok .accepted after' := by
  have rotates := decides_rotate service compressed
  cases read : (service.parse compressed predecessor).result with
  | error error => cases accepted.symm.trans (rotates.first _ _ _ _ read)
  | ok previous =>
      cases read' : (service.parse compressed successor).result with
      | error error => cases accepted.symm.trans (rotates.second _ _ _ _ _ read read')
      | ok candidate =>
          obtain ⟨_, report, ran, approved⟩ := rotates.both _ _ output _ _ read read'
          cases accepted.symm.trans ran
          obtain ⟨tally, rotation⟩ := approved.mp rfl
          have quorum := (Rotation.verify_eq_ok_iff.mp rotation).2
          obtain ⟨verdict, report, ran, agrees⟩ :=
            (decides_verify service compressed).both _ _ output _ _ read' read
          obtain rfl := agrees.mpr ⟨tally, quorum⟩
          exact ⟨_, ran⟩

/-- Verifying and rotating fail exactly if a file cannot be read, the first one counting, and
otherwise accept exactly what the library approves.  An accepted successor is accepted by the quorum
of its predecessor as well.  Every command writes its report or, if it fails, nothing. -/
theorem verdicts_agree (service : Service Ed25519.KeyPair) (compressed : Bool) :
    (Decides service compressed .candidate .reference service.verifyQuorum
      fun candidate reference => (Command.verify candidate reference).write service compressed) ∧
    (Decides service compressed .predecessor .successor service.verifyRotation
      fun predecessor successor =>
        (Command.rotate predecessor successor).write service compressed) ∧
    (∀ predecessor successor output after,
      ((Command.rotate predecessor successor).write service compressed).run output =
        .ok .accepted after →
      ∃ after', ((Command.verify successor predecessor).write service compressed).run output =
        .ok .accepted after') ∧
    ∀ command : Command Bytes,
      Writes (command.write service compressed) (command.run service compressed) ∧
      ∀ output failure after,
        (command.write service compressed).run output = .error failure after → after = output :=
  ⟨decides_verify service compressed, decides_rotate service compressed,
    fun _ _ _ _ => verify_of_rotate,
    fun command => ⟨writes_run command, fun _ _ _ => eq_of_run_write_eq_error⟩⟩

end Command

end TrustRoot.Tool
