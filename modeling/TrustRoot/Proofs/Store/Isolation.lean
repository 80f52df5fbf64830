import TrustRoot.Document.Reading
import TrustRoot.Proofs.Audit
import TrustRoot.Proofs.Document.RoundTrip
import TrustRoot.Proofs.Store.Sharing

/-!
# Isolation of copies

Whatever is done with documents under names, a store behaves as if every copy had signatures of its
own: each step has the same result and the same events as on independent documents
(`copies_step`), and so has every sequence of steps (`copies_run`).  Sharing is never seen through a
document, and it ends where a document is signed.
-/

namespace TrustRoot.Store

/-- What may be done with documents under names. -/
inductive Step (Key : Type) where
  | build (name : String) (values : Values) (creationTime : UInt64)
  | parse (name : String) (codec : PayloadCodec) (compressed : Bool) (raw : Bytes)
  | clone (source target : String)
  | sign (name signer : String) (key : Key)
  | signed (source target signer : String) (key : Key)
  | drop (name : String)

/-- The state after a step.  A step that fails, or is about a document that is not there, changes
nothing. -/
def settle {State : Type} (state : State) : Option (Audited State) → State
  | some ⟨.ok after, _⟩ => after
  | _ => state

section Steps

variable {Key : Type} (scheme : SignatureScheme Key)

/-- A step on a store, if the document that it is about is there. -/
def step (store : Store) : Step Key → Option (Audited Store)
  | .build name values creationTime => some do
    let document ← .ofResult (Document.ofValues values creationTime)
    return store.put name document
  | .parse name codec compressed raw => some do
    let document ← Document.ofRaw codec compressed raw
    return store.put name document
  | .clone source target => (store.get? source).map fun _ => pure (store.share source target)
  | .sign name signer key => store.sign scheme name signer key
  | .signed source target signer key => store.signCopy scheme source target signer key
  | .drop name => some (pure (store.drop name))

/-- A step on documents that share nothing. -/
def stepCopies (documents : Dict Document) : Step Key → Option (Audited (Dict Document))
  | .build name values creationTime => some do
    let document ← .ofResult (Document.ofValues values creationTime)
    return documents.insert name document
  | .parse name codec compressed raw => some do
    let document ← Document.ofRaw codec compressed raw
    return documents.insert name document
  | .clone source target =>
    (documents.get? source).map fun document => pure (documents.insert target document)
  | .sign name signer key => (documents.get? name).map fun document => do
    let signed ← document.sign scheme signer key
    return documents.insert name signed
  | .signed source target signer key => (documents.get? source).map fun document => do
    let signed ← document.sign scheme signer key
    return documents.insert target signed
  | .drop name => some (pure (documents.erase name))

def run (store : Store) (steps : List (Step Key)) : Store :=
  steps.foldl (fun store next => settle store (store.step scheme next)) store

def runCopies (documents : Dict Document) (steps : List (Step Key)) : Dict Document :=
  steps.foldl (fun documents next => settle documents (stepCopies scheme documents next)) documents

variable {scheme} {store : Store}

/-! ## One step -/

/-- Signing gives the document that the same signing gives without sharing. -/
theorem copies_sign (wellFormed : store.WellFormed) (name signer : String) (key : Key) :
    (store.sign scheme name signer key).map (copies <$> ·) =
      (store.copies.get? name).map fun document => do
        let signed ← document.sign scheme signer key
        return store.copies.insert name signed := by
  rw [get?_copies, Store.get?, Store.sign]
  cases held : store.holders.get? name with
  | none => rfl
  | some holder =>
      simp only [Option.map_some, Document.sign, map_bind, map_pure, bind_assoc, pure_bind,
        copies_write wellFormed held]
      rfl

theorem copies_signCopy (wellFormed : store.WellFormed) (source target signer : String)
    (key : Key) :
    (store.signCopy scheme source target signer key).map (copies <$> ·) =
      (store.copies.get? source).map fun document => do
        let signed ← document.sign scheme signer key
        return store.copies.insert target signed := by
  rw [get?_copies, Store.signCopy]
  cases store.get? source with
  | none => rfl
  | some document =>
      simp only [Option.map_some, map_bind, map_pure, copies_put wellFormed]

/-- A step has the same result and events as on documents that share nothing. -/
theorem copies_step (wellFormed : store.WellFormed) (next : Step Key) :
    (store.step scheme next).map (copies <$> ·) = stepCopies scheme store.copies next := by
  cases next with
  | build name values creationTime =>
      simp only [step, stepCopies, Option.map_some, map_bind, map_pure, copies_put wellFormed]
  | parse name codec compressed raw =>
      simp only [step, stepCopies, Option.map_some, map_bind, map_pure, copies_put wellFormed]
  | clone source target =>
      rw [step, stepCopies, get?_copies]
      cases found : store.get? source with
      | none => rfl
      | some document =>
          simp only [Option.map_some, map_pure]
          rw [copies_share (by rw [get?_copies, found])]
  | sign name signer key => exact copies_sign wellFormed name signer key
  | signed source target signer key => exact copies_signCopy wellFormed source target signer key
  | drop name => simp only [step, stepCopies, Option.map_some, map_pure, copies_drop]

theorem exists_write_of_sign {name signer : String} {key : Key} {signing : Audited Store}
    {after : Store} (called : store.sign scheme name signer key = some signing)
    (done : signing.result = .ok after) :
    ∃ holder signatures, store.holders.get? name = some holder ∧
      after = store.write name holder signatures := by
  obtain ⟨holder, held, rfl⟩ := Option.map_eq_some_iff.mp called
  obtain ⟨signed, -, written⟩ := Trail.result_bind_eq_ok_iff.mp done
  exact ⟨holder, signed.signatures, held, (Except.ok.inj written).symm⟩

theorem exists_put_of_signCopy {source target signer : String} {key : Key}
    {signing : Audited Store} {after : Store}
    (called : store.signCopy scheme source target signer key = some signing)
    (done : signing.result = .ok after) : ∃ signed, after = store.put target signed := by
  obtain ⟨document, -, rfl⟩ := Option.map_eq_some_iff.mp called
  obtain ⟨signed, -, put⟩ := Trail.result_bind_eq_ok_iff.mp done
  exact ⟨signed, (Except.ok.inj put).symm⟩

/-- A step that succeeds leaves a bag for every document. -/
theorem WellFormed.step (wellFormed : store.WellFormed) {next : Step Key}
    {audited : Audited Store} (called : store.step scheme next = some audited) {after : Store}
    (done : audited.result = .ok after) : after.WellFormed := by
  cases next with
  | build name values creationTime =>
      cases called
      obtain ⟨document, -, put⟩ := Trail.result_bind_eq_ok_iff.mp done
      cases put
      exact wellFormed.put name document
  | parse name codec compressed raw =>
      cases called
      obtain ⟨document, -, put⟩ := Trail.result_bind_eq_ok_iff.mp done
      cases put
      exact wellFormed.put name document
  | clone source target =>
      obtain ⟨document, -, rfl⟩ := Option.map_eq_some_iff.mp called
      cases done
      exact wellFormed.share source target
  | sign name signer key =>
      obtain ⟨holder, signatures, -, rfl⟩ := exists_write_of_sign called done
      exact wellFormed.write name holder signatures
  | signed source target signer key =>
      obtain ⟨signed, rfl⟩ := exists_put_of_signCopy called done
      exact wellFormed.put target signed
  | drop name =>
      cases called
      cases done
      exact wellFormed.drop name

/-! ## Many steps -/

theorem WellFormed.settle (wellFormed : store.WellFormed) (next : Step Key) :
    (settle store (store.step scheme next)).WellFormed := by
  unfold Store.settle
  split
  · rename_i after events called
    exact wellFormed.step called rfl
  · exact wellFormed

theorem settle_map {State Other : Type} (view : State → Other) (state : State)
    (outcome : Option (Audited State)) :
    settle (view state) (outcome.map (view <$> ·)) = view (settle state outcome) := by
  match outcome with
  | none => rfl
  | some ⟨.ok after, events⟩ => rfl
  | some ⟨.error error, events⟩ => rfl

theorem WellFormed.run (wellFormed : store.WellFormed) (steps : List (Step Key)) :
    (store.run scheme steps).WellFormed := by
  induction steps generalizing store with
  | nil => exact wellFormed
  | cons next steps ih => exact ih (wellFormed.settle next)

/-- After any steps the documents are those that the steps make of documents that share nothing. -/
theorem copies_run (wellFormed : store.WellFormed) (steps : List (Step Key)) :
    (store.run scheme steps).copies = runCopies scheme store.copies steps := by
  induction steps generalizing store with
  | nil => rfl
  | cons next steps ih =>
      have stepped : (settle store (store.step scheme next)).copies =
          settle store.copies (stepCopies scheme store.copies next) := by
        rw [← copies_step wellFormed next, settle_map]
      exact (ih (wellFormed.settle next)).trans (congrArg (runCopies scheme · steps) stepped)

/-! ## Signing -/

theorem get?_of_sign (wellFormed : store.WellFormed) {name signer : String} {key : Key}
    {signing : Audited Store} {after : Store}
    (called : store.sign scheme name signer key = some signing)
    (done : signing.result = .ok after) {other : String} (different : other ≠ name) :
    after.get? other = store.get? other := by
  obtain ⟨holder, signatures, held, rfl⟩ := exists_write_of_sign called done
  rw [← get?_copies, copies_write wellFormed held, Dict.get?_insert, if_neg different, get?_copies]

theorem get?_of_signCopy (wellFormed : store.WellFormed) {source target signer : String}
    {key : Key} {signing : Audited Store} {after : Store}
    (called : store.signCopy scheme source target signer key = some signing)
    (done : signing.result = .ok after) {other : String} (different : other ≠ target) :
    after.get? other = store.get? other := by
  obtain ⟨signed, rfl⟩ := exists_put_of_signCopy called done
  rw [← get?_copies, copies_put wellFormed, Dict.get?_insert, if_neg different, get?_copies]

variable (scheme) in
/-- After any steps, a store holds the documents that it would hold if every copy had its own
signatures, and every next step has the result and the events that it would have.  Documents that
share a bag have the same signatures.  Signing a document leaves every other document and the place
of its signatures as they are, and the signed document shares with no other.  A signed copy leaves
its source and the place of its signatures as they are, and shares with no other either. -/
theorem copy_on_write_isolated (steps : List (Step Key)) :
    let store := empty.run scheme steps
    store.copies = runCopies scheme .empty steps ∧
    (∀ next : Step Key,
      (store.step scheme next).map (copies <$> ·) = stepCopies scheme store.copies next) ∧
    (∀ first second, store.shares first second = some true →
      ∃ document document', store.get? first = some document ∧
        store.get? second = some document' ∧ document.signatures = document'.signatures) ∧
    (∀ name signer key signing after, store.sign scheme name signer key = some signing →
      signing.result = .ok after → ∀ other, other ≠ name →
        after.get? other = store.get? other ∧
        after.holders.get? other = store.holders.get? other ∧
        after.shares name other ≠ some true) ∧
    ∀ source target signer key signing after,
      store.signCopy scheme source target signer key = some signing →
      signing.result = .ok after → ∀ other, other ≠ target →
        after.get? other = store.get? other ∧
        after.holders.get? other = store.holders.get? other ∧
        after.shares target other ≠ some true := by
  intro store
  have wellFormed : store.WellFormed := wellFormed_empty.run steps
  refine ⟨copies_run wellFormed_empty steps, copies_step wellFormed,
    fun _ _ => signatures_eq_of_shares, ?_, ?_⟩
  · intro name signer key signing after called done other different
    refine ⟨get?_of_sign wellFormed called done different, ?_⟩
    obtain ⟨holder, signatures, held, rfl⟩ := exists_write_of_sign called done
    exact ⟨holders_write different holder signatures,
      not_shares_write wellFormed held signatures different⟩
  · intro source target signer key signing after called done other different
    refine ⟨get?_of_signCopy wellFormed called done different, ?_⟩
    obtain ⟨signed, rfl⟩ := exists_put_of_signCopy called done
    exact ⟨holders_put different signed, not_shares_put wellFormed target signed different⟩

end Steps

/-- A document and a copy of it, which share their signatures. -/
def twoCopies : Store :=
  empty.run .ownKey [.build "original" Document.sampleValues 1, .clone "original" "copy"]

theorem copy_on_write_isolated_twoCopies :
    twoCopies.shares "original" "copy" = some true ∧
    ∃ signing after, twoCopies.sign .ownKey "copy" "1-2" [7] = some signing ∧
      signing.result = .ok after ∧
      ((after.get? "copy").bind (·.signatures.get? "1-2")) = some [7] ∧
      after.get? "original" = twoCopies.get? "original" ∧
      after.shares "copy" "original" ≠ some true := by
  obtain ⟨-, -, -, isolated, -⟩ := copy_on_write_isolated .ownKey
    [.build "original" Document.sampleValues 1, .clone "original" "copy"]
  have shared : twoCopies.shares "original" "copy" = some true := by decide +kernel
  have outcome : (twoCopies.sign .ownKey "copy" "1-2" [7]).map (fun signing =>
      signing.result.map fun after => (after.get? "copy").bind (·.signatures.get? "1-2")) =
        some (.ok (some [7])) := by rfl
  obtain ⟨signing, called, signed⟩ := Option.map_eq_some_iff.mp outcome
  cases done : signing.result with
  | error error =>
      rw [done] at signed
      cases signed
  | ok after =>
      rw [done] at signed
      obtain ⟨same, -, alone⟩ :=
        isolated "copy" "1-2" [7] signing after called done "original" (by decide)
      exact ⟨shared, signing, after, called, done, Except.ok.inj signed, same, alone⟩

end TrustRoot.Store
