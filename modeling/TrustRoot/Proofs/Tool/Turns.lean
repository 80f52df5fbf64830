import TrustRoot.Proofs.Approval.Completeness
import TrustRoot.Proofs.Tool.Continuation

/-!
# Signing in turn

Core systems sign in turn, and a file goes from hand to hand.  As long as the file stays within the
limits, it is read back as the document that the one before has signed, so that the file goes
through the same documents as a document that stays in place (`Document.signAll`).  What is written
in the end is that document, with the signature of the last turn of every signer, and it does not
depend on the order of turns by different signers (`signInTurn_collects`).
-/

namespace TrustRoot

/-- A file is no larger than what is read, and neither is its content. -/
structure WithinLimits (library : FrameLibrary) (settings : Settings) (compressed : Bool)
    (packed : Bytes) : Prop where
  size : packed.length ≤ settings.maxPayload.toNat
  content : compressed = true → ∀ text, Contains library compressed packed text →
    text.length ≤ settings.maxDecompressed.toNat

namespace Service

variable {library : FrameLibrary} {settings : Settings} {compressed : Bool} {packed : Bytes}
  {document : Document}

theorem exists_pack (encodes : compressed = true → library.EncodesAll settings.compressionLevel)
    (document : Document) :
    ∃ packed, (Service.ed25519 library settings).pack compressed document = .ok packed := by
  cases compressed with
  | false => exact ⟨_, rfl⟩
  | true =>
      obtain ⟨frame, encoded⟩ := encodes rfl (Bytes.ofText (document.text true))
      exact ⟨frame, mapError_eq_ok_iff.mpr (mapError_eq_ok_iff.mpr encoded)⟩

/-- What has been packed is read within the limits if its text is. -/
theorem parse_of_pack (lossless : library.Lossless)
    (below : compressed = true → settings.maxDecompressed ≠ PayloadCodec.largestLimit)
    (reread : Document.ofText (Bytes.ofText (document.text true)) = .ok document)
    (packing : (Service.ed25519 library settings).pack compressed document = .ok packed)
    (within : WithinLimits library settings compressed packed) :
    ((Service.ed25519 library settings).parse compressed packed).result = .ok document := by
  have contained := contains_of_pack lossless packing
  have room : ¬ (compressed = true ∧
      settings.maxDecompressed.toNat < (Bytes.ofText (document.text true)).length) := by
    rintro ⟨isCompressed, beyond⟩
    exact Nat.not_lt.mpr (within.content isCompressed _ contained) beyond
  rw [result_parse, unwrap_of_contains below contained, if_neg room]
  change (if settings.maxPayload.toNat < packed.length then _ else _) = _
  rw [if_neg (Nat.not_lt.mpr within.size)]
  exact bind_eq_ok_iff.mpr ⟨_, rfl, reread⟩

end Service

namespace Tool

/-- The turn of a signer, with a text that spells the seed of a key. -/
structure Turn where
  signer : String
  seedHex : String
  key : Ed25519.KeyPair
  seeded : SpellsSeed seedHex key.seed

namespace Turn

/-- The call for a signature that a turn makes. -/
def call (turn : Turn) : Document.SigningCall Ed25519.KeyPair := ⟨.ed25519, turn.signer, turn.key⟩

/-- The last turn of a signer. -/
def last? (signer : String) (turns : List Turn) : Option Turn :=
  turns.reverse.find? fun turn => turn.signer == signer

theorem lastCall?_map_call (signer : String) (turns : List Turn) :
    Document.lastCall? signer (turns.map call) = (last? signer turns).map call := by
  rw [Document.lastCall?, last?, ← List.map_reverse, List.find?_map]
  rfl

/-- The document that turns leave, if it stays in place. -/
def signAll (document : Document) (turns : List Turn) : Document :=
  document.signAll (turns.map call)

theorem get?_signAll {document : Document} {payload : Bytes}
    (input : document.signingInput false = .ok payload) (turns : List Turn) (signer : String) :
    (signAll document turns).signatures.get? signer =
      match last? signer turns with
      | some turn => some (turn.key.sign payload)
      | none => document.signatures.get? signer := by
  have succeed : ∀ made ∈ turns.map call, (made.answer payload).isOk = true := by
    intro made listed
    obtain ⟨turn, -, rfl⟩ := List.mem_map.mp listed
    rfl
  rw [signAll, Document.get?_signAll input, Document.lastSuccess?_eq_lastCall? succeed,
    lastCall?_map_call]
  cases last? signer turns <;> rfl

end Turn

namespace Command

/-- What is written in the end, after every signer has read what the one before has written. -/
def signInTurn (library : FrameLibrary) (settings : Settings) (compressed : Bool) (raw : Bytes)
    (turns : List Turn) : Except Failure Bytes :=
  turns.foldlM (fun raw turn =>
    (signRaw (.ed25519 library settings) compressed raw turn.signer turn.seedHex).result) raw

/-- Everything that is written on the way is within the limits. -/
def StaysWithin (library : FrameLibrary) (settings : Settings) (compressed : Bool) (raw : Bytes)
    (turns : List Turn) : Prop :=
  ∀ before after packed, turns = before ++ after → before ≠ [] → after ≠ [] →
    signInTurn library settings compressed raw before = .ok packed →
    WithinLimits library settings compressed packed

section

variable {library : FrameLibrary} {settings : Settings} {compressed : Bool} {raw packed : Bytes}
  {document : Document} {turns turns' : List Turn}

theorem StaysWithin.of_append
    (stays : StaysWithin library settings compressed raw (turns ++ turns')) :
    StaysWithin library settings compressed raw turns := by
  intro before after packed split first later
  refine stays before (after ++ turns') packed ?_ first (List.append_ne_nil_of_left_ne_nil later _)
  rw [split, List.append_assoc]

theorem staysWithin_singleton (turn : Turn) :
    StaysWithin library settings compressed raw [turn] := by
  intro before after packed split first later
  have length := congrArg List.length split
  have before_pos := List.length_pos_iff.mpr first
  have after_pos := List.length_pos_iff.mpr later
  rw [List.length_append, List.length_singleton] at length
  omega

/-! ## One turn -/

/-- A turn writes the document that signing in place leaves. -/
theorem signRaw_of_parse
    (read : ((Service.ed25519 library settings).parse compressed raw).result = .ok document)
    (turn : Turn)
    (packing : (Service.ed25519 library settings).pack compressed
      (turn.call.perform document).2 = .ok packed) :
    (signRaw (.ed25519 library settings) compressed raw turn.signer turn.seedHex).result =
      .ok packed := by
  have input := Document.signingInput_eq document false
  rw [turn.call.perform_of_answer input] at packing
  exact signRaw_eq_ok_iff.mpr
    ⟨document, turn.key, _, read, turn.seeded, Document.result_sign input _ _, packing⟩

/-! ## All turns -/

variable (lossless : library.Lossless)
  (encodes : compressed = true → library.EncodesAll settings.compressionLevel)
  (read : ((Service.ed25519 library settings).parse compressed raw).result = .ok document)
  (rootCas : (Json.ofDict document.rootCas).IntegersOnly)
  (pkiLogs : (Json.ofDict document.pkiLogs).IntegersOnly)

include read rootCas pkiLogs

/-- What turns leave of a document that was read is read from its text. -/
theorem ofText_text_signAll (turns : List Turn) :
    Document.ofText (Bytes.ofText ((Turn.signAll document turns).text true)) =
      .ok (Turn.signAll document turns) := by
  obtain ⟨text, -, read⟩ := Service.exists_text_of_parse read
  exact Document.ofText_text_of_toBody read (Document.toBody_signAll _ _) rootCas pkiLogs

include lossless

theorem parse_of_pack_signAll
    (packing : (Service.ed25519 library settings).pack compressed (Turn.signAll document turns) =
      .ok packed)
    (within : WithinLimits library settings compressed packed) :
    ((Service.ed25519 library settings).parse compressed packed).result =
      .ok (Turn.signAll document turns) :=
  Service.parse_of_pack lossless (Service.maxDecompressed_ne_of_parse read)
    (ofText_text_signAll read rootCas pkiLogs turns) packing within

include encodes

/-- Within the limits, turns write the document that they leave if it stays in place. -/
theorem signInTurn_eq_pack (turns : List Turn) (some_turn : turns ≠ [])
    (stays : StaysWithin library settings compressed raw turns) :
    ∃ packed, signInTurn library settings compressed raw turns = .ok packed ∧
      (Service.ed25519 library settings).pack compressed (Turn.signAll document turns) =
        .ok packed := by
  induction turns using List.reverseRecOn with
  | nil => exact absurd rfl some_turn
  | append_singleton turns turn ih =>
      -- The turns so far have left a file that is read as the document.
      obtain ⟨earlier, written, reread⟩ : ∃ earlier,
          signInTurn library settings compressed raw turns = .ok earlier ∧
          ((Service.ed25519 library settings).parse compressed earlier).result =
            .ok (Turn.signAll document turns) := by
        by_cases none : turns = []
        · subst none
          exact ⟨raw, rfl, read⟩
        · obtain ⟨earlier, written, packing⟩ := ih none stays.of_append
          have within := stays turns [turn] earlier rfl none (List.cons_ne_nil _ _) written
          exact ⟨earlier, written,
            parse_of_pack_signAll lossless read rootCas pkiLogs packing within⟩
      obtain ⟨packed, packing⟩ :=
        Service.exists_pack encodes (Turn.signAll document (turns ++ [turn]))
      refine ⟨packed, ?_, packing⟩
      rw [Turn.signAll, List.map_append, List.map_singleton, Document.signAll_append_singleton]
        at packing
      rw [signInTurn, List.foldlM_append]
      change signInTurn library settings compressed raw turns >>= _ = _
      rw [written]
      change (signRaw _ _ earlier _ _).result >>= _ = _
      rw [signRaw_of_parse reread turn packing]
      rfl

theorem signInTurn_perm (order : turns.Perm turns') (different : (turns.map Turn.signer).Nodup)
    (stays : StaysWithin library settings compressed raw turns)
    (stays' : StaysWithin library settings compressed raw turns') :
    signInTurn library settings compressed raw turns =
      signInTurn library settings compressed raw turns' := by
  by_cases none : turns = []
  · subst none
    rw [order.symm.eq_nil]
  · have none' : turns' ≠ [] := by
      rintro rfl
      exact none order.eq_nil
    have same : Turn.signAll document turns = Turn.signAll document turns' :=
      Document.signAll_perm document (order.map Turn.call) (by rwa [List.map_map])
    obtain ⟨packed, written, packing⟩ :=
      signInTurn_eq_pack lossless encodes read rootCas pkiLogs turns none stays
    obtain ⟨packed', written', packing'⟩ :=
      signInTurn_eq_pack lossless encodes read rootCas pkiLogs turns' none' stays'
    rw [same] at packing
    obtain rfl := Except.ok.inj (packing.symm.trans packing')
    rw [written, written']

end

end Command

end Tool

end TrustRoot
