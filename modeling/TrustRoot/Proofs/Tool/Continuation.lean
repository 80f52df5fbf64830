import TrustRoot.Proofs.Document.Encoding
import TrustRoot.Proofs.Document.Rereading
import TrustRoot.Proofs.Envelope
import TrustRoot.Proofs.Tool.Seed

/-!
# Signing one after the other

Core systems sign in turn, each the file that the one before has written.  What is written is read
back as the signed document unless it has grown beyond the limits on what is read.  Nothing keeps it
within them, since writing indents and adds: a file that takes up the whole limit goes beyond it
with the next signer (`parse_signRaw_full`).
-/

namespace TrustRoot

/-- An event ahead changes no result. -/
theorem Trail.result_emit_if {ε α : Type} (condition : Prop) [Decidable condition] (event : Event)
    (next : Trail ε α) :
    (if condition then (Trail.emit event >>= fun _ => next) else next).result = next.result := by
  split <;> rfl

theorem Service.result_parse {Key : Type} (service : Service Key) (compressed : Bool)
    (raw : Bytes) :
    (service.parse compressed raw).result =
      if service.settings.maxPayload.toNat < raw.length then
        .error (.payloadTooLarge raw.length service.settings.maxPayload.toNat)
      else Document.unwrap service.codec compressed raw >>= Document.ofText := by
  rw [parse]
  split
  · rfl
  · exact Document.result_ofRaw_eq_bind _ _ _

/-! ## The limits -/

/-- The octets of a file are a text, or an envelope of one. -/
def Contains (library : FrameLibrary) (compressed : Bool) (packed text : Bytes) : Prop :=
  if compressed then library.Encloses packed text else packed = text

namespace Service

variable {library : FrameLibrary} {settings : Settings} {compressed : Bool}
  {raw packed text : Bytes} {document : Document}

theorem exists_text_of_parse {Key : Type} {service : Service Key}
    (read : (service.parse compressed raw).result = .ok document) :
    ∃ text, Document.unwrap service.codec compressed raw = .ok text ∧
      Document.ofText text = .ok document := by
  rw [result_parse] at read
  split at read
  · cases read
  · exact bind_eq_ok_iff.mp read

/-- The text of a document is an input that the document is read from, if there is room. -/
theorem parse_text (library : FrameLibrary) (sound : document.Sound)
    (readable : document.Readable)
    (room : (Bytes.ofText (document.text true)).length ≤ settings.maxPayload.toNat) :
    ((Service.ed25519 library settings).parse false (Bytes.ofText (document.text true))).result =
      .ok document := by
  rw [result_parse]
  refine (if_neg (Nat.not_lt.mpr room)).trans ?_
  exact bind_eq_ok_iff.mpr ⟨_, rfl, Document.ofText_text sound readable⟩

/-- Nothing is read from envelopes under the largest limit, which lets nothing out. -/
theorem maxDecompressed_ne_of_parse
    (read : ((Service.ed25519 library settings).parse compressed raw).result = .ok document) :
    compressed = true → settings.maxDecompressed ≠ PayloadCodec.largestLimit := by
  rintro rfl largest
  obtain ⟨text, unwrapped, -⟩ := exists_text_of_parse read
  have opened : PayloadCodec.openZstandard library settings.maxDecompressed raw = .ok text :=
    mapError_eq_ok_iff.mp unwrapped
  rw [largest] at opened
  exact PayloadCodec.openZstandard_largestLimit_ne_ok library raw text opened

/-- What is packed has the text of the document in it. -/
theorem contains_of_pack (lossless : library.Lossless)
    (packing : (Service.ed25519 library settings).pack compressed document = .ok packed) :
    Contains library compressed packed (Bytes.ofText (document.text true)) := by
  cases compressed with
  | false => exact (Except.ok.inj packing).symm
  | true =>
      have encoded : library.encode settings.compressionLevel (Bytes.ofText (document.text true)) =
          .ok packed := mapError_eq_ok_iff.mp (mapError_eq_ok_iff.mp packing)
      exact lossless _ _ _ encoded

/-- A text comes out of a file again if it is within the limit. -/
theorem unwrap_of_contains
    (below : compressed = true → settings.maxDecompressed ≠ PayloadCodec.largestLimit)
    (contained : Contains library compressed packed text) :
    Document.unwrap (Service.ed25519 library settings).codec compressed packed =
      if compressed = true ∧ settings.maxDecompressed.toNat < text.length then
        .error (.compression (.exceeds settings.maxDecompressed.toNat))
      else .ok text := by
  cases compressed with
  | false =>
      obtain rfl : packed = text := contained
      rw [if_neg (by simp)]
      rfl
  | true =>
      have encloses : library.Encloses packed text := contained
      change (PayloadCodec.openZstandard library settings.maxDecompressed packed).mapError
        Error.compression = _
      rw [PayloadCodec.openZstandard_of_encloses encloses (below rfl)]
      by_cases within : text.length ≤ settings.maxDecompressed.toNat
      · rw [if_pos within, if_neg (by simp [within])]
        rfl
      · rw [if_neg within, if_pos ⟨rfl, Nat.lt_of_not_le within⟩]
        rfl

end Service

namespace Tool.Command

theorem signRaw_eq_ok_iff {service : Service Ed25519.KeyPair} {compressed : Bool}
    {raw packed : Bytes} {signer seedHex : String} :
    (signRaw service compressed raw signer seedHex).result = .ok packed ↔
      ∃ document key signed, (service.parse compressed raw).result = .ok document ∧
        SpellsSeed seedHex key.seed ∧ (service.sign document signer key).result = .ok signed ∧
        service.pack compressed signed = .ok packed := by
  simp only [signRaw, readDocument, Trail.result_bind_eq_ok_iff, Trail.result_mapError,
    mapError_eq_ok_iff, Trail.result_ofResult, Trail.result_emit_if, keyOfSeed_eq_ok_iff]
  constructor
  · rintro ⟨document, read, key, seeded, signed, done, packing⟩
    exact ⟨document, key, signed, read, seeded, done, packing⟩
  · rintro ⟨document, key, signed, read, seeded, done, packing⟩
    exact ⟨document, read, key, seeded, signed, done, packing⟩

/-- What has been signed is read back if it is within the limits. -/
theorem parse_signRaw {library : FrameLibrary} (lossless : library.Lossless) {settings : Settings}
    {compressed : Bool} {raw packed : Bytes} {signer seedHex : String} {key : Ed25519.KeyPair}
    {document : Document}
    (read : ((Service.ed25519 library settings).parse compressed raw).result = .ok document)
    (rootCas : (Json.ofDict document.rootCas).IntegersOnly)
    (pkiLogs : (Json.ofDict document.pkiLogs).IntegersOnly)
    (seeded : SpellsSeed seedHex key.seed)
    (written : (signRaw (.ed25519 library settings) compressed raw signer seedHex).result =
      .ok packed) :
    ∃ signed, ((Service.ed25519 library settings).sign document signer key).result = .ok signed ∧
      ((Service.ed25519 library settings).parse compressed packed).result =
        if settings.maxPayload.toNat < packed.length then
          .error (.payloadTooLarge packed.length settings.maxPayload.toNat)
        else if compressed = true ∧
            settings.maxDecompressed.toNat < (Bytes.ofText (signed.text true)).length then
          .error (.compression (.exceeds settings.maxDecompressed.toNat))
        else .ok signed := by
  obtain ⟨_, key', signed, again, seeded', done, packing⟩ := signRaw_eq_ok_iff.mp written
  obtain rfl := Except.ok.inj (again.symm.trans read)
  obtain rfl : key' = key := seeded'.key_unique seeded
  refine ⟨signed, done, ?_⟩
  have below := Service.maxDecompressed_ne_of_parse read
  have contained := Service.contains_of_pack lossless packing
  have reread : Document.ofText (Bytes.ofText (signed.text true)) = .ok signed := by
    obtain ⟨text, -, read⟩ := Service.exists_text_of_parse read
    obtain ⟨signature, -, rfl⟩ := Document.sign_eq_ok_iff.mp done
    exact Document.ofText_text_addSignature signer signature read rootCas pkiLogs
  rw [Service.result_parse, Service.unwrap_of_contains below contained]
  change (if settings.maxPayload.toNat < packed.length then _ else _) = _
  by_cases oversized : settings.maxPayload.toNat < packed.length
  · rw [if_pos oversized, if_pos oversized]
    rfl
  rw [if_neg oversized, if_neg oversized]
  split
  · rfl
  · exact bind_eq_ok_iff.mpr ⟨_, rfl, reread⟩

/-! ## Full files -/

theorem exists_signRaw_text {library : FrameLibrary} {settings : Settings} {document : Document}
    (read : ((Service.ed25519 library settings).parse false
      (Bytes.ofText (document.text true))).result = .ok document)
    {seedHex : String} {key : Ed25519.KeyPair} (seeded : SpellsSeed seedHex key.seed)
    (signer : String) :
    ∃ signature, (signRaw (.ed25519 library settings) false (Bytes.ofText (document.text true))
        signer seedHex).result =
      .ok (Bytes.ofText ((document.addSignature signer signature).text true)) := by
  have input := Document.signingInput_eq document false
  obtain ⟨signature, done⟩ : ∃ signature,
      (document.sign SignatureScheme.ed25519 signer key).result =
        .ok (document.addSignature signer signature) :=
    ⟨_, Document.result_sign input signer key⟩
  exact ⟨signature, signRaw_eq_ok_iff.mpr ⟨document, key, _, read, seeded, done, rfl⟩⟩

/-- A file that takes up the whole limit can be signed, but no one can go on from there. -/
theorem parse_signRaw_full (library : FrameLibrary) {settings : Settings} {document : Document}
    (sound : document.Sound) (readable : document.Readable)
    (full : settings.maxPayload.toNat = (Bytes.ofText (document.text true)).length)
    {signer seedHex : String} (new : document.signatures.get? signer = none)
    {key : Ed25519.KeyPair} (seeded : SpellsSeed seedHex key.seed) :
    ∃ packed, (signRaw (.ed25519 library settings) false (Bytes.ofText (document.text true)) signer
        seedHex).result = .ok packed ∧
      ((Service.ed25519 library settings).parse false packed).result =
        .error (.payloadTooLarge packed.length settings.maxPayload.toNat) := by
  have read := Service.parse_text library sound readable (Nat.le_of_eq full.symm)
  obtain ⟨signature, written⟩ := exists_signRaw_text read seeded signer
  have longer : settings.maxPayload.toNat <
      (Bytes.ofText ((document.addSignature signer signature).text true)).length := by
    rw [full]
    exact document.length_text_lt_addSignature signer signature new
  refine ⟨_, written, ?_⟩
  rw [Service.result_parse]
  exact if_pos longer

/-- The limit of a service that reads no more than the text of the sample takes up. -/
def tightSettings : Settings where
  maxPayload := 656

theorem maxPayload_tightSettings : tightSettings.maxPayload.toNat =
    (Bytes.ofText (Document.sample.text true)).length := by
  rw [Document.text, Json.length_ofText_render]
  decide +kernel

def sampleSeed : String := "0101010101010101010101010101010101010101010101010101010101010101"

def sampleKey : Ed25519.KeyPair := ⟨List.replicate 32 1, rfl⟩

theorem spellsSeed_sampleSeed : SpellsSeed sampleSeed sampleKey.seed :=
  spellsSeed_encodeText sampleKey.seed

theorem parse_signRaw_sample :
    Zstandard.library.Lossless ∧
    ((Service.ed25519 Zstandard.library tightSettings).parse false
        (Bytes.ofText (Document.sample.text true))).result = .ok Document.sample ∧
      (Json.ofDict Document.sample.rootCas).IntegersOnly ∧
      (Json.ofDict Document.sample.pkiLogs).IntegersOnly ∧
      SpellsSeed sampleSeed sampleKey.seed ∧
      ∃ packed,
        (signRaw (.ed25519 Zstandard.library tightSettings) false
          (Bytes.ofText (Document.sample.text true)) "1-2" sampleSeed).result = .ok packed ∧
        ∃ signed, ((Service.ed25519 Zstandard.library tightSettings).sign Document.sample "1-2"
            sampleKey).result = .ok signed ∧
          ((Service.ed25519 Zstandard.library tightSettings).parse false packed).result =
            if tightSettings.maxPayload.toNat < packed.length then
              .error (.payloadTooLarge packed.length tightSettings.maxPayload.toNat)
            else if false = true ∧ tightSettings.maxDecompressed.toNat <
                (Bytes.ofText (signed.text true)).length then
              .error (.compression (.exceeds tightSettings.maxDecompressed.toNat))
            else .ok signed := by
  have lossless := Zstandard.library_lossless
  have readable := Document.readable_sample
  have seeded := spellsSeed_sampleSeed
  have read := Service.parse_text Zstandard.library Document.reachable_sample.sound readable
    (Nat.le_of_eq maxPayload_tightSettings.symm)
  obtain ⟨signature, written⟩ := exists_signRaw_text read seeded "1-2"
  exact ⟨lossless, read, readable.rootCas, readable.pkiLogs, seeded, _, written,
    parse_signRaw lossless read readable.rootCas readable.pkiLogs seeded written⟩

/-- Not everything that has been signed is read back. -/
theorem full_sample_not_continued :
    ¬∀ (library : FrameLibrary), library.Lossless → ∀ (settings : Settings) (compressed : Bool)
        (raw packed : Bytes) (signer seedHex : String) (key : Ed25519.KeyPair)
        (document : Document),
      ((Service.ed25519 library settings).parse compressed raw).result = .ok document →
      (Json.ofDict document.rootCas).IntegersOnly →
      (Json.ofDict document.pkiLogs).IntegersOnly →
      SpellsSeed seedHex key.seed →
      (signRaw (.ed25519 library settings) compressed raw signer seedHex).result = .ok packed →
      ∃ signed, ((Service.ed25519 library settings).parse compressed packed).result =
        .ok signed := by
  intro continues
  have lossless := Zstandard.library_lossless
  have sound := Document.reachable_sample.sound
  have readable := Document.readable_sample
  have seeded := spellsSeed_sampleSeed
  have full := maxPayload_tightSettings
  have read := Service.parse_text Zstandard.library sound readable (Nat.le_of_eq full.symm)
  have new : Document.sample.signatures.get? "1-2" = none := rfl
  obtain ⟨packed, written, refused⟩ :=
    parse_signRaw_full Zstandard.library sound readable full new seeded
  obtain ⟨signed, accepted⟩ :=
    continues _ lossless _ _ _ _ _ _ _ _ read readable.rootCas readable.pkiLogs seeded written
  cases refused.symm.trans accepted

end Tool.Command

end TrustRoot
