import TrustRoot.Envelope
import TrustRoot.Proofs.Audit
import TrustRoot.Proofs.FrameLibrary
import TrustRoot.Proofs.Zstandard.RoundTrip

/-!
# What an envelope lets out

Whatever library makes the frames, an envelope of the Zstandard codec opens to its content if that
is within the limit, and is refused otherwise (`openZstandard_of_encloses`).  One octet beyond the
limit is read to tell the two apart.  At the largest limit this number of octets does not fit its
bits, and opening any envelope breaks off.
-/

namespace TrustRoot.PayloadCodec

variable {library : FrameLibrary} {level : Int} {envelope content : Bytes}

def largestLimit : UInt64 := 0xFFFFFFFFFFFFFFFF

theorem toNat_add_one_lt_iff {limit : UInt64} :
    limit.toNat + 1 < 2 ^ 64 ↔ limit ≠ largestLimit := by
  have fits := limit.toNat_lt
  have same : limit = largestLimit ↔ limit.toNat = 2 ^ 64 - 1 := UInt64.toNat_inj.symm
  rw [ne_eq, same]
  omega

/-! ## Opening -/

theorem openZstandard_of_encloses (encloses : library.Encloses envelope content)
    {limit : UInt64} (below : limit ≠ largestLimit) :
    openZstandard library limit envelope =
      if content.length ≤ limit.toNat then .ok content else .error (.exceeds limit.toNat) := by
  obtain ⟨reader, started, reads⟩ := encloses
  have opened : openZstandard library limit envelope =
      if limit.toNat < (content.take (limit.toNat + 1)).length then .error (.exceeds limit.toNat)
      else .ok (content.take (limit.toNat + 1)) := by
    rw [openZstandard, started, budgetOf, if_pos (toNat_add_one_lt_iff.mpr below)]
    change ((library.readUpTo (limit.toNat + 1) reader).mapError _ >>= _) = _
    rw [reads.readUpTo_eq]
    rfl
  rw [opened, List.length_take]
  by_cases within : content.length ≤ limit.toNat
  · rw [if_pos within, if_neg (by omega), List.take_of_length_le (by omega)]
  · rw [if_neg within, if_pos (by omega)]

/-- At the largest limit no envelope lets anything out. -/
theorem openZstandard_largestLimit (library : FrameLibrary) (envelope : Bytes) :
    openZstandard library largestLimit envelope =
      (library.start envelope).mapError .codec >>= fun _ => .error .overflow := by
  have overflow : ¬largestLimit.toNat + 1 < 2 ^ 64 := by decide
  rw [openZstandard, budgetOf, if_neg overflow]
  rfl

theorem openZstandard_largestLimit_ne_ok (library : FrameLibrary) (envelope content : Bytes) :
    openZstandard library largestLimit envelope ≠ .ok content := by
  rw [openZstandard_largestLimit]
  cases library.start envelope <;> nofun

/-- What has been let out under one limit is let out under a larger one, but for the largest. -/
theorem openZstandard_mono (encloses : library.Encloses envelope content) {found : Bytes}
    {lower higher : UInt64} (order : lower ≤ higher) (below : higher ≠ largestLimit)
    (opened : openZstandard library lower envelope = .ok found) :
    openZstandard library higher envelope = .ok found := by
  have order : lower.toNat ≤ higher.toNat := UInt64.le_iff_toNat_le.mp order
  have lowerBelow : lower ≠ largestLimit := by
    rintro rfl
    exact openZstandard_largestLimit_ne_ok library envelope found opened
  rw [openZstandard_of_encloses encloses lowerBelow] at opened
  split at opened
  · rename_i within
    rw [openZstandard_of_encloses encloses below, if_pos (Nat.le_trans within order)]
    exact opened
  · cases opened

/-! ## Closing and opening -/

/-- What is closed opens under every limit but the largest exactly if it is within the limit.  Under
the largest limit opening breaks off.  Raising the limit otherwise refuses no envelope that has been
let out, and lets out the same. -/
theorem zstandard_exact (lossless : library.Lossless) (level : Int) (content : Bytes) :
    (∀ limit,
      (zstandard library level limit).compress content >>=
          (zstandard library level limit).decompress =
        match library.encode level content with
        | .error message => .error (.codec message)
        | .ok _ =>
          if limit = largestLimit then .error .overflow
          else if content.length ≤ limit.toNat then .ok content
          else .error (.exceeds limit.toNat)) ∧
      (∀ limit : UInt64, (EnvelopeFault.exceeds limit.toNat).message =
        s!"decompressed payload exceeds {limit} bytes") ∧
      ∀ first envelope lower higher found,
        (zstandard library level first).compress content = .ok envelope →
        lower ≤ higher → higher ≠ largestLimit →
        (zstandard library level lower).decompress envelope = .ok found →
        (zstandard library level higher).decompress envelope = .ok found := by
  refine ⟨fun limit => ?_, fun _ => rfl, ?_⟩
  · cases encoded : library.encode level content with
    | error message =>
        change (library.encode level content).mapError _ >>= _ = _
        rw [encoded]
        rfl
    | ok envelope =>
        have encloses := lossless level content envelope encoded
        change (library.encode level content).mapError _ >>= openZstandard library limit = _
        rw [encoded]
        change openZstandard library limit envelope = if _ then _ else _
        split
        · rename_i largest
          obtain ⟨reader, started, -⟩ := encloses
          rw [largest, openZstandard_largestLimit, started]
          rfl
        · rename_i below
          exact openZstandard_of_encloses encloses below
  · intro first envelope lower higher found closed order below opened
    have encoded := mapError_eq_ok_iff.mp closed
    exact openZstandard_mono (lossless level content envelope encoded) order below opened

/-- Two octets are refused with room for one, come out with room for two, and with more. -/
theorem zstandard_exact_two :
    Zstandard.library.Lossless ∧ ∃ envelope,
      (zstandard Zstandard.library 3 1).compress [0x68, 0x69] = .ok envelope ∧
      envelope = [0x28, 0xB5, 0x2F, 0xFD, 0x00, 0x58, 0x11, 0x00, 0x00, 0x68, 0x69] ∧
      (zstandard Zstandard.library 3 1).decompress envelope = .error (.exceeds 1) ∧
      (zstandard Zstandard.library 3 2).decompress envelope = .ok [0x68, 0x69] ∧
      (zstandard Zstandard.library 3 (largestLimit - 1)).decompress envelope =
        .ok [0x68, 0x69] := by
  have lossless := Zstandard.library_lossless
  have written := Zstandard.compress_of_length_lt (List.cons_ne_nil 0x68 [0x69]) (by decide)
  obtain ⟨opened, -, raised⟩ := zstandard_exact lossless 3 [0x68, 0x69]
  have two : (zstandard Zstandard.library 3 2).decompress (Zstandard.compress [0x68, 0x69]) =
      .ok [0x68, 0x69] := opened 2
  exact ⟨lossless, _, rfl, written, opened 1, two,
    raised 1 _ _ _ _ rfl (by decide) (by decide) two⟩

/-- The limit is not exact at the largest number: opening an octet breaks off. -/
theorem zstandard_breaks_off :
    ¬∀ library : FrameLibrary, library.Lossless → ∀ level limit content envelope,
      (zstandard library level limit).compress content = .ok envelope →
      content.length ≤ limit.toNat →
      (zstandard library level limit).decompress envelope = .ok content := by
  intro exact
  have opened := exact Zstandard.library Zstandard.library_lossless 3 largestLimit [0x61] _ rfl
    (by decide)
  exact openZstandard_largestLimit_ne_ok Zstandard.library _ _ opened

end TrustRoot.PayloadCodec
