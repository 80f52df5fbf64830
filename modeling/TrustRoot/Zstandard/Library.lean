import TrustRoot.FrameLibrary
import TrustRoot.Zstandard.Decoder
import TrustRoot.Zstandard.Writer

/-!
# A library of Zstandard frames

Runs of the program need some library of frames, and this is the one that they have. It writes and
reads the part of the format that the modules of this directory describe and takes no notice of the
level. Nothing that holds of the program depends on it.
-/

namespace TrustRoot.Zstandard

def library : FrameLibrary where
  Reader := Decoder
  encode _ content := .ok (compress content)
  start text := .ok (.ofText text)
  read decoder room :=
    match decoder.portion room with
    | .error fault => .error fault.message
    | .ok (given, next) => .ok ⟨given.take room, List.length_take_le _ _, next⟩

end TrustRoot.Zstandard
