import TrustRoot.Zstandard.Coded

/-!
# Writing Zstandard frames

A content is written as one frame that does not state its size. The content is cut into pieces no
larger than a block may be. A few octets are told as they are. More of them are told by one octet if
they are all equal, and in code if that can be read back and takes fewer octets. Nothing is lost
(`content_blocks`).
-/

namespace TrustRoot.Zstandard

inductive Block where
  | stored (octets : Bytes)
  | repeated (count : Nat) (octet : UInt8)
  | coded (code octets : Bytes) (decoded : Coded.decode? code = some octets)
    (shorter : code.length < octets.length)

namespace Block

def content : Block → Bytes
  | .stored octets => octets
  | .repeated count octet => List.replicate count octet
  | .coded _ octets _ _ => octets

def encode (last : Bool) : Block → Bytes
  | .stored octets => Bytes.ofNatLittle 3 (Header.bits ⟨last, .stored, octets.length⟩) ++ octets
  | .repeated count octet =>
    Bytes.ofNatLittle 3 (Header.bits ⟨last, .repeated, count⟩) ++ [octet]
  | .coded code _ _ _ => Bytes.ofNatLittle 3 (Header.bits ⟨last, .coded, code.length⟩) ++ code

/-- A block in code for some octets, if there is one. It may turn out to stand for others. -/
def ofCode? (octets : Bytes) : Option Block :=
  match Coded.encode? octets.toArray with
  | none => none
  | some code =>
    match decoded : Coded.decode? code with
    | none => none
    | some told =>
      if shorter : code.length < told.length then some (.coded code told decoded shorter) else none

/-- Fewer octets are told as they are. -/
def fewestTold : Nat := 7

def ofPiece (piece : Bytes) : Block :=
  match piece with
  | [] => .stored []
  | octet :: rest =>
    if rest.length + 1 < fewestTold then .stored (octet :: rest)
    else if rest.all (· == octet) then .repeated (rest.length + 1) octet
    else
      match (ofCode? (octet :: rest)).filter fun block => block.content == octet :: rest with
      | some block => block
      | none => .stored (octet :: rest)

theorem content_ofPiece (piece : Bytes) : (ofPiece piece).content = piece := by
  cases piece with
  | nil => rfl
  | cons octet rest =>
      simp only [ofPiece]
      split
      · rfl
      split
      · rename_i uniform
        have same : rest = List.replicate rest.length octet :=
          List.eq_replicate_iff.mpr ⟨rfl, fun other member =>
            beq_iff_eq.mp (List.all_eq_true.mp uniform other member)⟩
        rw [content, List.replicate_succ, ← same]
      · split
        · rename_i block chosen
          exact beq_iff_eq.mp (Option.filter_eq_some_iff.mp chosen).2
        · rfl

end Block

/-! ## Pieces -/

theorem length_drop_largestBlock_lt {content : Bytes} (nonempty : content ≠ []) :
    (content.drop largestBlock).length < content.length := by
  have positive : 0 < content.length := List.length_pos_iff.mpr nonempty
  have large : 0 < largestBlock := by decide
  rw [List.length_drop]
  omega

def blocks (content : Bytes) : List Block :=
  if empty : content = [] then []
  else
    have := length_drop_largestBlock_lt empty
    Block.ofPiece (content.take largestBlock) :: blocks (content.drop largestBlock)
termination_by content.length
decreasing_by assumption

theorem content_blocks (content : Bytes) : (blocks content).flatMap Block.content = content := by
  induction content using blocks.induct with
  | case1 => simp [blocks]
  | case2 content nonempty shorter ih =>
      rw [blocks, dif_neg nonempty, List.flatMap_cons, Block.content_ofPiece, ih,
        List.take_append_drop]

/-! ## Frames -/

/-- The start of a frame with a window of `2 ^ 21` octets that does not state its content size. -/
def frameStart : Bytes := [0x28, 0xB5, 0x2F, 0xFD, 0x00, 0x58]

/-- Some blocks in octets, of which the last ends the frame; a frame has a block even if it has no
content. -/
def encodeBlocks (blocks : List Block) : Bytes :=
  blocks.dropLast.flatMap (Block.encode false) ++
    (blocks.getLast?.getD (.stored [])).encode true

def compress (content : Bytes) : Bytes := frameStart ++ encodeBlocks (blocks content)

/-- A few octets are told as they are, in one block. -/
theorem compress_of_length_lt {content : Bytes} (nonempty : content ≠ [])
    (few : content.length < Block.fewestTold) :
    compress content = frameStart ++ (Block.stored content).encode true := by
  have small : content.length ≤ largestBlock :=
    Nat.le_trans (Nat.le_of_lt few) (by decide)
  have stored : Block.ofPiece content = .stored content := by
    cases content with
    | nil => rfl
    | cons octet rest => exact if_pos few
  have later : blocks (content.drop largestBlock) = [] := by
    rw [List.drop_of_length_le small, blocks, dif_pos rfl]
  have single : blocks content = [.stored content] := by
    rw [blocks, dif_neg nonempty, List.take_of_length_le small, stored, later]
  rw [compress, single]
  rfl

end TrustRoot.Zstandard
