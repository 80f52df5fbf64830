import TrustRoot.Zstandard.Decoder
import TrustRoot.Zstandard.Writer

/-!
# Blocks are read back

A block that holds something and is no larger than a block may be is read back with its content
(`readBlock_encode`), in whichever way it is written, and a content is cut into such blocks only
(`sized_of_mem_blocks`).
-/

namespace TrustRoot.Zstandard

namespace Block

/-- The block holds something, and no more than a block may. -/
structure Sized (block : Block) : Prop where
  nonempty : block.content ≠ []
  length_le : block.content.length ≤ largestBlock

theorem sized_of_mem_blocks {content : Bytes} {block : Block} (member : block ∈ blocks content) :
    block.Sized := by
  induction content using blocks.induct with
  | case1 => simp [blocks] at member
  | case2 content nonempty shorter ih =>
      rw [blocks, dif_neg nonempty, List.mem_cons] at member
      rcases member with rfl | later
      · constructor
        · rw [content_ofPiece]
          intro empty
          rcases List.take_eq_nil_iff.mp empty with none | empty
          · cases none
          · exact nonempty empty
        · rw [content_ofPiece]
          exact List.length_take_le _ _
      · exact ih later

/-! ## Headers -/

def header (last : Bool) : Block → Header
  | .stored octets => ⟨last, .stored, octets.length⟩
  | .repeated count _ => ⟨last, .repeated, count⟩
  | .coded code _ _ _ => ⟨last, .coded, code.length⟩

/-- What follows the header. -/
def told : Block → Bytes
  | .stored octets => octets
  | .repeated _ octet => [octet]
  | .coded code _ _ _ => code

theorem encode_eq (block : Block) (last : Bool) :
    block.encode last = Bytes.ofNatLittle 3 (block.header last).bits ++ block.told := by
  cases block <;> rfl

theorem length_told (block : Block) (last : Bool) :
    block.told.length = (block.header last).extent := by
  cases block <;> rfl

theorem content?_header (block : Block) (last : Bool) :
    (block.header last).content? block.told = some block.content := by
  cases block with
  | stored octets => rfl
  | repeated count octet =>
      simp [header, told, Header.content?, content]
  | coded code octets decoded shorter => exact decoded

@[simp] theorem last_header (block : Block) (last : Bool) : (block.header last).last = last := by
  cases block <;> rfl

theorem kind_header_ne_reserved (block : Block) (last : Bool) :
    (block.header last).kind ≠ .reserved := by
  cases block <;> simp [header]

namespace Sized

variable {block : Block}

theorem size_header_le (sized : block.Sized) (last : Bool) :
    (block.header last).size ≤ largestBlock := by
  cases block with
  | stored octets => exact sized.length_le
  | repeated count octet =>
      have length_le := sized.length_le
      rwa [content, List.length_replicate] at length_le
  | coded code octets decoded shorter => exact Nat.le_trans (Nat.le_of_lt shorter) sized.length_le

theorem extent_header_le (sized : block.Sized) (last : Bool) :
    (block.header last).extent ≤ largestBlock := by
  rw [Header.extent]
  split
  · decide
  · exact sized.size_header_le last

/-- Octets in code tell something only if there are some. -/
theorem told_ne_nil (sized : block.Sized) : block.told ≠ [] := by
  cases block with
  | stored octets => exact sized.nonempty
  | repeated count octet => exact List.cons_ne_nil _ _
  | coded code octets decoded shorter =>
      rintro rfl
      cases decoded

/-- The header fits its three octets. -/
theorem ofBits_header (sized : block.Sized) (last : Bool) :
    Header.ofBits (Bytes.toNatLittle (Bytes.ofNatLittle 3 (block.header last).bits)) =
      block.header last := by
  have small : (block.header last).size ≤ 131072 := sized.size_header_le last
  have code : (block.header last).kind.code < 4 := by
    cases (block.header last).kind <;> decide
  have fits : (block.header last).bits < 256 ^ 3 := by
    rw [Header.bits]
    split <;> omega
  rw [Bytes.toNatLittle_ofNatLittle 3 _ fits, Header.ofBits_bits]

end Sized

end Block

/-! ## Reading -/

theorem readBlock_encode {block : Block} (sized : block.Sized) (last : Bool) (rest : Bytes) :
    ∃ shorter, readBlock largestBlock (block.encode last ++ rest) =
      .ok (.octets last block.content rest shorter) := by
  have header := sized.ofBits_header last
  have fits := Nat.not_lt.mpr (sized.extent_header_le last)
  have length_told := block.length_told last
  have told : (block.told ++ rest).take (block.header last).extent = block.told := by
    rw [← length_told, List.take_left]
  have remaining : (block.told ++ rest).drop (block.header last).extent = rest := by
    rw [← length_told, List.drop_left]
  have positive : (block.header last).extent ≠ 0 := by
    rw [← length_told]
    exact mt List.length_eq_zero_iff.mp sized.told_ne_nil
  rw [block.encode_eq last, List.append_assoc]
  have shorter : rest.length <
      (Bytes.ofNatLittle 3 (block.header last).bits ++ (block.told ++ rest)).length := by
    simp only [List.length_append, Bytes.length_ofNatLittle]
    omega
  refine ⟨shorter, ?_⟩
  simp only [Bytes.ofNatLittle] at header
  simp only [Bytes.ofNatLittle, List.cons_append, List.nil_append, readBlock, header, told,
    remaining, length_told, block.kind_header_ne_reserved last, fits, or_self, positive,
    block.content?_header last, List.isEmpty_iff, sized.told_ne_nil, beq_self_eq_true,
    Bool.not_true, Bool.false_eq_true, and_false, if_false, block.last_header, Bool.and_true]

/-! ## Sequences of blocks -/

theorem readBlock_encodeBlocks_nil :
    ∃ shorter, readBlock largestBlock (encodeBlocks []) = .ok (.empty true [] shorter) :=
  ⟨_, rfl⟩

theorem readBlock_encodeBlocks_singleton {block : Block} (sized : block.Sized) :
    ∃ shorter, readBlock largestBlock (encodeBlocks [block]) =
      .ok (.octets true block.content [] shorter) := by
  have read := readBlock_encode sized true []
  rwa [List.append_nil] at read

theorem readBlock_encodeBlocks_cons_cons {block : Block} (sized : block.Sized) (next : Block)
    (later : List Block) :
    ∃ shorter, readBlock largestBlock (encodeBlocks (block :: next :: later)) =
      .ok (.octets false block.content (encodeBlocks (next :: later)) shorter) := by
  have encoded : encodeBlocks (block :: next :: later) =
      block.encode false ++ encodeBlocks (next :: later) := by
    simp [encodeBlocks]
  rw [encoded]
  exact readBlock_encode sized false _

end TrustRoot.Zstandard
