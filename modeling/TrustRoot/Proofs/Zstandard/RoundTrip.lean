import TrustRoot.Proofs.Zstandard.Blocks
import TrustRoot.Zstandard.Library

/-!
# Compressed contents come out again

The library of Zstandard frames reads its own frames back (`library_lossless`).  A run through the
blocks of a frame hands out a part of the content and leaves the rest to octets that found no room
and to blocks that have not been read.  A portion takes a decoder to one that holds the rest.
-/

namespace TrustRoot.Zstandard

/-! ## Frames -/

/-- Another block fits the buffer of the frame, and no content size is stated. -/
structure OpenFrame.Roomy (frame : OpenFrame) : Prop where
  blockLimit : frame.blockLimit = largestBlock
  contentSize : frame.contentSize = none
  fits : frame.offset + largestBlock ≤ frame.capacity

theorem OpenFrame.Roomy.add {frame : OpenFrame} (roomy : frame.Roomy) {count : Nat}
    (small : count ≤ largestBlock) : ∃ next, frame.add count = .ok next ∧ next.Roomy := by
  have fits := roomy.fits
  have accepted : ¬(frame.capacity < frame.offset + count ∨ frame.blockLimit < count) := by
    rw [roomy.blockLimit]
    omega
  rw [OpenFrame.add, if_neg accepted]
  refine ⟨_, rfl, roomy.blockLimit, roomy.contentSize, ?_⟩
  change (if _ then 0 else frame.offset + count) + largestBlock ≤ frame.capacity
  rw [roomy.blockLimit, roomy.contentSize]
  -- A buffer without room for another block is used again from its start.
  split
  · omega
  · rename_i room
    simp only [Option.all_none, true_and, Nat.not_lt] at room
    exact room

/-- A run hands out a part of the content of at most `limit` octets.  It has handed out as many as
that if octets found no room. -/
inductive Run.Tells (limit : Nat) (content : Bytes) {bound : Nat} : Run bound → Prop
  | paused {given left : Bytes} {frame : OpenFrame} (remaining : List Block)
      (sized : ∀ block ∈ remaining, block.Sized) (roomy : frame.Roomy) (overfull : left ≠ [])
      (told : given ++ (left ++ remaining.flatMap Block.content) = content)
      (full : given.length = limit) :
      Run.Tells limit content (.paused given left frame (encodeBlocks remaining))
  | ended {given left : Bytes} {shorter : ([] : Bytes).length < bound}
      (told : given ++ left = content) (fits : given.length ≤ limit)
      (full : given.length < limit → left = []) :
      Run.Tells limit content (.ended given left [] shorter)

theorem OpenFrame.run_of_octets {frame next : OpenFrame} {room bound : Nat} {given text : Bytes}
    {fits : text.length ≤ bound} {last : Bool} {piece rest : Bytes}
    {shorter : rest.length < text.length}
    (read : readBlock frame.blockLimit text = .ok (.octets last piece rest shorter))
    (added : frame.add piece.length = .ok next) (unstated : next.contentSize = none) :
    frame.run room given bound text fits =
      if last then
        .ok (.ended ((piece.take room).reverse ++ given).reverse (piece.drop room) rest
          (Nat.lt_of_lt_of_le shorter fits))
      else if (piece.drop room).isEmpty then
        next.run (room - (piece.take room).length) ((piece.take room).reverse ++ given) bound rest
          (Nat.le_of_lt (Nat.lt_of_lt_of_le shorter fits))
      else
        .ok (.paused ((piece.take room).reverse ++ given).reverse (piece.drop room) next rest) := by
  rw [OpenFrame.run, read]
  simp only [added, unstated, Option.all_none, if_true]

theorem OpenFrame.run_encodeBlocks {bound : Nat} {blocks : List Block}
    (sized : ∀ block ∈ blocks, block.Sized) {frame : OpenFrame} (roomy : frame.Roomy) (room : Nat)
    (given : Bytes) (fits : (encodeBlocks blocks).length ≤ bound) :
    ∃ run, frame.run room given bound (encodeBlocks blocks) fits = .ok run ∧
      run.Tells (given.length + room) (given.reverse ++ blocks.flatMap Block.content) := by
  -- What has been given and the blocks that follow always make up the content; the room that is
  -- left and what has been given make up the limit.
  induction blocks generalizing frame room given with
  | nil =>
      obtain ⟨shorter, read⟩ := readBlock_encodeBlocks_nil
      rw [← roomy.blockLimit] at read
      refine ⟨.ended given.reverse [] [] (Nat.lt_of_lt_of_le shorter fits), ?_, .ended ?_ ?_ ?_⟩
      · rw [OpenFrame.run, read]
        rfl
      · rw [List.flatMap_nil]
      · rw [List.length_reverse]
        exact Nat.le_add_right _ _
      · exact fun _ => rfl
  | cons block later ih =>
      have here := sized block List.mem_cons_self
      obtain ⟨next, added, nextRoomy⟩ := roomy.add here.length_le
      have parts := List.take_append_drop room block.content
      have handedOut : ((block.content.take room).reverse ++ given).reverse.length =
          min room block.content.length + given.length := by
        rw [List.length_reverse, List.length_append, List.length_reverse, List.length_take]
      cases later with
      | nil =>
          obtain ⟨shorter, read⟩ := readBlock_encodeBlocks_singleton here
          rw [← roomy.blockLimit] at read
          rw [OpenFrame.run_of_octets read added nextRoomy.contentSize, if_pos rfl]
          refine ⟨_, rfl, .ended ?_ ?_ ?_⟩
          · simp [parts]
          · rw [handedOut]
            omega
          · rw [handedOut]
            intro room
            exact List.drop_of_length_le (by omega)
      | cons second later =>
          obtain ⟨shorter, read⟩ := readBlock_encodeBlocks_cons_cons here second later
          rw [← roomy.blockLimit] at read
          rw [OpenFrame.run_of_octets read added nextRoomy.contentSize, if_neg Bool.false_ne_true]
          have others : ∀ block ∈ second :: later, block.Sized := fun block member =>
            sized block (List.mem_cons_of_mem _ member)
          split
          · rename_i exhausted
            have small : block.content.length ≤ room :=
              List.drop_eq_nil_iff.mp (List.isEmpty_iff.mp exhausted)
            rw [List.take_of_length_le small]
            obtain ⟨run, ran, tells⟩ := ih others nextRoomy (room - block.content.length)
              (block.content.reverse ++ given) (Nat.le_of_lt (Nat.lt_of_lt_of_le shorter fits))
            have limit : (block.content.reverse ++ given).length + (room - block.content.length) =
                given.length + room := by
              rw [List.length_append, List.length_reverse]
              omega
            rw [limit, List.reverse_append, List.reverse_reverse, List.append_assoc,
              ← List.flatMap_cons] at tells
            exact ⟨run, ran, tells⟩
          · rename_i overfull
            have beyond := mt List.drop_of_length_le (mt List.isEmpty_iff.mpr overfull)
            refine ⟨_, rfl, .paused _ others nextRoomy ?_ ?_ ?_⟩
            · exact mt List.isEmpty_iff.mpr overfull
            · rw [List.reverse_append, List.reverse_reverse, List.append_assoc,
                ← List.append_assoc _ _ (List.flatMap _ _), parts, ← List.flatMap_cons]
            · rw [handedOut]
              omega

/-! ## Decoders -/

/-- The decoder has a content to hand out: all that has been written, or octets that found no room
and then the blocks that are left of the frame, if it is inside one. -/
inductive Decoder.Holds (content : Bytes) : Decoder → Prop
  | outset : Decoder.Holds content (.ofText (compress content))
  | inside {left : Bytes} {buffers : Buffers} {frame : OpenFrame} (remaining : List Block)
      (sized : ∀ block ∈ remaining, block.Sized) (roomy : frame.Roomy)
      (told : left ++ remaining.flatMap Block.content = content) :
      Decoder.Holds content ⟨left, buffers, .inside frame, encodeBlocks remaining⟩
  | between {buffers : Buffers} : Decoder.Holds content ⟨content, buffers, .between, []⟩

/-- A portion is the first part of the content, fits the room and is empty only if the content is;
the decoder holds the rest. -/
def Decoder.Delivers (room : Nat) (content : Bytes) (delivered : Bytes × Decoder) : Prop :=
  ∃ rest, content = delivered.1 ++ rest ∧ delivered.1.length ≤ room ∧
    (delivered.1 = [] → content = []) ∧ delivered.2.Holds rest

/-- What a step gives if there is a content to hand out. -/
inductive Step.Tells (room : Nat) (content : Bytes) {bound : Nat} : Step bound → Prop
  | portion {given : Bytes} {decoder : Decoder}
      (delivers : Decoder.Delivers room content (given, decoder)) :
      Step.Tells room content (.portion given decoder)
  | nothing {buffers : Buffers} {shorter : ([] : Bytes).length < bound} (empty : content = []) :
      Step.Tells room content (.nothing buffers [] shorter)

theorem OpenFrame.step_encodeBlocks {bound : Nat} {blocks : List Block}
    (sized : ∀ block ∈ blocks, block.Sized) {frame : OpenFrame} (roomy : frame.Roomy)
    (buffers : Buffers) {room : Nat} (positive : 0 < room)
    (fits : (encodeBlocks blocks).length ≤ bound) :
    ∃ step, frame.step buffers room bound (encodeBlocks blocks) fits = .ok step ∧
      step.Tells room (blocks.flatMap Block.content) := by
  obtain ⟨run, ran, tells⟩ := OpenFrame.run_encodeBlocks sized roomy room [] fits
  rw [List.length_nil, Nat.zero_add, List.reverse_nil, List.nil_append] at tells
  rw [OpenFrame.step, ran]
  cases tells with
  | @paused given left frame remaining sized roomy overfull told full =>
      have something : ¬(given.isEmpty && left.isEmpty) = true := by simp [overfull]
      refine ⟨_, if_neg something, .portion ⟨_, told.symm, Nat.le_of_eq full, fun none => ?_,
        .inside remaining sized roomy rfl⟩⟩
      obtain rfl : given = [] := none
      exact absurd full (Nat.ne_of_lt positive)
  | @ended given left shorter told fits full =>
      have empty : given = [] → blocks.flatMap Block.content = [] := by
        rintro rfl
        rw [← told, full positive, List.nil_append]
      by_cases nothing : (given.isEmpty && left.isEmpty) = true
      · rw [Bool.and_eq_true, List.isEmpty_iff] at nothing
        refine ⟨_, if_pos ?_, .nothing (empty nothing.1)⟩
        rw [Bool.and_eq_true, List.isEmpty_iff]
        exact nothing
      · exact ⟨_, if_neg nothing, .portion ⟨left, told.symm, fits, empty, .between⟩⟩

/-! ## Portions -/

theorem readFrame_frameStart (rest : Bytes) :
    ∃ fits, readFrame (0x00 :: 0x58 :: rest) = .ok (⟨2 ^ 21, none, 0⟩, ⟨rest, fits⟩) := by
  refine ⟨by simp only [List.length_cons]; omega, ?_⟩
  simp [readFrame, readField, Bytes.toNatLittle, bind, Except.bind, dictionaryOctets,
    contentSizeOctets, windowOf, largestExponent]

theorem startFrame_compress (buffers : Buffers) (room : Nat) (content : Bytes) :
    ∃ fits, startFrame buffers room (compress content) =
      Frame.step ⟨2 ^ 21, none, 0⟩ buffers room _ (encodeBlocks (blocks content)) fits := by
  obtain ⟨fits, read⟩ := readFrame_frameStart (encodeBlocks (blocks content))
  have number : Bytes.toNatLittle [0x28, 0xB5, 0x2F, 0xFD] = frameNumber := by decide
  refine ⟨by simp only [compress, List.length_append]; omega, ?_⟩
  simp only [compress, frameStart, List.cons_append, List.nil_append, startFrame, number, if_true,
    read]

/-- The first step into what has been written. -/
theorem startFrame_compress_tells {room : Nat} (positive : 0 < room) (content : Bytes) :
    ∃ step, startFrame ⟨0, 0⟩ room (compress content) = .ok step ∧ step.Tells room content := by
  obtain ⟨fits, started⟩ := startFrame_compress ⟨0, 0⟩ room content
  let buffers : Buffers := Buffers.serve ⟨0, 0⟩ (2 ^ 21) largestBlock none
  have roomy : OpenFrame.Roomy ⟨largestBlock, none, buffers.output, 0, 0⟩ :=
    ⟨rfl, rfl, by decide⟩
  obtain ⟨step, stepped, tells⟩ := OpenFrame.step_encodeBlocks
    (fun _ => Block.sized_of_mem_blocks) roomy buffers positive fits
  rw [content_blocks] at tells
  exact ⟨step, started.trans stepped, tells⟩

theorem nextPortion_between (buffers : Buffers) (room : Nat) :
    nextPortion .between buffers room [] = .ok ([], ⟨[], buffers, .between, []⟩) := by
  rw [nextPortion]
  rfl

theorem Decoder.Delivers.nothing (buffers : Buffers) (room : Nat) :
    Decoder.Delivers room [] ([], ⟨[], buffers, .between, []⟩) :=
  ⟨[], rfl, Nat.zero_le _, fun none => none, .between⟩

/-- Octets that found no room are handed out first. -/
theorem Decoder.Delivers.ofLeft {room : Nat} (positive : 0 < room) {left content later : Bytes}
    (overfull : left ≠ []) (told : left ++ later = content) {next : Decoder}
    (holds : next.Holds (left.drop room ++ later)) :
    Decoder.Delivers room content (left.take room, next) := by
  refine ⟨_, ?_, List.length_take_le _ _, fun none => ?_, holds⟩
  · rw [← List.append_assoc, List.take_append_drop, told]
  · rcases List.take_eq_nil_iff.mp none with none | none
    · exact absurd none (Nat.ne_of_gt positive)
    · exact absurd none overfull

/-- A portion takes a decoder to one that holds the rest. -/
theorem Decoder.Holds.portion {content : Bytes} {decoder : Decoder} (holds : decoder.Holds content)
    {room : Nat} (positive : 0 < room) :
    ∃ delivered, decoder.portion room = .ok delivered ∧
      Decoder.Delivers room content delivered := by
  cases holds with
  | outset =>
      obtain ⟨step, stepped, tells⟩ := startFrame_compress_tells positive content
      change ∃ delivered, nextPortion .outset ⟨0, 0⟩ room (compress content) = .ok delivered ∧ _
      have written : ¬(compress content).isEmpty = true := Bool.false_ne_true
      unfold nextPortion
      rw [if_neg written, stepped]
      cases tells with
      | portion delivers => exact ⟨_, rfl, delivers⟩
      | @nothing buffers shorter empty =>
          subst empty
          exact ⟨_, nextPortion_between buffers room, .nothing buffers room⟩
  | @inside left buffers frame remaining sized roomy told =>
      by_cases drained : left = []
      · subst drained
        obtain ⟨step, stepped, tells⟩ :=
          OpenFrame.step_encodeBlocks sized roomy buffers positive (Nat.le_refl _)
        rw [← List.nil_append (remaining.flatMap _), told] at tells
        simp only [Decoder.portion, List.isEmpty_nil, if_true, stepped]
        cases tells with
        | portion delivers => exact ⟨_, rfl, delivers⟩
        | @nothing buffers shorter empty =>
            subst empty
            exact ⟨_, nextPortion_between buffers room, .nothing buffers room⟩
      · refine ⟨_, if_neg (mt List.isEmpty_iff.mp drained), .ofLeft positive drained told ?_⟩
        exact .inside remaining sized roomy rfl
  | @between buffers =>
      by_cases drained : content = []
      · subst drained
        exact ⟨_, nextPortion_between buffers room, .nothing buffers room⟩
      · refine ⟨_, if_neg (mt List.isEmpty_iff.mp drained),
          .ofLeft positive drained (List.append_nil _) ?_⟩
        rw [List.append_nil]
        exact .between

/-! ## The library -/

/-- A decoder that holds a content is a reader of it. -/
theorem Decoder.Holds.reads {content : Bytes} {decoder : Decoder} (holds : decoder.Holds content) :
    library.Reads decoder content := by
  -- The rest is shorter than the content as long as something is handed out.
  induction size : content.length using Nat.strongRecOn generalizing content decoder with
  | ind size ih =>
      subst size
      have read {room : Nat} (positive : 0 < room) : ∃ given next fits,
          library.read decoder room = .ok ⟨given, fits, next⟩ ∧
          Decoder.Delivers room content (given, next) := by
        obtain ⟨⟨given, next⟩, delivered, rest, parts, fits, nonempty⟩ := holds.portion positive
        refine ⟨given, next, fits, ?_, rest, parts, fits, nonempty⟩
        simp only [library, delivered, List.take_of_length_le fits]
      by_cases none : content = []
      · subst none
        refine .drained fun room positive => ?_
        obtain ⟨given, next, fits, delivered, rest, parts, -⟩ := read positive
        exact ⟨_, delivered, (List.append_eq_nil_iff.mp parts.symm).1⟩
      · refine .holding (fun room positive => ?_) fun room portion rest positive given parts => ?_
        · obtain ⟨given, next, fits, delivered, rest, parts, -, nonempty, -⟩ := read positive
          exact ⟨_, rest, delivered, mt nonempty none, parts⟩
        · obtain ⟨given', next, fits, delivered, rest', parts', -, nonempty, holds⟩ := read positive
          obtain rfl := Except.ok.inj (delivered.symm.trans given)
          obtain rfl := List.append_cancel_left (parts'.symm.trans parts)
          refine ih _ ?_ holds rfl
          have some := List.length_pos_iff.mpr (mt nonempty none)
          rw [parts, List.length_append]
          exact Nat.lt_add_of_pos_left some

theorem library_encodesAll (level : Int) : library.EncodesAll level := fun _ => ⟨_, rfl⟩

/-- What has been written is read back. -/
theorem library_lossless : library.Lossless := by
  intro _ content _ encoded
  obtain rfl := Except.ok.inj encoded
  exact ⟨_, rfl, Decoder.Holds.outset.reads⟩

end TrustRoot.Zstandard
