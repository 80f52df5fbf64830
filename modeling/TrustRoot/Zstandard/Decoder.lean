import TrustRoot.Zstandard.Coded
import TrustRoot.Zstandard.Frame

/-!
# Decoding Zstandard frames in portions

A decoder hands out the content of a text in portions. A portion takes what is left of a block that
has been decoded; if nothing is left, decoding goes on until the room for the portion is full, a
frame ends or the text ends. The block that overfills the room is decoded whole, so a fault is
found by the portion that first touches the faulty block, and that portion is lost. A portion that
would be empty goes on into the next frame.

A frame whose stated content fits the room, and which is there to its end, is decoded at once. Any
other frame is decoded block by block through an output buffer, and there its window is bounded. The
buffer holds the whole content if that is stated and small, and else a window and some blocks; the
content size is compared at the end of the last block that has octets.
-/

namespace TrustRoot.Zstandard

/-! ## Blocks -/

/-- The octets that a block tells, from those that follow its header, if they can be read. -/
def Block.Header.content? (header : Block.Header) (told : Bytes) : Option Bytes :=
  match header.kind with
  | .stored | .reserved => some told
  | .repeated => some (told.flatMap (List.replicate header.size))
  | .coded => Coded.decode? told

/-- What comes next in the blocks of a frame, in a text of `bound` octets. -/
inductive NextBlock (bound : Nat) where
  | incomplete
  | empty (last : Bool) (rest : Bytes) (shorter : rest.length < bound)
  /-- The octets of a block, or those up to the end of the text, after which no block is the
  last. -/
  | octets (last : Bool) (piece : Bytes) (rest : Bytes) (shorter : rest.length < bound)

/-- The block at the front, which may take at most `limit` octets. -/
def readBlock (limit : Nat) (text : Bytes) : Except Fault (NextBlock text.length) :=
  match text with
  | first :: second :: third :: rest =>
    let header := Block.Header.ofBits (Bytes.toNatLittle [first, second, third])
    if header.kind = .reserved ∨ limit < header.extent then .error .invalidBlock
    else if header.extent = 0 then
      .ok (.empty header.last rest (by simp only [List.length_cons]; omega))
    else
      let told := rest.take header.extent
      let isWhole : Bool := told.length == header.extent
      if told.isEmpty ∨ (header.kind = .coded ∧ !isWhole) then .ok .incomplete
      else
        match header.content? told with
        | none => .error .unsupported
        | some piece =>
          .ok (.octets (header.last && isWhole) piece (rest.drop header.extent) (by
            simp only [List.length_drop, List.length_cons]; omega))
  | _ => .ok .incomplete

structure OpenFrame where
  blockLimit : Nat
  /-- The size of the content, if stated. -/
  contentSize : Option Nat
  capacity : Nat
  produced : Nat
  offset : Nat

/-- The frame after `count` more octets. A buffer that cannot hold the whole content is used again
from its start when another block might not fit. -/
def OpenFrame.add (frame : OpenFrame) (count : Nat) : Except Fault OpenFrame :=
  if frame.capacity < frame.offset + count ∨ frame.blockLimit < count then .error .invalidBlock
  else
    let offset := frame.offset + count
    let isFull := frame.contentSize.all (frame.capacity < ·) ∧
      frame.capacity < offset + frame.blockLimit
    .ok { frame with
      produced := frame.produced + count, offset := if isFull then 0 else offset }

/-- What a run through the blocks of a frame gives, in a text of `bound` octets: octets for the
portion, and octets of the last block that found no room. -/
inductive Run (bound : Nat) where
  | paused (given left : Bytes) (frame : OpenFrame) (rest : Bytes)
  | ended (given left : Bytes) (rest : Bytes) (shorter : rest.length < bound)

/-- Goes through blocks until the room is full, the frame ends or the text ends. What has been given
is held latest first. -/
def OpenFrame.run (frame : OpenFrame) (room : Nat) (given : Bytes) (bound : Nat) (text : Bytes)
    (fits : text.length ≤ bound) : Except Fault (Run bound) :=
  match readBlock frame.blockLimit text with
  | .error fault => .error fault
  | .ok .incomplete => .ok (.paused given.reverse [] frame [])
  | .ok (.empty last rest shorter) =>
    if last then .ok (.ended given.reverse [] rest (Nat.lt_of_lt_of_le shorter fits))
    else frame.run room given bound rest (Nat.le_of_lt (Nat.lt_of_lt_of_le shorter fits))
  | .ok (.octets last piece rest shorter) =>
    match frame.add piece.length with
    | .error fault => .error fault
    | .ok frame =>
      let now := piece.take room
      let left := piece.drop room
      let given := now.reverse ++ given
      if last then
        if frame.contentSize.all (· == frame.produced) then
          .ok (.ended given.reverse left rest (Nat.lt_of_lt_of_le shorter fits))
        else .error .wrongSize
      else if left.isEmpty then
        frame.run (room - now.length) given bound rest
          (Nat.le_of_lt (Nat.lt_of_lt_of_le shorter fits))
      else .ok (.paused given.reverse left frame rest)
termination_by text.length

/-! ## Whole frames -/

/-- The blocks of a frame that a text of `bound` octets holds to its end: each header with the octets
that follow it. -/
structure WholeFrame (bound : Nat) where
  blocks : List (Block.Header × Bytes)
  rest : Bytes
  shorter : rest.length < bound

/-- The blocks up to the last one, if all are there and none is reserved. Those before are held
latest first. -/
def wholeFrame? (blocks : List (Block.Header × Bytes)) (bound : Nat) (text : Bytes)
    (fits : text.length ≤ bound) : Option (WholeFrame bound) :=
  match text with
  | first :: second :: third :: rest =>
    let header := Block.Header.ofBits (Bytes.toNatLittle [first, second, third])
    let told := rest.take header.extent
    if header.kind = .reserved ∨ told.length ≠ header.extent then none
    else
      have shorter : (rest.drop header.extent).length < (first :: second :: third :: rest).length := by
        simp only [List.length_drop, List.length_cons]; omega
      if header.last then
        some ⟨((header, told) :: blocks).reverse, rest.drop header.extent,
          Nat.lt_of_lt_of_le shorter fits⟩
      else
        wholeFrame? ((header, told) :: blocks) bound (rest.drop header.extent)
          (Nat.le_of_lt (Nat.lt_of_lt_of_le shorter fits))
  | _ => none
termination_by text.length

/-- The content of a whole frame, of which `missing` octets are missing and `content` is there,
latest first. -/
def wholeContent (missing : Nat) (content : Bytes) :
    List (Block.Header × Bytes) → Except Fault Bytes
  | [] => if missing = 0 then .ok content.reverse else .error .wrongSize
  | (header, told) :: rest =>
    if header.kind ≠ .coded ∧ missing < header.size then .error .wrongSize
    else
      match header.content? told with
      | none => .error .unsupported
      | some piece =>
        if missing < piece.length then .error .wrongSize
        else wholeContent (missing - piece.length) (piece.reverse ++ content) rest

/-! ## Decoders -/

/-- The sizes of the buffers that serve one frame after the other. -/
structure Buffers where
  input : Nat
  output : Nat

/-- Buffers of at least these sizes: the same ones if both are large enough, and else new ones. -/
def Buffers.fit (buffers : Buffers) (input output : Nat) : Buffers :=
  if input ≤ buffers.input ∧ output ≤ buffers.output then buffers else ⟨input, output⟩

def smallestWindow : Nat := 1024

def windowLimit : Nat := 2 ^ 27 + 1

def smallestInput : Nat := 4

def outputMargin : Nat := 64

/-- Buffers for a frame with such a window, block limit and content size. -/
def Buffers.serve (buffers : Buffers) (window blockLimit : Nat) (contentSize : Option Nat) :
    Buffers :=
  let window := max window smallestWindow
  let output := window + 2 * blockLimit + outputMargin
  buffers.fit (max blockLimit smallestInput) ((contentSize.map (min output)).getD output)

inductive Place where
  /-- Before the first frame. -/
  | outset
  | inside (frame : OpenFrame)
  | between

structure Decoder where
  left : Bytes
  buffers : Buffers
  place : Place
  text : Bytes

def Decoder.ofText (text : Bytes) : Decoder := ⟨[], ⟨0, 0⟩, .outset, text⟩

/-- What a step gives in a text of `bound` octets. -/
inductive Step (bound : Nat) where
  | portion (given : Bytes) (decoder : Decoder)
  | nothing (buffers : Buffers) (rest : Bytes) (shorter : rest.length < bound)

def OpenFrame.step (frame : OpenFrame) (buffers : Buffers) (room bound : Nat) (text : Bytes)
    (fits : text.length ≤ bound) : Except Fault (Step bound) :=
  match frame.run room [] bound text fits with
  | .error fault => .error fault
  | .ok (.paused given left frame rest) =>
    if given.isEmpty && left.isEmpty then .error .truncated
    else .ok (.portion given ⟨left, buffers, .inside frame, rest⟩)
  | .ok (.ended given left rest shorter) =>
    if given.isEmpty && left.isEmpty then .ok (.nothing buffers rest shorter)
    else .ok (.portion given ⟨left, buffers, .between, rest⟩)

def Frame.step (frame : Frame) (buffers : Buffers) (room bound : Nat) (text : Bytes)
    (fits : text.length ≤ bound) : Except Fault (Step bound) :=
  let whole? := (frame.contentSize.filter (· ≤ room)).bind fun size =>
    (wholeFrame? [] bound text fits).map fun whole => (size, whole)
  if frame.dictionary ≠ 0 then .error .unsupported
  else
    match whole? with
    | some (size, whole) =>
      match wholeContent size [] whole.blocks with
      | .error fault => .error fault
      | .ok [] => .ok (.nothing buffers whole.rest whole.shorter)
      | .ok given => .ok (.portion given ⟨[], buffers, .between, whole.rest⟩)
    | none =>
      if windowLimit < frame.window then .error .windowTooLarge
      else
        let buffers := buffers.serve frame.window frame.blockLimit frame.contentSize
        OpenFrame.step ⟨frame.blockLimit, frame.contentSize, buffers.output, 0, 0⟩ buffers room
          bound text fits

def startFrame (buffers : Buffers) (room : Nat) (text : Bytes) : Except Fault (Step text.length) :=
  match text with
  | a :: b :: c :: d :: rest =>
    let number := Bytes.toNatLittle [a, b, c, d]
    if number = frameNumber then
      match readFrame rest with
      | .error fault => .error fault
      | .ok (frame, ⟨text, fits⟩) =>
        frame.step buffers room _ text (by simp only [List.length_cons]; omega)
    else if isSkippable number then
      match readField 4 rest with
      | .error fault => .error fault
      | .ok (size, ⟨text, fits⟩) =>
        if (text.take size).length < size then .error .truncated
        else
          .ok (.nothing (buffers.serve 0 0 (some size)) (text.drop size) (by
            simp only [List.length_drop, List.length_cons]; omega))
    else .error .unknownFrame
  | _ => .error .truncated

/-- The next portion from the start of a frame on. It is empty if the text ends after a frame. -/
def nextPortion (place : Place) (buffers : Buffers) (room : Nat) (text : Bytes) :
    Except Fault (Bytes × Decoder) :=
  if text.isEmpty then
    match place with
    | .between => .ok ([], ⟨[], buffers, .between, []⟩)
    | _ => .error .truncated
  else
    match startFrame buffers room text with
    | .error fault => .error fault
    | .ok (.portion given decoder) => .ok (given, decoder)
    | .ok (.nothing buffers rest _) => nextPortion .between buffers room rest
termination_by text.length

def Decoder.portion (room : Nat) (decoder : Decoder) : Except Fault (Bytes × Decoder) :=
  if decoder.left.isEmpty then
    match decoder.place with
    | .inside frame =>
      match frame.step decoder.buffers room _ decoder.text (Nat.le_refl _) with
      | .error fault => .error fault
      | .ok (.portion given decoder) => .ok (given, decoder)
      | .ok (.nothing buffers rest _) => nextPortion .between buffers room rest
    | place => nextPortion place decoder.buffers room decoder.text
  else .ok (decoder.left.take room, { decoder with left := decoder.left.drop room })

end TrustRoot.Zstandard
