import TrustRoot.Bytes

/-!
# Libraries of compressed frames

Envelopes are made by a library that is none of the project's own. It closes octets in a frame, at
some level of effort, and hands out the content of a frame in portions, as much at a time as there
is room for. Whatever frames look like, the library is expected to read its own back
(`FrameLibrary.Lossless`).

The content of a frame is collected in a store that grows, up to a given number of octets. How much
is asked for at a time decides how far the library runs ahead of the octets that are collected, and
so whether a fault behind them is found.
-/

namespace TrustRoot

/-- What is handed out for some room, and the reader that is left. -/
structure Portion (Reader : Type) (room : Nat) where
  octets : Bytes
  fits : octets.length ≤ room
  next : Reader

/-- A library of frames. A failure is a reason in words. -/
structure FrameLibrary where
  /-- A frame that is being read. -/
  Reader : Type
  encode : (level : Int) → (content : Bytes) → Except String Bytes
  start : (frame : Bytes) → Except String Reader
  read : Reader → (room : Nat) → Except String (Portion Reader room)

namespace FrameLibrary

/-! ## What a library promises -/

/-- The reader hands out the content: octets that come next as long as there are any, whatever the
room, and then none. -/
inductive Reads (library : FrameLibrary) : library.Reader → Bytes → Prop where
  | drained {reader : library.Reader}
      (ends : ∀ room, 0 < room →
        ∃ portion, library.read reader room = .ok portion ∧ portion.octets = []) :
      Reads library reader []
  | holding {reader : library.Reader} {content : Bytes}
      (gives : ∀ room, 0 < room → ∃ portion rest, library.read reader room = .ok portion ∧
        portion.octets ≠ [] ∧ content = portion.octets ++ rest)
      (keeps : ∀ room portion rest, 0 < room → library.read reader room = .ok portion →
        content = portion.octets ++ rest → Reads library portion.next rest) :
      Reads library reader content

/-- The frame reads as the content. -/
def Encloses (library : FrameLibrary) (frame content : Bytes) : Prop :=
  ∃ reader, library.start frame = .ok reader ∧ library.Reads reader content

/-- Every frame that the library makes reads as its content. -/
def Lossless (library : FrameLibrary) : Prop :=
  ∀ level content frame, library.encode level content = .ok frame → library.Encloses frame content

/-- The library makes a frame of every content at a level. -/
def EncodesAll (library : FrameLibrary) (level : Int) : Prop :=
  ∀ content, ∃ frame, library.encode level content = .ok frame

/-! ## Collecting the content -/

/-- How much is asked for next. Octets that have come out are kept in a store, and a portion is to
fill the room that is left in it, up to a ceiling. -/
structure Demand where
  held : Nat
  capacity : Nat
  ceiling : Nat

def leastRoom : Nat := 32

/-- The demand after a first portion of `count` octets. -/
def Demand.ofFirst (count : Nat) : Demand := ⟨count, count, 8192⟩

/-- The demand on a store that has the least room: a store with less grows, to twice its size at
least. -/
def Demand.grown (demand : Demand) : Demand :=
  if demand.capacity - demand.held < leastRoom then
    { demand with capacity := max (2 * demand.capacity) (demand.held + leastRoom) }
  else demand

def Demand.size (demand : Demand) : Nat := min (demand.capacity - demand.held) demand.ceiling

/-- The demand after a portion of `count` octets. The ceiling doubles when a portion reaches it. -/
def Demand.add (demand : Demand) (count : Nat) : Demand :=
  { demand with
    held := demand.held + count
    ceiling := if demand.ceiling ≤ count then 2 * demand.ceiling else demand.ceiling }

variable (library : FrameLibrary)

/-- Collects portions until `budget` more octets have come out or an empty portion comes. `content`
holds what has come out, latest first. -/
def collect (demand : Demand) (budget : Nat) (content : Bytes) (reader : library.Reader) :
    Except String Bytes :=
  if budget = 0 then .ok content.reverse
  else
    let demand := demand.grown
    match library.read reader (min demand.size budget) with
    | .error fault => .error fault
    | .ok portion =>
      let count := portion.octets.length
      if count = 0 then .ok content.reverse
      else
        collect (demand.add count) (budget - count) (portion.octets.reverse ++ content) portion.next
termination_by budget

/-- The first `budget` octets that a reader hands out. The first portion is a small one, before
there is a store. -/
def readUpTo (budget : Nat) (reader : library.Reader) : Except String Bytes :=
  if budget = 0 then .ok []
  else
    match library.read reader (min leastRoom budget) with
    | .error fault => .error fault
    | .ok portion =>
      let count := portion.octets.length
      if count = 0 then .ok []
      else library.collect (.ofFirst count) (budget - count) portion.octets.reverse portion.next

end FrameLibrary

end TrustRoot
