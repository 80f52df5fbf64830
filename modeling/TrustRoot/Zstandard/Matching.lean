import TrustRoot.Zstandard.Sequence

/-!
# Matching

To tell a content in sequences one looks for octets that occurred before. A table keeps for each
group of four octets where it was last seen, and a place that has seen the same octets for long
enough gives a copy. What is found need not be the best, and whoever relies on it checks that it
tells the content.
-/

namespace TrustRoot.Zstandard

structure Matching where
  literals : Array UInt8
  sequences : List Sequence

namespace Matching

def leastCopy : Nat := 5

def tableSize : Nat := 16384

/-- The place of the four octets from `position` on in the table. -/
def slot (content : Array UInt8) (position : Nat) : Nat :=
  let octet (index : Nat) : UInt32 := (content.getD (position + index) 0).toUInt32
  let number := octet 0 + octet 1 * 256 + octet 2 * 65536 + octet 3 * 16777216
  ((number * 2654435761) >>> (18 : UInt32)).toNat

/-- How many octets are the same from `first` on and from `second` on, up to the end of the content,
where `count` octets before them are the same. -/
def agreement (content : Array UInt8) (first second count : Nat) : Nat :=
  if inside : second < content.size then
    if content[second] = content.getD first 0 then
      agreement content (first + 1) (second + 1) (count + 1)
    else count
  else count
termination_by content.size - second

/-- The table after `count` places from `position` on have been seen. A place is kept with one
added, so that 0 stands for none. -/
def note (content : Array UInt8) (table : Array Nat) (position : Nat) : (count : Nat) → Array Nat
  | 0 => table
  | count + 1 =>
    note content (table.setIfInBounds (slot content position) (position + 1)) (position + 1) count

/-- Goes on at `position`, where the octets since `start` are not told yet. Sequences are held latest
first. -/
def search (content : Array UInt8) (table : Array Nat) (start position : Nat)
    (literals : Array UInt8) (sequences : List Sequence) : Matching :=
  if inside : position < content.size then
    let seen := table.getD (slot content position) 0
    let copied := if seen = 0 then 0 else agreement content (seen - 1) position 0
    if long : leastCopy ≤ copied then
      search content (note content table position copied) (position + copied) (position + copied)
        (literals ++ content.extract start position)
        (⟨position - start, copied, position + 1 - seen⟩ :: sequences)
    else
      search content (note content table position 1) start (position + 1) literals sequences
  else ⟨literals ++ content.extract start content.size, sequences.reverse⟩
termination_by content.size - position
decreasing_by
  · have positive : 0 < leastCopy := by decide
    exact Nat.sub_lt_sub_left inside
      (Nat.lt_add_of_pos_right (Nat.lt_of_lt_of_le positive long))
  · omega

def ofContent (content : Array UInt8) : Matching :=
  search content (Array.replicate tableSize 0) 0 0 #[] []

end Matching

end TrustRoot.Zstandard
