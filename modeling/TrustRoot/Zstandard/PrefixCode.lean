import TrustRoot.Zstandard.BitString

/-!
# Prefix codes

Octets may be told by a prefix code, in which frequent octets have few bits. A code is fixed by the
weight of each octet: an octet of weight `w` fills `2 ^ (w - 1)` cells of a row of `2 ^ depth`
cells, small weights first, and its bits tell where in the row its cells are. An octet of weight 0
does not occur. Weights are chosen so that no octet takes more than a certain number of bits and the
text takes as few as possible.
-/

namespace TrustRoot.Zstandard

/-! ## Weights -/

structure Parcel where
  /-- What it costs: how often the octets occur together. -/
  count : Nat
  octets : List Nat

namespace Parcel

/-- Puts parcels in pairs; one that is left over is dropped. -/
def pairs : List Parcel → List Parcel
  | first :: second :: rest =>
    ⟨first.count + second.count, first.octets ++ second.octets⟩ :: pairs rest
  | _ => []

/-- The parcels after so many rounds, cheapest first. In each round pairs of parcels join the single
ones. -/
def rounds (singles : List Parcel) : (count : Nat) → List Parcel
  | 0 => []
  | count + 1 =>
    List.merge singles (pairs (rounds singles count)) fun first second =>
      first.count ≤ second.count

end Parcel

def occurrences (octets : Bytes) : Array Nat :=
  octets.foldl (fun counts octet => counts.modify octet.toNat (· + 1)) (Array.replicate 256 0)

def depthLimit : Nat := 11

/-- The number of bits for each octet. An octet takes as many bits as it has parcels among the
cheapest ones. -/
def depths (counts : Array Nat) : List Nat :=
  let present := (counts.toList.zipIdx.filter fun (count, _) => count != 0).map
    fun (count, octet) => (⟨count, [octet]⟩ : Parcel)
  let singles := present.mergeSort fun first second => first.count ≤ second.count
  let cheapest := (Parcel.rounds singles depthLimit).take (2 * (singles.length - 1))
  let spent := cheapest.flatMap Parcel.octets
  (spent.foldl (fun depths octet => depths.modify octet (· + 1))
    (Array.replicate 256 0)).toList

def weightsOfDepths (depths : List Nat) : List Nat :=
  let deepest := depths.foldl max 0
  let weights := depths.map fun depth => if depth = 0 then 0 else deepest + 1 - depth
  (weights.reverse.dropWhile (· == 0)).reverse

/-! ## Codes -/

structure PrefixCode where
  weights : List Nat
  depth : Nat

namespace PrefixCode

def extent (weight : Nat) : Nat := if weight = 0 then 0 else 2 ^ (weight - 1)

def extents (weights : List Nat) : Nat := (weights.map extent).foldl (· + ·) 0

/-- The code with these weights, if they fill a row of cells that is not too large. -/
def ofWeights? (weights : List Nat) : Option PrefixCode :=
  let cells := extents weights
  if cells = 2 ^ cells.log2 ∧ 0 < cells.log2 ∧ cells.log2 ≤ depthLimit then
    some ⟨weights, cells.log2⟩
  else none

/-- The code for a text, if that has different octets. -/
def ofOctets? (octets : Bytes) : Option PrefixCode :=
  ofWeights? (weightsOfDepths (depths (occurrences octets)))

/-- The octets that occur with their weights, in the order of their cells. -/
def order (code : PrefixCode) : List (Nat × Nat) :=
  (List.range' 1 code.depth).flatMap fun weight =>
    (code.weights.zipIdx.filter fun (other, _) => other == weight).map fun (_, octet) =>
      (octet, weight)

/-- The octets by their bits: each bit leads into one of two branches. -/
inductive Tree where
  | empty
  | leaf (octet : UInt8)
  | branches (unset set : Tree)

def Tree.insert (tree : Tree) (octet : UInt8) : Bits → Tree
  | [] => .leaf octet
  | false :: rest =>
    match tree with
    | .branches unset set => .branches (unset.insert octet rest) set
    | _ => .branches (Tree.empty.insert octet rest) .empty
  | true :: rest =>
    match tree with
    | .branches unset set => .branches unset (set.insert octet rest)
    | _ => .branches .empty (Tree.empty.insert octet rest)

/-- The bits of octets by number, where `used` cells come before. -/
def wordsFrom (code : PrefixCode) (used : Nat) (words : Array Bits) :
    List (Nat × Nat) → Array Bits
  | [] => words
  | (octet, weight) :: rest =>
    let word := Bits.ofNat (code.depth + 1 - weight) (used / extent weight)
    code.wordsFrom (used + extent weight) (words.setIfInBounds octet word) rest

def words (code : PrefixCode) : Array Bits :=
  code.wordsFrom 0 (Array.replicate 256 []) code.order

def write (code : PrefixCode) (octets : Bytes) : Bits :=
  let words := code.words
  octets.flatMap fun octet => words.getD octet.toNat []

def tree (code : PrefixCode) : Tree :=
  let words := code.words
  code.order.foldl (fun tree (octet, _) => tree.insert (UInt8.ofNat octet) (words.getD octet []))
    .empty

/-- The text in some bits, where the first of them lead to a branch of the tree. `found` are the
octets before it, latest first. -/
def readFrom? (tree : Tree) (found : Bytes) : (branch : Tree) → Bits → Option Bytes
  | .leaf octet, [] => some (octet :: found).reverse
  | .leaf octet, bit :: rest =>
    match tree with
    | .branches unset set =>
      readFrom? tree (octet :: found) (if bit then set else unset) rest
    | _ => none
  | .branches unset set, bit :: rest => readFrom? tree found (if bit then set else unset) rest
  | .branches .., [] => none
  | .empty, _ => none

def Tree.read? (tree : Tree) (bits : Bits) : Option Bytes :=
  if bits.isEmpty then some [] else readFrom? tree [] tree bits

/-! ## Descriptions -/

def mostWeights : Nat := 128

def descriptionStart : Nat := 128

def pairUp : List Nat → Bytes
  | [] => []
  | [high] => [UInt8.ofNat (16 * high)]
  | high :: low :: rest => UInt8.ofNat (16 * high + low) :: pairUp rest

/-- The description of a code, if it has few weights. The last weight is not told, as the others
leave just one choice for it. -/
def describe? (code : PrefixCode) : Option Bytes :=
  let told := code.weights.dropLast
  if told.length ≤ mostWeights then
    some (UInt8.ofNat (descriptionStart + told.length - 1) :: pairUp told)
  else none

/-- The code whose weights are these and one more that fills up the row of cells. -/
def complete? (told : List Nat) : Option PrefixCode :=
  let cells := extents told
  let missing := 2 ^ (cells.log2 + 1) - cells
  if cells = 0 then none else ofWeights? (told ++ [missing.log2 + 1])

/-- The code whose description is at the front, and the octets after it. -/
def ofDescription? (text : Bytes) : Option (PrefixCode × Bytes) :=
  match text with
  | [] => none
  | first :: rest =>
    let count := first.toNat + 1 - descriptionStart
    let octets := (count + 1) / 2
    let told := (rest.take octets).flatMap fun octet => [octet.toNat / 16, octet.toNat % 16]
    if count = 0 ∨ told.length < count then none
    else (complete? (told.take count)).map fun code => (code, rest.drop octets)

end PrefixCode

end TrustRoot.Zstandard
