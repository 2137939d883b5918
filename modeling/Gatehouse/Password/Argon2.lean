import Gatehouse.Hash.Blake2b

/-!
# Argon2

Argon2 fills a memory of blocks, arranged in lanes of four segments. Every block comes from the one
before it in its lane and from a block somewhere else, which is chosen by the contents of the
memory, by a counter, or by both in turn, depending on the variant. The result is a digest of the
sum of the last blocks of all lanes.
-/

namespace Gatehouse.Argon2

open Mixing

/-- How the block that is looked back at is chosen. -/
inductive Variant where
  /-- By the contents of the memory. -/
  | dataDependent
  /-- By a counter. -/
  | dataIndependent
  /-- By a counter in the first half of the first pass, and then by the contents. -/
  | hybrid
  deriving DecidableEq, Repr

/-- The number of a variant. -/
def Variant.number : Variant → Nat
  | .dataDependent => 0
  | .dataIndependent => 1
  | .hybrid => 2

/-- The name of a variant. -/
def Variant.name : Variant → String
  | .dataDependent => "argon2d"
  | .dataIndependent => "argon2i"
  | .hybrid => "argon2id"

/-- The variant of a name. -/
def Variant.ofName? (s : String) : Option Variant :=
  [Variant.dataDependent, .dataIndependent, .hybrid].find? (·.name == s)

/-- The two versions of the method. -/
inductive Version where
  /-- A later pass replaces the blocks. -/
  | v16
  /-- A later pass adds to the blocks. -/
  | v19
  deriving DecidableEq, Repr

/-- The number of a version. -/
def Version.number : Version → Nat
  | .v16 => 16
  | .v19 => 19

/-- The version of a number. -/
def Version.ofNumber? (n : Nat) : Option Version :=
  [Version.v16, .v19].find? (·.number == n)

/-- What a digest is made of. -/
structure Input where
  variant : Variant
  version : Version
  /-- The memory in units of 1024 bytes. -/
  memory : Nat
  passes : Nat
  lanes : Nat
  outputLength : Nat
  password : Bytes
  salt : Bytes
  /-- A secret that is kept apart from all digests; empty if there is none. -/
  secret : Bytes
  /-- Further data that goes into the digest. -/
  data : Bytes

/-! ### Blocks -/

/-- A block of 128 words. -/
abbrev Block := Array UInt64

/-- The block of zeros. -/
def zeroBlock : Block :=
  Array.replicate 128 0

/-- The word at a place of a block. -/
@[inline] def wordAt (b : Block) (i : Nat) : UInt64 :=
  b.getD i 0

/-- Adds two blocks bit by bit. -/
def xorBlocks (a b : Block) : Block :=
  Array.ofFn fun i : Fin 128 => wordAt a i.val ^^^ wordAt b i.val

/-- Adds two words and twice the product of their lower halves. -/
@[inline] def addMultiplied (x y : UInt64) : UInt64 :=
  x + y + 2 * (x.toUInt32.toUInt64 * y.toUInt32.toUInt64)

/-- Sixteen words of zeros. -/
def noMessage : Words16 :=
  ⟨0, 0, 0, 0, 0, 0, 0, 0, 0, 0, 0, 0, 0, 0, 0, 0⟩

/-- Mixes sixteen words of a block: eight pairs, `stride` apart, from `base` on. -/
def mixPairs (b : Block) (base stride : Nat) : Block :=
  let w := fun pair side => wordAt b (base + pair * stride + side)
  let r := round addMultiplied noMessage
    ⟨w 0 0, w 0 1, w 1 0, w 1 1, w 2 0, w 2 1, w 3 0, w 3 1,
      w 4 0, w 4 1, w 5 0, w 5 1, w 6 0, w 6 1, w 7 0, w 7 1⟩
  let put := fun (b : Block) pair x y =>
    (b.setIfInBounds (base + pair * stride) x).setIfInBounds (base + pair * stride + 1) y
  let b := put b 0 r.w0 r.w1
  let b := put b 1 r.w2 r.w3
  let b := put b 2 r.w4 r.w5
  let b := put b 3 r.w6 r.w7
  let b := put b 4 r.w8 r.w9
  let b := put b 5 r.w10 r.w11
  let b := put b 6 r.w12 r.w13
  put b 7 r.w14 r.w15

/-- The indices of the rows and columns of a block. -/
def octave : List Nat := [0, 1, 2, 3, 4, 5, 6, 7]

/-- Makes a block from two blocks: their sum with all rows and all columns mixed, added to the sum
itself. -/
def combine (x y : Block) : Block :=
  let sum := xorBlocks x y
  let rows := octave.foldl (fun b i => mixPairs b (16 * i) 2) (xorBlocks x y)
  let columns := octave.foldl (fun b i => mixPairs b (2 * i) 16) rows
  xorBlocks columns sum

/-- The block of a long digest. -/
def blockOf (message : Bytes) : Block :=
  (wordsOf (Blake2b.longDigest 1024 message)).toArray

/-! ### Filling the memory -/

/-- The layout of the memory. -/
structure Layout where
  lanes : Nat
  /-- The number of blocks of a segment, a quarter of a lane. -/
  segment : Nat

/-- The number of blocks of a lane. -/
def Layout.lane (l : Layout) : Nat := 4 * l.segment

/-- The number of blocks of the memory. -/
def Layout.size (l : Layout) : Nat := l.lanes * l.lane

/-- The layout for a digest; memory that does not divide evenly is left over. -/
def Input.layout (input : Input) : Layout :=
  ⟨input.lanes, input.memory / (4 * input.lanes)⟩

/-- The memory: all blocks, lane after lane. -/
abbrev Memory := Array Block

/-- A place where a segment is filled. -/
structure Turn where
  pass : Nat
  /-- Which of the four segments of the lane. -/
  slice : Nat
  lane : Nat

/-- Whether the block to look back at is chosen by a counter. -/
def Input.counted (input : Input) (turn : Turn) : Bool :=
  match input.variant with
  | .dataDependent => false
  | .dataIndependent => true
  | .hybrid => turn.pass == 0 && turn.slice < 2

/-- The `n`-th block of choices made by a counter. -/
def Input.choices (input : Input) (l : Layout) (turn : Turn) (n : Nat) : Block :=
  let start := [turn.pass, turn.lane, turn.slice, l.size, input.passes, input.variant.number, n]
  let b := (start.map UInt64.ofNat ++ List.replicate 121 0).toArray
  combine zeroBlock (combine zeroBlock b)

/-- The block to look back at: its lane and its place there, for a drawn word. -/
def lookBack (l : Layout) (turn : Turn) (index : Nat) (word : UInt64) : Nat × Nat :=
  let drawn := word.toNat
  let lane := if turn.pass = 0 ∧ turn.slice = 0 then turn.lane else drawn / Nat.pow 2 32 % l.lanes
  let finished := if turn.pass = 0 then turn.slice * l.segment else l.lane - l.segment
  let area := if lane = turn.lane then finished + index - 1
    else if index = 0 then finished - 1 else finished
  let x := drawn % Nat.pow 2 32
  let back := area - 1 - area * (x * x / Nat.pow 2 32) / Nat.pow 2 32
  let start := if turn.pass = 0 ∨ turn.slice = 3 then 0 else (turn.slice + 1) * l.segment
  (lane, (start + back) % l.lane)

/-- Fills the blocks of a segment from `index` on. -/
def fillFrom (input : Input) (l : Layout) (turn : Turn) :
    Nat → Nat → Block → Memory → Memory
  | 0, _, _, memory => memory
  | left + 1, index, choices, memory =>
    let counted := input.counted turn
    let choices := if counted && index % 128 == 0 then
        input.choices l turn (index / 128 + 1) else choices
    let place := turn.slice * l.segment + index
    let base := turn.lane * l.lane
    let previous := memory.getD (base + (place + l.lane - 1) % l.lane) zeroBlock
    let word := if counted then wordAt choices (index % 128) else wordAt previous 0
    let (lane, other) := lookBack l turn index word
    let made := combine previous (memory.getD (lane * l.lane + other) zeroBlock)
    let block := if turn.pass = 0 ∨ input.version = .v16 then made
      else xorBlocks (memory.getD (base + place) zeroBlock) made
    fillFrom input l turn left (index + 1) choices (memory.setIfInBounds (base + place) block)

/-- Fills a segment. The first two blocks of a lane are there from the start. -/
def fillSegment (input : Input) (l : Layout) (memory : Memory) (turn : Turn) : Memory :=
  let first := if turn.pass = 0 ∧ turn.slice = 0 then 2 else 0
  let choices := if input.counted turn then input.choices l turn 1 else zeroBlock
  fillFrom input l turn (l.segment - first) first choices memory

/-- Fills the segments of one pass: the four slices, each over all lanes. -/
def fillPass (input : Input) (l : Layout) (memory : Memory) (pass : Nat) : Memory :=
  [0, 1, 2, 3].foldl (fun memory slice =>
    (List.range l.lanes).foldl (fun memory lane => fillSegment input l memory ⟨pass, slice, lane⟩)
      memory) memory

/-- Bytes with their number in front. -/
def withLength (bytes : Bytes) : Bytes :=
  bytes32 bytes.length ++ bytes

/-- The digest of everything that goes in. -/
def Input.seed (input : Input) : Bytes :=
  Blake2b.digest 64 <|
    bytes32 input.lanes ++ bytes32 input.outputLength ++ bytes32 input.memory ++
      bytes32 input.passes ++ bytes32 input.version.number ++ bytes32 input.variant.number ++
      withLength input.password ++ withLength input.salt ++ withLength input.secret ++
      withLength input.data

/-- The memory with the first two blocks of every lane. -/
def Input.start (input : Input) (l : Layout) : Memory :=
  let seed := input.seed
  let empty : Memory := Array.replicate l.size zeroBlock
  (List.range l.lanes).foldl (fun memory lane =>
    let first := fun n => blockOf (seed ++ bytes32 n ++ bytes32 lane)
    (memory.setIfInBounds (lane * l.lane) (first 0)).setIfInBounds (lane * l.lane + 1) (first 1))
    empty

/-- The sum of the last blocks of all lanes. -/
def lastBlocks (l : Layout) (memory : Memory) : Block :=
  (List.range l.lanes).foldl (fun sum lane =>
    xorBlocks sum (memory.getD (lane * l.lane + l.lane - 1) zeroBlock)) zeroBlock

/-- The digest. -/
def digest (input : Input) : Bytes :=
  let l := input.layout
  let memory := (List.range input.passes).foldl (fillPass input l) (input.start l)
  Blake2b.longDigest input.outputLength ((lastBlocks l memory).toList.flatMap bytesOf)

/-- A digest of up to 64 bytes has the wanted length. -/
theorem length_digest {input : Input} (h : input.outputLength ≤ 64) :
    (digest input).length = input.outputLength := by
  simp only [digest, Blake2b.longDigest, if_pos h]
  exact Blake2b.length_digest h _

end Gatehouse.Argon2
