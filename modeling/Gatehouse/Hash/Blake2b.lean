import Gatehouse.Hash.Mixing

/-!
# BLAKE2b

A message is absorbed in blocks of 128 bytes into a state of eight words. The digest is the start
of the state, of up to 64 bytes; its length is part of the first state.
-/

namespace Gatehouse.Blake2b

open Mixing

/-- The state of eight words. -/
structure State where
  h0 : UInt64
  h1 : UInt64
  h2 : UInt64
  h3 : UInt64
  h4 : UInt64
  h5 : UInt64
  h6 : UInt64
  h7 : UInt64

/-- The words from which the state is made. -/
def initial : State :=
  ⟨0x6a09e667f3bcc908, 0xbb67ae8584caa73b, 0x3c6ef372fe94f82b, 0xa54ff53a5f1d36f1,
    0x510e527fade682d1, 0x9b05688c2b3e6c1f, 0x1f83d9abfb41bd6b, 0x5be0cd19137e2179⟩

/-- The orders in which the words of a block are taken in, round after round. -/
def orders : List (List Nat) :=
  [[0, 1, 2, 3, 4, 5, 6, 7, 8, 9, 10, 11, 12, 13, 14, 15],
   [14, 10, 4, 8, 9, 15, 13, 6, 1, 12, 0, 2, 11, 7, 5, 3],
   [11, 8, 12, 0, 5, 2, 15, 13, 10, 14, 3, 6, 7, 1, 9, 4],
   [7, 9, 3, 1, 13, 12, 11, 14, 2, 6, 5, 10, 4, 0, 15, 8],
   [9, 0, 5, 7, 2, 4, 10, 15, 14, 1, 11, 12, 6, 8, 3, 13],
   [2, 12, 6, 10, 0, 11, 8, 3, 4, 13, 7, 5, 15, 14, 1, 9],
   [12, 5, 1, 15, 14, 13, 4, 10, 0, 7, 6, 3, 9, 2, 8, 11],
   [13, 11, 7, 14, 12, 1, 3, 9, 5, 0, 15, 4, 8, 6, 2, 10],
   [6, 15, 14, 9, 11, 3, 0, 8, 12, 2, 13, 7, 1, 4, 10, 5],
   [10, 2, 8, 4, 7, 6, 1, 5, 15, 11, 9, 14, 3, 12, 13, 0],
   [0, 1, 2, 3, 4, 5, 6, 7, 8, 9, 10, 11, 12, 13, 14, 15],
   [14, 10, 4, 8, 9, 15, 13, 6, 1, 12, 0, 2, 11, 7, 5, 3]]

/-- Absorbs a block; `count` is the number of bytes so far, and `last` marks the last block. -/
def compress (s : State) (block : Bytes) (count : Nat) (last : Bool) : State :=
  let words := wordsOf block
  let start : Words16 :=
    ⟨s.h0, s.h1, s.h2, s.h3, s.h4, s.h5, s.h6, s.h7,
      initial.h0, initial.h1, initial.h2, initial.h3,
      initial.h4 ^^^ UInt64.ofNat count, initial.h5 ^^^ UInt64.ofNat (count / Nat.pow 2 64),
      if last then ~~~initial.h6 else initial.h6, initial.h7⟩
  let v := orders.foldl (fun v order =>
    round (fun x y => x + y) (Words16.ofList (order.map fun i => words.getD i 0)) v) start
  ⟨s.h0 ^^^ v.w0 ^^^ v.w8, s.h1 ^^^ v.w1 ^^^ v.w9, s.h2 ^^^ v.w2 ^^^ v.w10,
    s.h3 ^^^ v.w3 ^^^ v.w11, s.h4 ^^^ v.w4 ^^^ v.w12, s.h5 ^^^ v.w5 ^^^ v.w13,
    s.h6 ^^^ v.w6 ^^^ v.w14, s.h7 ^^^ v.w7 ^^^ v.w15⟩

/-- Absorbs a message after `count` bytes. -/
def absorb (s : State) (message : Bytes) (count : Nat) : State :=
  if message.length ≤ 128 then compress s message (count + message.length) true
  else absorb (compress s (message.take 128) (count + 128) false) (message.drop 128) (count + 128)
termination_by message.length
decreasing_by simp; omega

/-- The bytes of the state. -/
def State.bytes (s : State) : Bytes :=
  [s.h0, s.h1, s.h2, s.h3, s.h4, s.h5, s.h6, s.h7].flatMap bytesOf

/-- The digest of a message, of a length up to 64. -/
def digest (length : Nat) (message : Bytes) : Bytes :=
  let start := { initial with h0 := initial.h0 ^^^ 0x01010000 ^^^ UInt64.ofNat length }
  (absorb start message 0).bytes.take length

/-- A digest has the wanted length. -/
theorem length_digest {length : Nat} (h : length ≤ 64) (message : Bytes) :
    (digest length message).length = length := by
  simp [digest, State.bytes, bytesOf]
  omega

/-! ### Digests of any length -/

/-- The first halves of a chain of `n` digests that starts with `v`, and then a last digest. -/
def chain (last : Nat) : Nat → Bytes → Bytes
  | 0, v => digest last v
  | n + 1, v =>
    let next := digest 64 v
    next.take 32 ++ chain last n next

/-- The digest of a message, of any length. -/
def longDigest (length : Nat) (message : Bytes) : Bytes :=
  let input := bytes32 length ++ message
  if length ≤ 64 then digest length input
  else
    let halves := (length + 31) / 32 - 2
    chain (length - 32 * halves) halves input

end Gatehouse.Blake2b
