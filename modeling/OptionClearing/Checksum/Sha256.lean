import OptionClearing.Checksum.Fnv

/-! SHA-256, for pools whose purchases carry real value. -/

namespace OptionClearing.Sha256

structure State where
  a : UInt32
  b : UInt32
  c : UInt32
  d : UInt32
  e : UInt32
  f : UInt32
  g : UInt32
  h : UInt32
  deriving DecidableEq, Repr

def initial : State where
  a := 0x6a09e667
  b := 0xbb67ae85
  c := 0x3c6ef372
  d := 0xa54ff53a
  e := 0x510e527f
  f := 0x9b05688c
  g := 0x1f83d9ab
  h := 0x5be0cd19

def roundConstants : List UInt32 := [
  0x428a2f98, 0x71374491, 0xb5c0fbcf, 0xe9b5dba5, 0x3956c25b, 0x59f111f1, 0x923f82a4, 0xab1c5ed5,
  0xd807aa98, 0x12835b01, 0x243185be, 0x550c7dc3, 0x72be5d74, 0x80deb1fe, 0x9bdc06a7, 0xc19bf174,
  0xe49b69c1, 0xefbe4786, 0x0fc19dc6, 0x240ca1cc, 0x2de92c6f, 0x4a7484aa, 0x5cb0a9dc, 0x76f988da,
  0x983e5152, 0xa831c66d, 0xb00327c8, 0xbf597fc7, 0xc6e00bf3, 0xd5a79147, 0x06ca6351, 0x14292967,
  0x27b70a85, 0x2e1b2138, 0x4d2c6dfc, 0x53380d13, 0x650a7354, 0x766a0abb, 0x81c2c92e, 0x92722c85,
  0xa2bfe8a1, 0xa81a664b, 0xc24b8b70, 0xc76c51a3, 0xd192e819, 0xd6990624, 0xf40e3585, 0x106aa070,
  0x19a4c116, 0x1e376c08, 0x2748774c, 0x34b0bcb5, 0x391c0cb3, 0x4ed8aa4a, 0x5b9cca4f, 0x682e6ff3,
  0x748f82ee, 0x78a5636f, 0x84c87814, 0x8cc70208, 0x90befffa, 0xa4506ceb, 0xbef9a3f7, 0xc67178f2]

def rotateRight (word count : UInt32) : UInt32 := (word >>> count) ||| (word <<< (32 - count))

def State.round (state : State) (constant word : UInt32) : State :=
  let { a, b, c, d, e, f, g, h } := state
  let choice := (e &&& f) ^^^ (~~~e &&& g)
  let upper := rotateRight e 6 ^^^ rotateRight e 11 ^^^ rotateRight e 25
  let majority := (a &&& b) ^^^ (a &&& c) ^^^ (b &&& c)
  let lower := rotateRight a 2 ^^^ rotateRight a 13 ^^^ rotateRight a 22
  let mixed := h + upper + choice + constant + word
  { a := mixed + lower + majority, b := a, c := b, d := c, e := d + mixed, f := e, g := f, h := g }

def State.add (left right : State) : State where
  a := left.a + right.a
  b := left.b + right.b
  c := left.c + right.c
  d := left.d + right.d
  e := left.e + right.e
  f := left.f + right.f
  g := left.g + right.g
  h := left.h + right.h

def State.words (state : State) : Vector UInt32 8 :=
  #v[state.a, state.b, state.c, state.d, state.e, state.f, state.g, state.h]

def slide (window : Vector UInt32 16) : Vector UInt32 16 :=
  let early := window[1]
  let late := window[14]
  let next := window[0] + (rotateRight early 7 ^^^ rotateRight early 18 ^^^ (early >>> 3)) +
    window[9] + (rotateRight late 17 ^^^ rotateRight late 19 ^^^ (late >>> 10))
  (window.drop 1).push next

def compress (state : State) (block : Bytes) : State :=
  let words : Vector UInt32 16 := Vector.ofFn fun index =>
    UInt32.ofNat (ByteOrder.big.decode ((block.drop (4 * index)).take 4))
  let step := fun (current : State × Vector UInt32 16) constant =>
    (current.1.round constant current.2[0], slide current.2)
  state.add (roundConstants.foldl step (state, words)).1

/-- Fills the message up to whole blocks: a one bit, zeros, and the length in bits. -/
def padded (message : Bytes) : Bytes :=
  let zeros := (119 - message.length % 64) % 64
  message ++ 0x80 :: List.replicate zeros 0 ++ ByteOrder.big.encode 8 (8 * message.length)

def compressBlocks (state : State) : (blocks : Nat) → Bytes → State
  | 0, _ => state
  | blocks + 1, bytes => compressBlocks (compress state (bytes.take 64)) blocks (bytes.drop 64)

def checksum : Hasher := fun message =>
  let blocks := padded message
  let final := compressBlocks initial (blocks.length / 64) blocks
  Vector.ofFn fun index =>
    have bound : index.val < 32 := index.isLt
    let word := final.words[index.val / 4]
    (word >>> UInt32.ofNat (24 - 8 * (index.val % 4))).toUInt8

end OptionClearing.Sha256
