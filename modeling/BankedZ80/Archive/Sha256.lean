import BankedZ80.Bytes

/-!
# The hash SHA-256

The hash that the xz format offers as its longest check. The bytes are padded to whole blocks, and each
block is mixed into eight words in sixty-four rounds.
-/

namespace BankedZ80.Sha256

/-- The eight words of a hash. -/
structure State where
  a : UInt32
  b : UInt32
  c : UInt32
  d : UInt32
  e : UInt32
  f : UInt32
  g : UInt32
  h : UInt32
deriving DecidableEq, Repr

/-- The words before the first block: fractions of the square roots of the first primes. -/
def State.start : State :=
  { a := 0x6A09E667, b := 0xBB67AE85, c := 0x3C6EF372, d := 0xA54FF53A
    e := 0x510E527F, f := 0x9B05688C, g := 0x1F83D9AB, h := 0x5BE0CD19 }

/-- The constants of the rounds: fractions of the cube roots of the first primes. -/
def constants : Array UInt32 :=
  #[0x428A2F98, 0x71374491, 0xB5C0FBCF, 0xE9B5DBA5, 0x3956C25B, 0x59F111F1,
    0x923F82A4, 0xAB1C5ED5, 0xD807AA98, 0x12835B01, 0x243185BE, 0x550C7DC3,
    0x72BE5D74, 0x80DEB1FE, 0x9BDC06A7, 0xC19BF174, 0xE49B69C1, 0xEFBE4786,
    0x0FC19DC6, 0x240CA1CC, 0x2DE92C6F, 0x4A7484AA, 0x5CB0A9DC, 0x76F988DA,
    0x983E5152, 0xA831C66D, 0xB00327C8, 0xBF597FC7, 0xC6E00BF3, 0xD5A79147,
    0x06CA6351, 0x14292967, 0x27B70A85, 0x2E1B2138, 0x4D2C6DFC, 0x53380D13,
    0x650A7354, 0x766A0ABB, 0x81C2C92E, 0x92722C85, 0xA2BFE8A1, 0xA81A664B,
    0xC24B8B70, 0xC76C51A3, 0xD192E819, 0xD6990624, 0xF40E3585, 0x106AA070,
    0x19A4C116, 0x1E376C08, 0x2748774C, 0x34B0BCB5, 0x391C0CB3, 0x4ED8AA4A,
    0x5B9CCA4F, 0x682E6FF3, 0x748F82EE, 0x78A5636F, 0x84C87814, 0x8CC70208,
    0x90BEFFFA, 0xA4506CEB, 0xBEF9A3F7, 0xC67178F2]

/-- Rotate to the right. -/
def rotate (x : UInt32) (n : UInt32) : UInt32 := (x >>> n) ||| (x <<< (32 - n))

/-- One round, with a word of the schedule. -/
def State.round (s : State) (i : Nat) (word : UInt32) : State :=
  let sum1 := rotate s.e 6 ^^^ rotate s.e 11 ^^^ rotate s.e 25
  let choice := (s.e &&& s.f) ^^^ (~~~s.e &&& s.g)
  let mixed := s.h + sum1 + choice + (constants[i]?).getD 0 + word
  let sum0 := rotate s.a 2 ^^^ rotate s.a 13 ^^^ rotate s.a 22
  let majority := (s.a &&& s.b) ^^^ (s.a &&& s.c) ^^^ (s.b &&& s.c)
  { a := mixed + sum0 + majority, b := s.a, c := s.b, d := s.c
    e := s.d + mixed, f := s.e, g := s.f, h := s.g }

/-- The sum of two hashes, word by word. -/
def State.add (s t : State) : State :=
  { a := s.a + t.a, b := s.b + t.b, c := s.c + t.c, d := s.d + t.d
    e := s.e + t.e, f := s.f + t.f, g := s.g + t.g, h := s.h + t.h }

/-- The word at a position, high byte first. -/
def wordAt (bytes : ByteArray) (position : Nat) : UInt32 :=
  (List.range 4).foldl (fun w i => (w <<< 8) ||| (Bytes.get bytes (position + i)).toUInt32) 0

/-- One more word of a schedule, made of those before. -/
def nextWord (words : Array UInt32) : UInt32 :=
  let back (n : Nat) : UInt32 := (words[words.size - n]?).getD 0
  let x := back 15
  let y := back 2
  back 16 + (rotate x 7 ^^^ rotate x 18 ^^^ (x >>> 3)) + back 7
    + (rotate y 17 ^^^ rotate y 19 ^^^ (y >>> 10))

/-- The schedule of the block at a position. -/
def schedule (bytes : ByteArray) (position : Nat) : Array UInt32 :=
  let first := ((List.range 16).map fun i => wordAt bytes (position + 4 * i)).toArray
  (List.range 48).foldl (fun words _ => words.push (nextWord words)) first

/-- Bytes in a block. -/
def blockSize : Nat := 64

/-- The words after the block at a position. -/
def State.step (s : State) (bytes : ByteArray) (position : Nat) : State :=
  let words := schedule bytes position
  s.add ((List.range 64).foldl (fun (t : State) i => t.round i ((words[i]?).getD 0)) s)

/-- The bytes of a number, high byte first. -/
def highFirst (value : Nat) (n : Nat) : List UInt8 :=
  ((List.range n).map fun i => (value / 256 ^ i).toUInt8).reverse

/-- Some bytes, followed by a one-bit, zeros and their number of bits, to whole blocks. -/
def padded (bytes : ByteArray) : ByteArray :=
  let zeros := (blockSize - (bytes.size + 9) % blockSize) % blockSize
  bytes ++ Bytes.ofList (0x80 :: List.replicate zeros 0 ++ highFirst (8 * bytes.size) 8)

/-- The hash of some bytes. -/
def compute (bytes : ByteArray) : ByteArray :=
  let bytes := padded bytes
  let s := (List.range (bytes.size / blockSize)).foldl
    (fun (s : State) i => s.step bytes (blockSize * i)) State.start
  Bytes.ofList ([s.a, s.b, s.c, s.d, s.e, s.f, s.g, s.h].flatMap fun w => highFirst w.toNat 4)

end BankedZ80.Sha256
