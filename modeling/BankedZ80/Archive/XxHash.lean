import BankedZ80.Bytes

/-!
# The hash xxHash

The 64-bit hash of zstandard frames, without a seed. Bytes are taken in stripes of four words, which
four accumulators follow; what is left over is taken by words, a half word and single bytes.
-/

namespace BankedZ80.XxHash

/-- The primes of the hash. -/
def prime1 : UInt64 := 0x9E3779B185EBCA87
def prime2 : UInt64 := 0xC2B2AE3D27D4EB4F
def prime3 : UInt64 := 0x165667B19E3779F9
def prime4 : UInt64 := 0x85EBCA77C2B2AE63
def prime5 : UInt64 := 0x27D4EB2F165667C5

/-- Rotate to the left. -/
def rotate (x : UInt64) (n : UInt64) : UInt64 := (x <<< n) ||| (x >>> (64 - n))

/-- The number of that many bytes from a position on, low byte first. -/
def word (bytes : ByteArray) (position length : Nat) : UInt64 :=
  (Bytes.number bytes position length).toUInt64

/-- An accumulator after one more word. -/
def round (accumulator word : UInt64) : UInt64 := rotate (accumulator + word * prime2) 31 * prime1

/-- The four accumulators. -/
structure Accumulators where
  first : UInt64 := prime1 + prime2
  second : UInt64 := prime2
  third : UInt64 := 0
  fourth : UInt64 := 0 - prime1

/-- Bytes in a stripe. -/
def stripe : Nat := 32

/-- The accumulators after a stripe. -/
def Accumulators.step (a : Accumulators) (bytes : ByteArray) (position : Nat) : Accumulators :=
  { first := round a.first (word bytes position 8)
    second := round a.second (word bytes (position + 8) 8)
    third := round a.third (word bytes (position + 16) 8)
    fourth := round a.fourth (word bytes (position + 24) 8) }

/-- The hash of all accumulators. -/
def Accumulators.merge (a : Accumulators) : UInt64 :=
  [a.first, a.second, a.third, a.fourth].foldl (fun h v => (h ^^^ round 0 v) * prime1 + prime4)
    (rotate a.first 1 + rotate a.second 7 + rotate a.third 12 + rotate a.fourth 18)

/-- The hash after one more word. -/
def addWord (h word : UInt64) : UInt64 := rotate (h ^^^ round 0 word) 27 * prime1 + prime4

/-- The hash after half a word more. -/
def addHalf (h half : UInt64) : UInt64 := rotate (h ^^^ (half * prime1)) 23 * prime2 + prime3

/-- The hash after one more byte. -/
def addByte (h byte : UInt64) : UInt64 := rotate (h ^^^ (byte * prime5)) 11 * prime1

/-- Spread all bits of a hash. -/
def spread (h : UInt64) : UInt64 :=
  let h := (h ^^^ (h >>> 33)) * prime2
  let h := (h ^^^ (h >>> 29)) * prime3
  h ^^^ (h >>> 32)

/-- The hash of some bytes. -/
def compute (bytes : ByteArray) : UInt64 :=
  let n := bytes.size
  let stripes := n / stripe
  let lead := if stripes = 0 then prime5
    else ((List.range stripes).foldl (fun (a : Accumulators) i => a.step bytes (stripe * i)) {}).merge
  let rest := stripe * stripes
  let words := (n - rest) / 8
  let h := (List.range words).foldl (fun h i => addWord h (word bytes (rest + 8 * i) 8))
    (lead + n.toUInt64)
  let rest := rest + 8 * words
  let halves := (n - rest) / 4
  let h := if halves = 0 then h else addHalf h (word bytes rest 4)
  let rest := rest + 4 * halves
  spread ((List.range (n - rest)).foldl (fun h i => addByte h (word bytes (rest + i) 1)) h)

end BankedZ80.XxHash
