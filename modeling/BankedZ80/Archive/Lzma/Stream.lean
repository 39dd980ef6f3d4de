import BankedZ80.Archive.Lzma.Symbol

/-!
# LZMA streams

A stream begins with a header that gives the properties, the size of the window and the size of the
contents. `Lzma.decompress` gives as much of the contents as fills whole windows. Data that ends too
early is no fault, not even within the header.
-/

namespace BankedZ80.Lzma

open Archive (Fault)

/-- The header of a stream. -/
structure Header where
  properties : Properties
  /-- How far back copies can reach. -/
  window : Nat
  /-- Size of the contents, if it is stated. -/
  size? : Option Nat

/-- Length of a header. -/
def headerLength : Nat := 13

/-- Length of the header and the beginning of the fraction. -/
def leadLength : Nat := headerLength + 5

/-- Size of the smallest window. -/
def minWindow : Nat := 0x1000

/-- A size that is not stated. -/
def unstated : Nat := 2 ^ 64 - 1

/-- The header of a stream whose properties are known. -/
def Header.of (properties : Properties) (data : ByteArray) : Header :=
  let size := Bytes.number data 5 8
  { properties
    window := max (Bytes.number data 1 4) minWindow
    size? := if size = unstated then none else some size }

/-- A symbol takes at most so many bytes. -/
def maxSymbolLength : Nat := 20

/-- Read symbols up to the stated size, the end mark or, if no size is stated, the end of the data.
Nothing may follow; an end mark that is not followed by much counts as cut off. -/
def symbols (h : Header) : Nat → Decoding Unit
  | 0 => throw .truncated
  | fuel + 1 => do
    let s ← get
    let left := s.limit - s.position
    if h.size?.any (· ≤ s.output.size) then
      if left = 0 then return else throw .corrupt
    else if h.size?.isNone && left = 0 then return
    else if ← symbol h.window then
      let s ← get
      if s.code = 0 && s.position = s.limit then return
      else throw (if left < maxSymbolLength then Fault.truncated else Fault.corrupt)
    else symbols h fuel

/-- The beginning of some contents that fills whole windows. -/
def wholeWindows (window : Nat) (contents : ByteArray) : ByteArray :=
  contents.extract 0 (contents.size / window * window)

/-- The bytes that were compressed, as far as they fill whole windows. -/
def decompress (data : ByteArray) : Option ByteArray :=
  if data.size = 0 then some .empty
  else match Properties.ofNat? (Bytes.get data 0).toNat with
    | none => none
    | some properties =>
      if data.size < leadLength then some .empty
      else
        let h := Header.of properties data
        let s : Progress := { data, position := headerLength, limit := data.size }
        match (beginFraction *> symbols h s.fuel).run (s.forget properties) with
        | .ok _ s | .error .truncated s => some (wholeWindows h.window s.output)
        | .error .corrupt _ => none

end BankedZ80.Lzma
