import BankedZ80.Archive.Lzma.Symbol

/-!
# Chunks of LZMA

In this form of LZMA the data is a sequence of chunks, each with a control byte that says what it is and
what is forgotten before it. `Lzma.decompressChunks` reads them up to the control byte zero.
-/

namespace BankedZ80.Lzma

/-- What came before a chunk. -/
structure Before where
  /-- Is it known where copies begin to reach? -/
  started : Bool := false
  /-- Are the properties known? -/
  hasProperties : Bool := false
deriving DecidableEq, Repr

/-- Copies do not reach back beyond this point any more. -/
def cutOff : Decoding Unit := modify fun s => { s with start := s.output.size }

/-- Go on only if a rule of the format is kept. -/
def require (condition : Bool) : Decoding Unit :=
  if condition then pure () else throw .corrupt

/-- Literals may take so many bits of their surroundings into account. -/
def maxLiteralBits : Nat := 4

/-- Read properties. -/
def readProperties : Decoding Properties := do
  match Properties.ofNat? (← byte).toNat with
  | some p =>
    require (p.literalContext + p.literalPosition ≤ maxLiteralBits)
    return p
  | none => throw .corrupt

/-- A chunk of bytes as they are. -/
def plainChunk : Decoding Unit := do
  let length := (← number 2 0) + 1
  let s ← get
  if s.position + length ≤ s.data.size then
    set { s with
      position := s.position + length
      output := s.output ++ s.data.extract s.position (s.position + length) }
  else throw .truncated

/-- Read symbols until the output has a given size; the end mark is out of place. -/
def symbolsUpTo (window size : Nat) : Nat → Decoding Unit
  | 0 => throw .truncated
  | fuel + 1 => do
    let s ← get
    if size ≤ s.output.size then require (s.output.size = size)
    else if ← symbol window then throw .corrupt
    else symbolsUpTo window size fuel

/-- A chunk of symbols with a control byte; the symbols must take all of the bytes. -/
def symbolChunk (window control : Nat) : Decoding Unit := do
  let size := (← number 2 (control % 32)) + 1
  let packed := (← number 2 0) + 1
  if 0xC0 ≤ control then
    let p ← readProperties
    modify (·.forget p)
  else if 0xA0 ≤ control then modify fun s => s.forget s.properties
  let s ← get
  set { s with limit := s.position + packed }
  beginFraction
  symbolsUpTo window (s.output.size + size) s.fuel
  let s ← get
  require (s.code = 0 && s.position = s.limit)
  set { s with limit := s.data.size }

/-- Chunks up to the control byte zero. The first must cut off what was before it, and one of symbols
needs properties that were given after the last cut. -/
def chunks (window : Nat) (before : Before) : Nat → Decoding Unit
  | 0 => throw .truncated
  | fuel + 1 => do
    let control := (← byte).toNat
    if control = 0 then return
    let before : Before :=
      if control = 1 || 0xE0 ≤ control then { started := true } else before
    require before.started
    if control = 1 || 0xE0 ≤ control then cutOff
    if control ≤ 2 then
      plainChunk
      chunks window before fuel
    else
      let before : Before := { before with hasProperties := before.hasProperties || 0xC0 ≤ control }
      require (0x80 ≤ control && before.hasProperties)
      symbolChunk window control
      chunks window before fuel

/-- The contents of the chunks from a position on, where copies reach back within a window, and the
position after the chunks. -/
def decompressChunks (window : Nat) (data : ByteArray) (position : Nat) :
    Option (ByteArray × Nat) :=
  let s : Progress := { data, position, limit := data.size }
  match (chunks window {} (data.size + 1)).run s with
  | .ok _ s => some (s.output, s.position)
  | .error _ _ => none

end BankedZ80.Lzma
