import BankedZ80.Archive.Reader
import BankedZ80.Archive.Zstandard.BitStream

/-!
# State tables

Symbols of zstandard are packed by finite state entropy coding: the decoder is in one of a number of
states, each of which stands for a symbol and says how many bits lead on to the next. A table is
described by the number of states of each symbol. `StateTable.ofShares` builds it, and `readTable` reads
a description.
-/

namespace BankedZ80.Zstandard

open Archive (Reading)
open Archive.Reading

/-- What a state stands for, and how the next is found: a base and a number of bits to add. -/
structure Cell where
  symbol : Nat
  bits : Nat
  base : Nat
deriving DecidableEq, Repr

/-- A table of `2 ^ accuracy` states. -/
structure StateTable where
  accuracy : Nat
  cells : Array Cell
deriving DecidableEq, Repr

/-- How many states a symbol has. -/
inductive Share where
  /-- One, for it is rarer than that. -/
  | rare
  | states (count : Nat)
deriving DecidableEq, Repr

/-- Number of states of a share. -/
def Share.count : Share → Nat
  | rare => 1
  | states n => n

/-- The symbols in the order of their states: rare ones stand at the end, the last first, and the states
of the others are spread over the rest in equal steps. -/
def spreadSymbols (size : Nat) (shares : List Share) : List Nat :=
  let numbered := shares.zipIdx
  let rare := (numbered.filter (·.1 = .rare)).map (·.2)
  let often := numbered.flatMap fun (share, symbol) =>
    match share with
    | .rare => []
    | .states n => List.replicate n symbol
  let step := size / 2 + size / 8 + 3
  let places := ((List.range size).map fun i => i * step % size).filter (· < size - rare.length)
  let spread := (places.zip often).foldl (fun symbols (place, symbol) =>
    symbols.setIfInBounds place symbol) (Array.replicate (size - rare.length) 0)
  spread.toList ++ rare.reverse

/-- The cells of symbols in the order of their states; `next` counts the states of each symbol, from its
share on. -/
def cellsFrom (accuracy : Nat) (next : Array Nat) : List Nat → List Cell
  | [] => []
  | symbol :: rest =>
    let count := (next[symbol]?).getD 0
    let bits := accuracy - count.log2
    { symbol, bits, base := count * 2 ^ bits - 2 ^ accuracy }
      :: cellsFrom accuracy (next.setIfInBounds symbol (count + 1)) rest

/-- The table in which symbols have given shares of the states. -/
def StateTable.ofShares (accuracy : Nat) (shares : List Share) : StateTable :=
  { accuracy
    cells := (cellsFrom accuracy (shares.map Share.count).toArray
      (spreadSymbols (2 ^ accuracy) shares)).toArray }

/-- The table of one symbol that needs no bits. -/
def StateTable.constant (symbol : Nat) : StateTable :=
  { accuracy := 0, cells := #[{ symbol, bits := 0, base := 0 }] }

/-- Read the first state. -/
def StateTable.start? (t : StateTable) (s : BitStream) : Option (Nat × BitStream) :=
  s.read? t.accuracy

/-! ### Descriptions -/

/-- Read a number up to a limit from a position in bits on; small numbers take a bit less than the
others. Gives the number and its length in bits. -/
def boundedNumber (data : ByteArray) (position limit : Nat) : Nat × Nat :=
  let length := limit.log2 + 1
  let spare := 2 ^ length - 1 - limit
  let short := Bits.number data position (length - 1)
  if short < spare then (short, length - 1)
  else
    let value := Bits.number data position length
    (if 2 ^ (length - 1) ≤ value then value - spare else value, length)

/-- How many symbols without states follow from a position in bits on, and the position after that;
each two bits count up to three, and three says that more follow. -/
def absentFrom (data : ByteArray) (position : Nat) : Nat → Nat × Nat
  | 0 => (0, position)
  | fuel + 1 =>
    let count := Bits.number data position 2
    if count = 3 then
      let (more, position) := absentFrom data (position + 2) fuel
      (3 + more, position)
    else (count, position + 2)

/-- The shares from a position in bits on, until no states remain; gives the position after them. -/
def sharesFrom? (data : ByteArray) (position remaining : Nat) : Nat → Option (List Share × Nat)
  | 0 => none
  | fuel + 1 =>
    if remaining = 0 then some ([], position)
    else
      let (value, length) := boundedNumber data position (remaining + 1)
      let position := position + length
      if 8 * data.size < position then none
      else match value with
        | 0 => (sharesFrom? data position (remaining - 1) fuel).map fun (shares, position) =>
            (.rare :: shares, position)
        | 1 =>
          let (absent, position) := absentFrom data position data.size
          (sharesFrom? data position remaining fuel).map fun (shares, position) =>
            (List.replicate (1 + absent) (.states 0) ++ shares, position)
        | n + 2 =>
          if n + 1 ≤ remaining then
            (sharesFrom? data position (remaining - (n + 1)) fuel).map fun (shares, position) =>
              (.states (n + 1) :: shares, position)
          else none

/-- The least accuracy of a table that is described. -/
def minAccuracy : Nat := 5

/-- Read a description of a table, of at most so many symbols and so much accuracy. -/
def readTable (maxSymbols maxAccuracy : Nat) : Reading StateTable := do
  let r ← get
  let data := r.data.extract r.position r.data.size
  let accuracy := minAccuracy + Bits.number data 0 4
  require (accuracy ≤ maxAccuracy)
  let (shares, bits) ← sharesFrom? data 4 (2 ^ accuracy) (8 * data.size + 1)
  require (shares.length ≤ maxSymbols)
  let _ ← take ((bits + 7) / 8)
  return StateTable.ofShares accuracy shares

end BankedZ80.Zstandard
