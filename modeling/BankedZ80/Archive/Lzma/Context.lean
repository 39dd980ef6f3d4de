import BankedZ80.Bytes

/-!
# Contexts of LZMA

Every bit of LZMA is read under a context, which says what the bit decides. Bits under one context
share a chance, which follows the bits read so far. `Context.index` numbers the contexts, and
`contextCount` says how many there are.
-/

namespace BankedZ80.Lzma

/-- The properties of a stream: how many bits of their surroundings its contexts take into account. -/
structure Properties where
  /-- High bits of the byte before a literal. -/
  literalContext : Nat := 0
  /-- Low bits of the position of a literal. -/
  literalPosition : Nat := 0
  /-- Low bits of the position of any symbol. -/
  position : Nat := 0
deriving DecidableEq, Repr

/-- The properties that a number stands for. -/
def Properties.ofNat? (n : Nat) : Option Properties :=
  if n < 225 then
    some { literalContext := n % 9, literalPosition := n / 9 % 5, position := n / 45 }
  else none

/-- The two kinds of copies with a length of their own. -/
inductive CopyKind where
  /-- The distance is new. -/
  | fresh
  /-- The distance is one of the last four. -/
  | repeated
deriving DecidableEq, Repr

/-- What a bit decides. The symbols before are told by `history`, the low bits of the position by
`place`, and the bits of the same number that were read already by `node`, with a one before them. -/
inductive Context where
  /-- Is the symbol a copy? -/
  | isCopy (history place : Nat)
  /-- Is the distance of the copy one of the last four? -/
  | isRepeated (history : Nat)
  /-- Is it other than the last? -/
  | isNotLast (history : Nat)
  /-- Is it, being the last, the distance of more than one byte? -/
  | isLong (history place : Nat)
  /-- Is it other than the second last? -/
  | isNotSecond (history : Nat)
  /-- Is it other than the third last? -/
  | isNotThird (history : Nat)
  /-- Is the length beyond the shortest eight? -/
  | isMedium (kind : CopyKind)
  /-- Is it beyond the next eight? -/
  | isHigh (kind : CopyKind)
  /-- A bit of the length. -/
  | lowLength (kind : CopyKind) (place node : Nat)
  | mediumLength (kind : CopyKind) (place node : Nat)
  | highLength (kind : CopyKind) (node : Nat)
  /-- A bit of the size of a distance, given the length of the copy. -/
  | distanceSize (length node : Nat)
  /-- A low bit of a distance that is not large, counted on from the bits of those before. -/
  | distanceBit (index : Nat)
  /-- One of the four lowest bits of a large distance. -/
  | alignment (node : Nat)
  /-- A bit of a literal, given its surroundings. -/
  | literal (surroundings node : Nat)
deriving DecidableEq, Repr

/-- Number of the first length context of a kind of copies. -/
def CopyKind.lengthBase : CopyKind → Nat
  | .fresh => 820
  | .repeated => 1334

/-- Number of the first literal context. -/
def literalBase : Nat := 1848

/-- The number of a context. -/
def Context.index : Context → Nat
  | isCopy history place => 16 * history + place
  | isRepeated history => 192 + history
  | isNotLast history => 204 + history
  | isNotSecond history => 216 + history
  | isNotThird history => 228 + history
  | isLong history place => 240 + 16 * history + place
  | distanceSize length node => 432 + 64 * length + node
  | distanceBit index => 688 + index
  | alignment node => 804 + node
  | isMedium kind => kind.lengthBase
  | isHigh kind => kind.lengthBase + 1
  | lowLength kind place node => kind.lengthBase + 2 + 8 * place + node
  | mediumLength kind place node => kind.lengthBase + 130 + 8 * place + node
  | highLength kind node => kind.lengthBase + 258 + node
  | literal surroundings node => literalBase + 0x300 * surroundings + node

/-- Number of contexts. -/
def contextCount (p : Properties) : Nat :=
  literalBase + 0x300 * 2 ^ (p.literalContext + p.literalPosition)

end BankedZ80.Lzma
