/-!
# Canonical Huffman codes

In a canonical code the lengths of the words determine the words: they are given out in the order of
their lengths, and among words of one length in the order of the symbols. `Code.ofLengths` is the code
of some lengths, and `Code.find?` finds the symbol whose word comes next in a sequence of bits.
-/

namespace BankedZ80.Huffman

/-- A canonical code. -/
structure Code where
  /-- Length of the word of each symbol, zero for a symbol that does not occur. -/
  lengths : List Nat
  /-- How many symbols have a word of each length from 1 on. -/
  counts : List Nat
  /-- The symbols in the order of their words. -/
  symbols : Array Nat

/-- The code in which each symbol has a given length, zero for a symbol that does not occur. -/
def Code.ofLengths (lengths : List Nat) : Code :=
  let numbered := lengths.zipIdx
  let withLength (n : Nat) : List Nat := (numbered.filter fun p => p.1 == n).map (·.2)
  let groups := (List.range (lengths.foldl max 0)).map fun n => withLength (n + 1)
  { lengths
    counts := groups.map List.length
    symbols := groups.flatten.toArray }

/-- Words left over after giving out those of each length; none if there are too many symbols. -/
def unusedWords? (available : Nat) : List Nat → Option Nat
  | [] => some available
  | count :: rest => if count ≤ 2 * available then unusedWords? (2 * available - count) rest else none

/-- Can all symbols have words? -/
def Code.fits (c : Code) : Bool := (unusedWords? 1 c.counts).isSome

/-- Is every sequence of bits a sequence of words? -/
def Code.isComplete (c : Code) : Bool := unusedWords? 1 c.counts == some 0

/-- Has a code no symbol, or only one with a word of one bit? -/
def Code.isTrivial (c : Code) : Bool := c.symbols.size ≤ 1 && c.counts.headD 0 == c.symbols.size

/-- The symbol whose word the next bits are, and the length of the word, given that no word of `length`
bits fits; `code` is the number of those bits, `first` the first word of the next length, and `index`
the number of symbols with shorter words. -/
def Code.findFrom (symbols : Array Nat) (next : Nat → Nat) (length code first index : Nat) :
    List Nat → Option (Nat × Nat)
  | [] => none
  | count :: rest =>
    let code := 2 * code + next length
    if code < first + count then (symbols[index + (code - first)]?).map fun s => (s, length + 1)
    else findFrom symbols next (length + 1) code (2 * (first + count)) (index + count) rest

/-- The symbol whose word the next bits are, and the length of the word. -/
def Code.find? (c : Code) (next : Nat → Nat) : Option (Nat × Nat) :=
  Code.findFrom c.symbols next 0 0 0 0 c.counts

end BankedZ80.Huffman
