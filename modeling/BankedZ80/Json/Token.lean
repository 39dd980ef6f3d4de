import BankedZ80.Bytes

/-!
# Tokens of a JSON text

A JSON text is a list of bytes. `Token.all?` cuts it into tokens, blanks (space, tab, line feed and
carriage return) between them ignored, and fails where no token begins.

* A **number** is kept as its value when it is written as digits alone, which is all that an integer
  field accepts; any other well-formed number is only known to be one.
* A **string** is kept as its text when it denotes one. A well-formed string may denote no text: its
  escapes may leave half a surrogate pair, or its bytes may not be UTF-8.
-/

namespace BankedZ80.Json

/-- A token of a JSON text. -/
inductive Token where
  | openObject
  | closeObject
  | openArray
  | closeArray
  | colon
  | comma
  | null
  | bool (value : Bool)
  | number (natural : Option Nat)
  | string (text : Option String)
deriving DecidableEq, Repr

/-- Space, tab, line feed or carriage return. -/
def isBlank (b : UInt8) : Bool := b == 0x20 || b == 0x09 || b == 0x0A || b == 0x0D

/-- An ASCII digit. -/
def isDigit (b : UInt8) : Bool := 0x30 ≤ b && b ≤ 0x39

/-! ### Strings -/

/-- A part of a string body: a byte that stands for itself, or an escaped sixteen-bit unit. -/
inductive Piece where
  | byte (b : UInt8)
  | unit (u : Nat)
deriving DecidableEq, Repr

/-- The value of a hexadecimal digit. -/
def hexDigit? (b : UInt8) : Option Nat :=
  if isDigit b then some (b.toNat - 0x30)
  else if 0x61 ≤ b ∧ b ≤ 0x66 then some (b.toNat - 0x57)
  else if 0x41 ≤ b ∧ b ≤ 0x46 then some (b.toNat - 0x37)
  else none

/-- The value of four hexadecimal digits. -/
def hexUnit? (a b c d : UInt8) : Option Nat := do
  return (← hexDigit? a) * 4096 + (← hexDigit? b) * 256 + (← hexDigit? c) * 16 + (← hexDigit? d)

/-- The byte that a one-letter escape stands for. -/
def escapedByte? (b : UInt8) : Option UInt8 :=
  if b = 0x22 ∨ b = 0x5C ∨ b = 0x2F then some b
  else if b = 0x62 then some 0x08
  else if b = 0x66 then some 0x0C
  else if b = 0x6E then some 0x0A
  else if b = 0x72 then some 0x0D
  else if b = 0x74 then some 0x09
  else none

/-- The pieces up to the closing quote, and the bytes after it. -/
def stringBody? (pieces : List Piece) : List UInt8 → Option (List Piece × List UInt8)
  | [] => none
  | b :: rest =>
    if b = 0x22 then some (pieces.reverse, rest)
    else if b = 0x5C then
      match rest with
      | [] => none
      | e :: rest =>
        if e = 0x75 then
          match rest with
          | p :: q :: r :: s :: rest => do
            let u ← hexUnit? p q r s
            stringBody? (.unit u :: pieces) rest
          | _ => none
        else do
          let v ← escapedByte? e
          stringBody? (.byte v :: pieces) rest
    else if b < 0x20 then none
    else stringBody? (.byte b :: pieces) rest

/-- The UTF-8 bytes of a code point. -/
def utf8 (n : Nat) : List UInt8 := String.utf8EncodeChar (Char.ofNat n)

/-- Is this unit the first half of a surrogate pair? -/
def isHighSurrogate (u : Nat) : Bool := 0xD800 ≤ u && u < 0xDC00

/-- Is this unit the second half of a surrogate pair? -/
def isLowSurrogate (u : Nat) : Bool := 0xDC00 ≤ u && u < 0xE000

/-- The bytes that pieces stand for; a surrogate by itself stands for none. -/
def pieceBytes? (bytes : List UInt8) : List Piece → Option (List UInt8)
  | [] => some bytes.reverse
  | .byte b :: rest => pieceBytes? (b :: bytes) rest
  | .unit u :: rest =>
    if isHighSurrogate u then
      match rest with
      | .unit v :: rest =>
        if isLowSurrogate v then
          let n := 0x10000 + (u - 0xD800) * 0x400 + (v - 0xDC00)
          pieceBytes? ((utf8 n).reverse ++ bytes) rest
        else none
      | _ => none
    else if isLowSurrogate u then none
    else pieceBytes? ((utf8 u).reverse ++ bytes) rest

/-- The text that pieces denote. -/
def pieceText? (pieces : List Piece) : Option String := do
  String.fromUTF8? (Bytes.ofList (← pieceBytes? [] pieces))

/-! ### Numbers -/

/-- The number that a list of digits writes. -/
def digitsValue (digits : List UInt8) : Nat :=
  digits.foldl (fun n b => 10 * n + (b.toNat - 0x30)) 0

/-- Skip a fraction, if there is one; the flag tells whether there was. -/
def skipFraction? : List UInt8 → Option (Bool × List UInt8)
  | 0x2E :: rest =>
    let (digits, rest) := rest.span isDigit
    if digits = [] then none else some (true, rest)
  | s => some (false, s)

/-- Skip a sign. -/
def skipSign : List UInt8 → List UInt8
  | b :: rest => if b = 0x2B ∨ b = 0x2D then rest else b :: rest
  | [] => []

/-- Skip an exponent, if there is one; the flag tells whether there was. -/
def skipExponent? : List UInt8 → Option (Bool × List UInt8)
  | b :: rest =>
    if b = 0x65 ∨ b = 0x45 then
      let (digits, rest) := (skipSign rest).span isDigit
      if digits = [] then none else some (true, rest)
    else some (false, b :: rest)
  | [] => some (false, [])

/-- A number without its sign: digits without a superfluous leading zero, then a fraction and an
exponent. -/
def number? (negative : Bool) (s : List UInt8) : Option (Token × List UInt8) := do
  let (digits, rest) := s.span isDigit
  if digits = [] ∨ (digits.head? = some 0x30 ∧ digits ≠ [0x30]) then none
  let (fraction, rest) ← skipFraction? rest
  let (exponent, rest) ← skipExponent? rest
  let plain := !negative && !fraction && !exponent
  return (.number (if plain then some (digitsValue digits) else none), rest)

/-! ### Tokens -/

/-- The rest of a text after a word it begins with. -/
def afterWord? (word s : List UInt8) : Option (List UInt8) :=
  if word.isPrefixOf s then some (s.drop word.length) else none

/-- The token at the beginning of a text, and the text after it. -/
def Token.next? : List UInt8 → Option (Token × List UInt8)
  | [] => none
  | b :: rest =>
    match b with
    | 0x7B => some (openObject, rest)
    | 0x7D => some (closeObject, rest)
    | 0x5B => some (openArray, rest)
    | 0x5D => some (closeArray, rest)
    | 0x3A => some (colon, rest)
    | 0x2C => some (comma, rest)
    | 0x22 => (stringBody? [] rest).map fun (pieces, rest) => (string (pieceText? pieces), rest)
    | 0x2D => number? true rest
    | 0x6E => (afterWord? [0x75, 0x6C, 0x6C] rest).map fun rest => (null, rest)
    | 0x74 => (afterWord? [0x72, 0x75, 0x65] rest).map fun rest => (bool true, rest)
    | 0x66 => (afterWord? [0x61, 0x6C, 0x73, 0x65] rest).map fun rest => (bool false, rest)
    | _ => if isDigit b then number? false (b :: rest) else none

/-- That many tokens and blanks of a text at most, after the tokens in `before`, latest first. -/
def Token.from? (before : List Token) (s : List UInt8) : Nat → Option (List Token)
  | 0 => if s.isEmpty then some before.reverse else none
  | fuel + 1 =>
    match s with
    | [] => some before.reverse
    | b :: rest =>
      if isBlank b then Token.from? before rest fuel
      else
        match Token.next? (b :: rest) with
        | some (token, after) => Token.from? (token :: before) after fuel
        | none => none

/-- The tokens of a text; each takes a byte or more. -/
def Token.all? (s : List UInt8) : Option (List Token) := Token.from? [] s s.length

end BankedZ80.Json
