import BankedZ80.Json.Value

/-!
# Printing JSON values

`Json.pretty` writes a value over several lines, each level of nesting indented by two spaces; an
empty array or object stays on its line. Characters outside ASCII are written as they are.
-/

namespace BankedZ80.Json

/-- The bytes of a text. -/
def textBytes (s : String) : List UInt8 := Bytes.toList s.toUTF8

/-- A lower-case hexadecimal digit. -/
def hexDigitByte (n : Nat) : UInt8 := (if n < 10 then 0x30 + n else 0x57 + n).toUInt8

/-- One byte of a string body. -/
def escapeByte (b : UInt8) : List UInt8 :=
  if b = 0x22 ∨ b = 0x5C then [0x5C, b]
  else if b = 0x08 then [0x5C, 0x62]
  else if b = 0x09 then [0x5C, 0x74]
  else if b = 0x0A then [0x5C, 0x6E]
  else if b = 0x0C then [0x5C, 0x66]
  else if b = 0x0D then [0x5C, 0x72]
  else if b < 0x20 then
    [0x5C, 0x75, 0x30, 0x30, hexDigitByte (b.toNat / 16), hexDigitByte (b.toNat % 16)]
  else [b]

/-- A text between quotes. -/
def quotedBytes (s : String) : List UInt8 :=
  [0x22] ++ (textBytes s).flatMap escapeByte ++ [0x22]

/-- A line feed and the indentation of a level. -/
def newLine (level : Nat) : List UInt8 := 0x0A :: List.replicate (2 * level) 0x20

/-- The items of a container, each on a line of its own. -/
def lines (level : Nat) : List (List UInt8) → List UInt8
  | [] => []
  | [item] => newLine level ++ item
  | item :: rest => newLine level ++ item ++ [0x2C] ++ lines level rest

mutual

/-- A value, its inner lines indented for a level. -/
def prettyAt (level : Nat) : Json → List UInt8
  | .null => textBytes "null"
  | .bool b => textBytes (if b then "true" else "false")
  | .number n => textBytes (toString (n.getD 0))
  | .string s => quotedBytes (s.getD "")
  | .array [] => textBytes "[]"
  | .array items => [0x5B] ++ lines (level + 1) (prettyItems (level + 1) items) ++ newLine level
    ++ [0x5D]
  | .object [] => [0x7B, 0x7D]
  | .object members => [0x7B] ++ lines (level + 1) (prettyMembers (level + 1) members)
    ++ newLine level ++ [0x7D]

/-- The items of an array. -/
def prettyItems (level : Nat) : List Json → List (List UInt8)
  | [] => []
  | j :: rest => prettyAt level j :: prettyItems level rest

/-- The members of an object. -/
def prettyMembers (level : Nat) : List (Option String × Json) → List (List UInt8)
  | [] => []
  | (key, j) :: rest =>
    (quotedBytes (key.getD "") ++ [0x3A, 0x20] ++ prettyAt level j) :: prettyMembers level rest

end

/-- A value over several lines. -/
def pretty (j : Json) : List UInt8 := prettyAt 0 j

end BankedZ80.Json
