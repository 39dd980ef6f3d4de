import BankedZ80.Text.Unprintable

/-!
# Quoted text

The form in which a text is shown inside a message: between double quotes, with a backslash before a
quote or backslash, a letter for the usual controls, and the code in braces for every other
character that is not shown as itself.
-/

namespace BankedZ80

/-- Lower-case hexadecimal digits, without leading zeros. -/
def hexDigits (n : Nat) : List Char := Nat.toDigits 16 n

/-- One character inside quotes. -/
def Text.quoteChar (c : Char) : List Char :=
  if c = '"' then ['\\', '"']
  else if c = '\\' then ['\\', '\\']
  else if c = '\n' then ['\\', 'n']
  else if c = '\r' then ['\\', 'r']
  else if c = '\t' then ['\\', 't']
  else if c = '\x00' then ['\\', '0']
  else if Unprintable.contains c then ['\\', 'u', '{'] ++ hexDigits c.toNat ++ ['}']
  else [c]

/-- The text between quotes. -/
def Text.quoted (s : String) : String :=
  String.ofList (['"'] ++ s.toList.flatMap Text.quoteChar ++ ['"'])

end BankedZ80
