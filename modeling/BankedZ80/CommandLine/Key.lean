import BankedZ80.Word

/-!
# Keys

The bytes that key presses send to the console: characters as themselves, control combinations as
control codes, editing keys as the controls that CP/M programs expect.
-/

namespace BankedZ80

/-- A key of a terminal. -/
inductive Key where
  | char (c : Char)
  | enter
  | backspace
  | tab
  | backTab
  | escape
  | delete
  | insert
  | up
  | down
  | left
  | right
  | home
  | lineEnd
  | pageUp
  | pageDown
  | null
  | function (n : Nat)
deriving DecidableEq, Repr

/-- Modifier keys that are held. -/
structure Modifiers where
  control : Bool := false
  shift : Bool := false
  alt : Bool := false
deriving DecidableEq, Repr

/-- The control code of a letter. -/
def controlCode? (c : Char) : Option UInt8 :=
  if c.isAlpha then some (c.toUpper.toNat - 64).toUInt8 else none

/-- The byte of a key without regard to modifiers; the arrows are a diamond of control codes. -/
def Key.plainByte? : Key → Option UInt8
  | .char c => if c.toNat < 128 then some c.toNat.toUInt8 else none
  | .enter => some 13
  | .backspace => some 8
  | .tab => some 9
  | .escape => some 27
  | .delete => some 127
  | .up => some 0x05
  | .down => some 0x18
  | .left => some 0x13
  | .right => some 0x04
  | _ => none

/-- The byte that a key sends, if any. -/
def Key.byte? (key : Key) (held : Modifiers) : Option UInt8 :=
  match key with
  | .char c => (if held.control then controlCode? c else none) <|> key.plainByte?
  | _ => key.plainByte?

end BankedZ80
