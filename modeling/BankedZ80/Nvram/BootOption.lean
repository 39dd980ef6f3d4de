import BankedZ80.Disk.Unit
import BankedZ80.Text.Blank
import BankedZ80.Word

/-!
# Boot options

What the loader does at power-on, in three forms: the value `BootOption`, its text (`"H"`, a letter,
`"2"`, `"0.3"`) and its code, the three selector bytes of the boot record.

* `BootOption.parse?` reads a text, blanks around it ignored; `BootOption.text` writes one.
* `BootOption.encode` and `BootOption.decode?` go between options and selector bytes.
* `BootOption.Legal` says which options have a text and a code of their own.
-/

namespace BankedZ80

/-- What the loader should do at power-on. -/
inductive BootOption where
  /-- Show the boot menu. -/
  | menu
  /-- Start the ROM application with this letter. -/
  | rom (letter : Char)
  /-- Boot from a slice of a disk unit. -/
  | disk (unit slice : UInt8)
deriving DecidableEq, Repr

namespace BootOption

/-- Set in the flags of every option that starts something by itself. -/
def autoboot : UInt8 := 0x20

/-- Set in the high selector byte of a disk option. -/
def diskBoot : UInt8 := 0x80

/-- Largest slice number an option can name. -/
def maxSlice : Nat := 0x7F

/-- Options that can be stored and told apart: a menu, a ROM letter other than the menu's, or a unit
and slice that exist. -/
def Legal : BootOption → Prop
  | menu => True
  | rom letter => 'A' ≤ letter ∧ letter ≤ 'Z' ∧ letter ≠ 'H'
  | disk unit slice => unit.toNat < maxUnits ∧ slice.toNat ≤ maxSlice

instance : DecidablePred Legal := fun o => by
  cases o <;> unfold Legal <;> infer_instance

/-! ### Selector bytes -/

/-- Low selector, high selector and flags of an option. -/
def encode : BootOption → UInt8 × UInt8 × UInt8
  | menu => (0, 0, 0)
  | rom letter => (letter.toNat.toUInt8, 0, autoboot)
  | disk unit slice => (unit, diskBoot ||| slice, autoboot)

/-- The option that a pair of selector bytes denotes, if any. -/
def decode? (low high : UInt8) : Option BootOption :=
  if high &&& diskBoot != 0 then
    if low.toNat < maxUnits then some (disk low (high &&& 0x7F)) else none
  else if high != 0 then none
  else if low = 0 then some menu
  else
    let letter := Char.ofNat low.toNat
    if 'A' ≤ letter ∧ letter ≤ 'Z' ∧ letter ≠ 'H' then some (rom letter) else none

/-! ### Text -/

/-- The text of an option; slice 0 goes without saying. -/
def text : BootOption → String
  | menu => "H"
  | rom letter => String.singleton letter
  | disk unit slice =>
    if slice = 0 then toString unit.toNat else s!"{unit.toNat}.{slice.toNat}"

/-- The value of a non-empty string of ASCII digits. -/
def digitsValue? (s : List Char) : Option Nat :=
  if s ≠ [] ∧ s.all Char.isDigit then
    some (s.foldl (fun n c => 10 * n + (c.toNat - 48)) 0)
  else none

/-- A unit and slice number, each written in decimal. -/
def parseDisk? (unit slice : List Char) : Option BootOption := do
  let u ← digitsValue? unit
  let s ← digitsValue? slice
  if u < maxUnits ∧ s ≤ maxSlice then some (disk u.toUInt8 s.toUInt8) else none

/-- Read an option from characters without blanks around them: a letter by itself, or a unit, or a
unit and a slice joined by a point. -/
def ofChars? (s : List Char) : Option BootOption :=
  match s with
  | [c] =>
    if c.isAlpha then
      let letter := c.toUpper
      some (if letter = 'H' then menu else rom letter)
    else parseDisk? [c] ['0']
  | _ =>
    match s.dropWhile (· ≠ '.') with
    | [] => parseDisk? s ['0']
    | _ :: slice => parseDisk? (s.takeWhile (· ≠ '.')) slice

/-- Read an option from a text, blanks around it ignored. -/
def parse? (s : String) : Option BootOption := ofChars? (Text.trim s.toList)

end BootOption

end BankedZ80
