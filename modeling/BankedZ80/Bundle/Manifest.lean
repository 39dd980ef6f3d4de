import BankedZ80.Config

/-!
# Bundle manifests

The manifest of a bundle names the ROM image and the disk images of a machine, and may bring a boot
option and a configuration.

`assignUnits` gives every disk its unit: the units that entries ask for are taken first, and the
others get the lowest units left, in listed order.
-/

namespace BankedZ80

/-- A disk image listed in a manifest. -/
structure DiskEntry where
  file : String
  name : Option String := none
  description : Option String := none
  license : Option String := none
  /-- The unit asked for. -/
  slot : Option Nat := none
  /-- A catalog image, rather than the user's own data. -/
  manifest : Bool := true
deriving DecidableEq, Repr

/-- What a bundle consists of. -/
structure Manifest where
  name : String
  rom : String
  disks : List DiskEntry := []
  boot : Option String := none
  /-- A configuration, not yet checked. -/
  config : Option Config := none
deriving DecidableEq, Repr

/-! ### JSON -/

/-- A disk entry. -/
def DiskEntry.ofJson? (j : Json) : Option DiskEntry := do
  let f ← j.fields? ["filename", "name", "description", "license", "defaultSlot", "manifest"]
  return {
    file := ← f.required "filename" Json.text?
    name := ← f.withDefault "name" (Json.nullable? Json.text?) none
    description := ← f.withDefault "description" (Json.nullable? Json.text?) none
    license := ← f.withDefault "license" (Json.nullable? Json.text?) none
    slot := ← f.withDefault "defaultSlot" (Json.nullable? Json.size?) none
    manifest := ← f.withDefault "manifest" Json.bool? true }

/-- A manifest. -/
def Manifest.ofJson? (j : Json) : Option Manifest := do
  let f ← j.fields? ["name", "rom", "disks", "boot", "config"]
  return {
    name := ← f.required "name" Json.text?
    rom := ← f.required "rom" Json.text?
    disks := ← f.withDefault "disks" (Json.list? DiskEntry.ofJson?) []
    boot := ← f.withDefault "boot" (Json.nullable? Json.text?) none
    config := ← f.withDefault "config" (Json.nullable? Config.ofJson?) none }

/-- Read a manifest from a JSON text. -/
def Manifest.ofText? (text : List UInt8) : Option Manifest := do ofJson? (← Json.parse? text)

/-! ### Units -/

/-- The units that are asked for, in listed order, after those already taken. -/
def claimSlots (taken : List Nat) : List DiskEntry → Except MachineError (List Nat)
  | [] => .ok taken
  | entry :: rest =>
    match entry.slot with
    | none => claimSlots taken rest
    | some n =>
      if n ≥ maxUnits then .error (.invalidUnit n)
      else if taken.contains n then .error (.bundle (.unitTaken n))
      else claimSlots (taken ++ [n]) rest

/-- Give every entry its unit, the free ones being handed out in order. -/
def fillUnits (free : List Nat) : List DiskEntry → Except MachineError (List Nat)
  | [] => .ok []
  | entry :: rest =>
    match entry.slot, free with
    | some n, free => do return n :: (← fillUnits free rest)
    | none, n :: free => do return n :: (← fillUnits free rest)
    | none, [] => .error (.bundle (.tooManyDisks maxUnits))

/-- A unit for every entry. -/
def assignUnits (entries : List DiskEntry) : Except MachineError (List Nat) := do
  let taken ← claimSlots [] entries
  fillUnits ((List.range maxUnits).filter fun n => !taken.contains n) entries

end BankedZ80
