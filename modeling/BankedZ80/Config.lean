import BankedZ80.Cpu.Core
import BankedZ80.Disk.Unit
import BankedZ80.Json.Decode
import BankedZ80.Memory
import BankedZ80.Ports

/-!
# Configuration

What can be chosen about a machine. Every field has a default, so a JSON configuration names only
what it changes. `Config.validate` accepts exactly the configurations that a machine can be built
from: whole pages of memory, a usable sector size, slices whose addresses fit 32 bits, and ports that
do not meet.
-/

namespace BankedZ80

/-- The choices that a machine is built from. -/
structure Config where
  /-- Instructions in one batch. -/
  batchInstructions : UInt32 := 50000
  flavour : Flavour := .nmos
  /-- Largest accepted ROM image, in bytes. -/
  maxRomSize : Nat := 524288
  ramSize : Nat := 524288
  sectorSize : Nat := 512
  sectorsPerSlice : UInt32 := 16384
  /-- Set the slice counts anew whenever the set of loaded disks changes. -/
  autoSlices : Bool := true
  /-- Turn line feeds of the console input into carriage returns. -/
  lfToCr : Bool := true
  /-- Clear bit 7 of the console output. -/
  stripHighBit : Bool := true
  ports : PortLayout := {}
deriving DecidableEq, Repr

namespace Config

/-- Most pages on either side of the bank ids. -/
def maxBanks : Nat := 128

/-- A power of two from 128 to 4096. -/
def isSectorSize (n : Nat) : Bool := [128, 256, 512, 1024, 2048, 4096].contains n

/-- The first fault of a configuration apart from its ports. -/
def fault? (c : Config) : Option ConfigFault :=
  if c.batchInstructions = 0 then some .emptyBatch
  else if !isSectorSize c.sectorSize then some (.sectorSize c.sectorSize)
  else if c.ramSize % pageSize ≠ 0 ∨ c.ramSize < 2 * pageSize then some (.ramSize c.ramSize)
  else if c.ramSize > maxBanks * pageSize ∨ c.maxRomSize > maxBanks * pageSize then
    some .tooManyBanks
  else if c.maxRomSize = 0 ∨ c.maxRomSize % pageSize ≠ 0 then some (.maxRomSize c.maxRomSize)
  else if c.sectorsPerSlice = 0 then some .emptySlice
  else if c.sectorsPerSlice.toNat * maxSlices ≥ 2 ^ 32 then
    some (.sliceTooLarge c.sectorsPerSlice.toNat maxSlices)
  else none

/-- Check a configuration, its ports last. -/
def validate (c : Config) : Except MachineError Unit :=
  match c.fault? with
  | some fault => .error (.invalidConfig fault)
  | none => do
    let _ ← PortTable.ofLayout c.ports
    return ()

/-! ### JSON -/

/-- A silicon variant by its name. -/
def flavour? (j : Json) : Option Flavour := do
  match ← j.name? with
  | "nmos" => some .nmos
  | "cmos" => some .cmos
  | "bm1" => some .bm1
  | _ => none

/-- Port bases, each with a default. -/
def ports? (j : Json) : Option PortLayout := do
  let f ← j.fields?
    ["uartBase", "bankSelect", "diskBase", "nvramBase", "hostFileBase", "hbiosTrap"]
  let d : PortLayout := {}
  return {
    uart := ← f.withDefault "uartBase" Json.uint8? d.uart
    bankSelect := ← f.withDefault "bankSelect" Json.uint8? d.bankSelect
    disk := ← f.withDefault "diskBase" Json.uint8? d.disk
    nvram := ← f.withDefault "nvramBase" Json.uint8? d.nvram
    hostFile := ← f.withDefault "hostFileBase" Json.uint8? d.hostFile
    hbiosTrap := ← f.withDefault "hbiosTrap" Json.uint8? d.hbiosTrap }

/-- The names of the fields, in order. -/
def fieldNames : List String :=
  ["batchInstructions", "cpuFlavour", "maxRomSize", "ramSize", "sectorSize", "sectorsPerSlice",
    "autoSlices", "lfToCr", "stripHighBit", "ports"]

/-- A configuration, not yet checked. -/
def ofJson? (j : Json) : Option Config := do
  let f ← j.fields? fieldNames
  let d : Config := {}
  return {
    batchInstructions := ← f.withDefault "batchInstructions" Json.uint32? d.batchInstructions
    flavour := ← f.withDefault "cpuFlavour" flavour? d.flavour
    maxRomSize := ← f.withDefault "maxRomSize" Json.size? d.maxRomSize
    ramSize := ← f.withDefault "ramSize" Json.size? d.ramSize
    sectorSize := ← f.withDefault "sectorSize" Json.size? d.sectorSize
    sectorsPerSlice := ← f.withDefault "sectorsPerSlice" Json.uint32? d.sectorsPerSlice
    autoSlices := ← f.withDefault "autoSlices" Json.bool? d.autoSlices
    lfToCr := ← f.withDefault "lfToCr" Json.bool? d.lfToCr
    stripHighBit := ← f.withDefault "stripHighBit" Json.bool? d.stripHighBit
    ports := ← f.withDefault "ports" ports? d.ports }

/-- A configuration from a JSON text, not yet checked. -/
def ofText? (text : List UInt8) : Option Config := do ofJson? (← Json.parse? text)

/-- Read and check a JSON configuration. -/
def parse (text : List UInt8) : Except MachineError Config := do
  match ofText? text with
  | none => throw .json
  | some c =>
    c.validate
    return c

end Config

end BankedZ80
