import BankedZ80.Devices
import BankedZ80.Proofs.Safety.Registers

/-!
# Ports and the bus do not crash

The checked programs of the boot record and of the port table, and with them a bus on which every
access is checked. `BusProgram.runM` carries a program of the processor out on such a bus; where every
single access computes what the bus does and keeps an invariant, every program does, whatever its
instructions are (`BusProgram.runM_eq`).
-/

namespace BankedZ80

open Checked

/-! ### The boot record -/

namespace Nvram

/-- Exclusive or of the first four bytes. -/
def checksumM (n : Nvram) : Checked UInt8 := do
  return (← (List.range 4).mapM fun i => slot n.bytes i).foldl (· ^^^ ·) 0

/-- The text of the boot option, empty when there is none. -/
def settingM (n : Nvram) : Checked String := do
  if (← slot n.bytes 0) == signature && (← n.checksumM) == (← slot n.bytes 4) then
    return ((BootOption.decode? (← slot n.bytes 1) (← slot n.bytes 2)).map (·.text)).getD ""
  else return ""

/-- Put the checksum in place and note the change. -/
def resealM (n : Nvram) : Checked Nvram := do
  return { n with bytes := ← setSlot n.bytes 4 (← n.checksumM), changed := true }

/-- Guest write. -/
def writeRegisterM (n : Nvram) (register v : UInt8) : Checked Nvram := do
  if register = 0 then return { n with latch := v }
  else if n.latch.toNat < 4 then
    resealM { n with bytes := ← setSlot n.bytes n.latch.toNat v }
  else return n

/-- Store the boot option that a text names; any other text is refused. -/
def setSettingM (n : Nvram) (s : String) : Checked Nvram := do
  match BootOption.parse? s with
  | some option =>
    let (low, high, flags) := option.encode
    let last ← slot n.bytes 4
    resealM { n with bytes := #v[signature, low, high, flags, last] }
  | none => refusable (.error (.invalidBootOption s))

variable (n : Nvram)

theorem checksumM_eq : n.checksumM = .ok (checksum n.bytes) := by
  have first : (List.range 4).mapM (fun i => slot n.bytes i) =
      .ok [n.bytes[0], n.bytes[1], n.bytes[2], n.bytes[3]] := rfl
  have sum : [n.bytes[0], n.bytes[1], n.bytes[2], n.bytes[3]].foldl (· ^^^ ·) 0 =
      checksum n.bytes := by
    simp [checksum]
  rw [checksumM, first, ok_bind, sum]
  rfl

theorem settingM_eq : n.settingM = .ok n.setting := by
  have byte {i : Nat} (h : i < 5) : slot n.bytes i = .ok n.bytes[i] := slot_eq h
  rw [settingM, byte (by decide), ok_bind, checksumM_eq, ok_bind, byte (by decide), ok_bind, setting,
    bootOption, isValid, isInitialized]
  split
  · rw [byte (by decide), ok_bind, byte (by decide), ok_bind]
    cases BootOption.decode? n.bytes[1] n.bytes[2] <;> rfl
  · rfl

theorem resealM_eq : n.resealM = .ok n.reseal := by
  rw [resealM, checksumM_eq]
  rfl

theorem writeRegisterM_eq (register v : UInt8) :
    n.writeRegisterM register v = .ok (n.writeRegister register v) := by
  unfold writeRegisterM writeRegister
  split
  · rfl
  · split
    · next inside =>
      rw [setSlot_eq (Nat.lt_trans inside (show 4 < 5 by decide)), ok_bind]
      exact resealM_eq _
    · rfl

theorem setSettingM_eq (s : String) : n.setSettingM s = refusable (n.setSetting s) := by
  unfold setSettingM setSetting
  cases BootOption.parse? s with
  | none => rfl
  | some option => exact resealM_eq _

end Nvram

/-! ### Ports -/

namespace PortTable

/-- Give one port to a register of a device. -/
def claimM (device : Device) (base : UInt8) (t : PortTable) (register : Nat) :
    Checked PortTable := do
  let port := base.toNat + register
  if port < 256 then
    match ← slot t.slots port with
    | some _ => refusable (.error (.portConflict port.toUInt8))
    | none => return ⟨← setSlot t.slots port (some (device, register.toUInt8))⟩
  else refusable (.error (.portConflict base))

/-- The table of a layout, or the first conflict met. -/
def ofLayoutM (layout : PortLayout) : Checked PortTable :=
  Device.all.foldlM
    (fun t device => (List.range device.width).foldlM (claimM device (layout.base device)) t) empty

/-- The device and register behind a port. -/
def resolveM (t : PortTable) (port : UInt8) : Checked (Option (Device × UInt8)) :=
  slot t.slots port.toNat

theorem claimM_eq (device : Device) (base : UInt8) (t : PortTable) (register : Nat) :
    claimM device base t register = refusable (claim device base t register) := by
  unfold claimM claim
  dsimp only
  split
  · next inside =>
    rw [slot_eq inside, ok_bind, setSlot_eq inside]
    cases t.slots[base.toNat + register] <;> rfl
  · rfl

theorem ofLayoutM_eq (layout : PortLayout) : ofLayoutM layout = refusable (ofLayout layout) :=
  foldlM_eq (fun t device => foldlM_eq (claimM_eq device (layout.base device)) t _) empty _

theorem resolveM_eq (t : PortTable) (port : UInt8) : t.resolveM port = .ok (t.resolve port) :=
  slot_eq port.toNat_lt

end PortTable

namespace Devices

/-- Read a port. -/
def inputM (d : Devices) (m : Memory) (port : UInt8) : Checked (UInt8 × Devices) := do
  match ← d.ports.resolveM port with
  | some (.uart, register) =>
    let (v, uart) := d.uart.readRegister register
    return (v, { d with uart })
  | some (.bankSelect, _) => return (m.bank, d)
  | some (.disk, register) => return (← d.disks.readRegisterM register, d)
  | some (.nvram, register) => return (d.nvram.readRegister register, d)
  | some (.hostFile, register) =>
    let (v, hostFile) := d.hostFile.readRegister register
    return (v, { d with hostFile })
  | some (.hbiosTrap, _) => return (idleByte, d)
  | none => return (idleByte, d)

/-- Write a port. -/
def outputM (d : Devices) (m : Memory) (port v : UInt8) :
    Checked (Memory × Devices × Option UInt8) := do
  match ← d.ports.resolveM port with
  | some (.uart, register) => return (m, { d with uart := d.uart.writeRegister register v }, none)
  | some (.bankSelect, _) => return (m.selectBank v, d, none)
  | some (.disk, register) =>
    let (disks, m) ← d.disks.writeRegisterM register v m
    return (m, { d with disks }, none)
  | some (.nvram, register) =>
    return (m, { d with nvram := ← d.nvram.writeRegisterM register v }, none)
  | some (.hostFile, register) =>
    return (m, { d with hostFile := d.hostFile.writeRegister register v }, none)
  | some (.hbiosTrap, _) => return (m, d, some v)
  | none => return (m, d, none)

variable {d : Devices} {m : Memory}

theorem inputM_eq (port : UInt8) : d.inputM m port = .ok (d.input m port) := by
  rw [inputM, PortTable.resolveM_eq, ok_bind, input]
  cases d.ports.resolve port with
  | none => rfl
  | some target =>
      obtain ⟨device, register⟩ := target
      cases device with
      | disk =>
          dsimp only
          rw [DiskController.readRegisterM_eq]
          rfl
      | _ => rfl

theorem outputM_eq (disks : d.disks.WellFormed) (pages : m.WellFormed) (port v : UInt8) :
    d.outputM m port v = .ok (d.output m port v) := by
  rw [outputM, PortTable.resolveM_eq, ok_bind, output]
  cases d.ports.resolve port with
  | none => rfl
  | some target =>
      obtain ⟨device, register⟩ := target
      cases device with
      | disk =>
          dsimp only
          rw [DiskController.writeRegisterM_eq disks pages]
          rfl
      | nvram =>
          dsimp only
          rw [Nvram.writeRegisterM_eq]
          rfl
      | _ => rfl

end Devices

/-! ### Programs of the processor -/

namespace BusProgram

/-- A bus on which every access is checked. -/
structure BusM (σ : Type) where
  read : UInt16 → σ → Checked UInt8
  write : UInt16 → UInt8 → σ → Checked σ
  input : UInt16 → σ → Checked (UInt8 × σ)
  output : UInt16 → UInt8 → σ → Checked σ

variable {α σ : Type}

/-- The state of a checked bus after an access. -/
def BusM.after (bus : BusM σ) (s : σ) : Access → Checked σ
  | .write address byte => bus.write address byte s
  | .input port => return (← bus.input port s).2
  | .output port byte => bus.output port byte s

/-- Carry the accesses out on a checked bus. -/
def runM (bus : BusM σ) : BusProgram α → σ → Checked (α × σ)
  | done a, s => return (a, s)
  | read address next, s => do (next (← bus.read address s)).runM bus s
  | write address byte next, s => do (next ()).runM bus (← bus.write address byte s)
  | input port next, s => do
    let (v, s) ← bus.input port s
    (next v).runM bus s
  | output port byte next, s => do (next ()).runM bus (← bus.output port byte s)

/-- A checked bus computes what a bus does, as long as an invariant holds, and this is kept. -/
structure BusM.Computes (busM : BusM σ) (bus : Bus σ) (inv : σ → Prop) : Prop where
  read {s : σ} : inv s → ∀ a, busM.read a s = .ok (bus.read a s)
  write {s : σ} : inv s → ∀ a v, busM.write a v s = .ok (bus.write a v s)
  input {s : σ} : inv s → ∀ p, busM.input p s = .ok (bus.input p s)
  output {s : σ} : inv s → ∀ p v, busM.output p v s = .ok (bus.output p v s)
  kept {s : σ} : inv s → ∀ a, inv (bus.after s a)

theorem BusM.Computes.after_eq {busM : BusM σ} {bus : Bus σ} {inv : σ → Prop}
    (h : busM.Computes bus inv) {s : σ} (start : inv s) (a : Access) :
    busM.after s a = .ok (bus.after s a) := by
  cases a with
  | write address byte => exact h.write start address byte
  | input port =>
      rw [BusM.after, h.input start]
      rfl
  | output port byte => exact h.output start port byte

/-- **Every program** is carried out, whatever it asks of the bus. By induction on the program. -/
theorem runM_eq {busM : BusM σ} {bus : Bus σ} {inv : σ → Prop} (h : busM.Computes bus inv)
    (p : BusProgram α) {s : σ} (start : inv s) : p.runM busM s = .ok (p.run bus s) := by
  induction p generalizing s with
  | done a => rfl
  | read address next ih =>
      rw [runM, h.read start, ok_bind]
      exact ih _ start
  | write address byte next ih =>
      rw [runM, h.write start, ok_bind]
      exact ih () (h.kept start (.write address byte))
  | input port next ih =>
      rw [runM, h.input start, ok_bind]
      exact ih _ (h.kept start (.input port))
  | output port byte next ih =>
      rw [runM, h.output start, ok_bind]
      exact ih () (h.kept start (.output port byte))

end BusProgram

end BankedZ80
