import BankedZ80.Disk.Controller
import Mathlib.Tactic.IntervalCases

/-!
# The registers and what is behind them

The register file and the seek positions are one thing, the units with their images and flags another.
`DiskController.resetRegisters` forgets the first, so two controllers have the same contents when they
agree after it.

* The four block address registers hold a block address byte by byte (`lbaByte_setLbaByte`,
  `eq_of_lbaByte`).
* What a sector check and a sector hold depends on the contents alone (`checkRead_resetRegisters` and
  its companions), and a sector write changes the contents alone (`putSector_resetRegisters`).
-/

namespace BankedZ80.DiskController

/-! ### Bytes of a block address -/

theorem toNat_lbaByte (lba : UInt32) (i : Nat) :
    (lbaByte lba i).toNat = lba.toNat / 256 ^ i % 256 := by
  rw [lbaByte, Nat.toUInt8_eq, UInt8.toNat_ofNat']

theorem lbaByte_setLbaByte (lba : UInt32) (v : UInt8) {i j : Nat} (hi : i < 4) (hj : j < 4) :
    lbaByte (setLbaByte lba i v) j = if i = j then v else lbaByte lba j := by
  have hl := lba.toNat_lt
  have hv := v.toNat_lt
  apply UInt8.toNat_inj.1
  rw [apply_ite UInt8.toNat, toNat_lbaByte, toNat_lbaByte, setLbaByte, toNat_lbaByte,
    Nat.toUInt32_eq, UInt32.toNat_ofNat']
  interval_cases i <;> interval_cases j <;> simp <;> omega

/-- A block address is its four bytes. -/
theorem eq_of_lbaByte {a b : UInt32} (h : ∀ i < 4, lbaByte a i = lbaByte b i) : a = b := by
  have h0 := congrArg UInt8.toNat (h 0 (by decide))
  have h1 := congrArg UInt8.toNat (h 1 (by decide))
  have h2 := congrArg UInt8.toNat (h 2 (by decide))
  have h3 := congrArg UInt8.toNat (h 3 (by decide))
  have ha := a.toNat_lt
  have hb := b.toNat_lt
  rw [toNat_lbaByte, toNat_lbaByte] at h0 h1 h2 h3
  apply UInt32.toNat_inj.1
  omega

/-- Writing all four bytes of a block address over another leaves nothing of the other. -/
theorem setLbaByte_all (old lba : UInt32) :
    setLbaByte (setLbaByte (setLbaByte (setLbaByte old 0 (lbaByte lba 0)) 1 (lbaByte lba 1))
      2 (lbaByte lba 2)) 3 (lbaByte lba 3) = lba := by
  apply eq_of_lbaByte
  intro i hi
  rw [lbaByte_setLbaByte _ _ (by decide) hi, lbaByte_setLbaByte _ _ (by decide) hi,
    lbaByte_setLbaByte _ _ (by decide) hi, lbaByte_setLbaByte _ _ (by decide) hi]
  interval_cases i <;> rfl

/-! ### Slots -/

/-- A change of all entries of a vector is one of all entries after a change of a single one. -/
theorem map_modifySlot {α β : Type} {size : Nat} (v : Vector α size) (i : Nat) {f : α → α}
    {g : β → β} {k : α → β} (h : ∀ a, k (f a) = g (k a)) :
    (modifySlot v i f).map k = modifySlot (v.map k) i g := by
  ext j hj : 1
  rw [Vector.getElem_map, getElem_modifySlot, getElem_modifySlot, Vector.getElem_map]
  split
  · exact h v[j]
  · rfl

/-- The same for the units in some slots. -/
theorem map_modifySlot_units (v : Vector (Option DiskUnit) maxUnits) (i : Nat)
    {f g k : DiskUnit → DiskUnit} (h : ∀ d, k (f d) = g (k d)) :
    (modifySlot v i (Option.map f)).map (Option.map k) =
      modifySlot (v.map (Option.map k)) i (Option.map g) := by
  refine map_modifySlot v i fun slot => ?_
  cases slot with
  | none => rfl
  | some d => exact congrArg some (h d)

variable (c : DiskController) (n : Nat) (lba : UInt32)

theorem modifyUnit_id : c.modifyUnit n id = c := by
  have same : modifySlot c.units n (Option.map id) = c.units := by
    ext i hi : 1
    rw [getElem_modifySlot, Option.map_id, id, ite_self]
  rw [modifyUnit, same]

theorem unit_modifyUnit (f : DiskUnit → DiskUnit) (k : Nat) :
    (c.modifyUnit n f).unit k = (c.unit k).map (if n = k then f else id) := by
  unfold unit modifyUnit
  split
  · next hk =>
      by_cases h : n = k
      · simp only [getElem_modifySlot, if_pos h]
        cases c.units[k] with
        | none => rfl
        | some d => rfl
      · simp only [getElem_modifySlot, if_neg h]
        cases c.units[k] with
        | none => rfl
        | some d => rfl
  · rfl

/-- A changed slot holds what was there before, changed. -/
theorem unit_of_modifyUnit {f : DiskUnit → DiskUnit} {d : DiskUnit}
    (h : (c.modifyUnit n f).unit n = .ok d) : ∃ d', c.unit n = .ok d' ∧ d = f d' := by
  rw [unit_modifyUnit, if_pos rfl] at h
  cases hu : c.unit n with
  | error e =>
      rw [hu] at h
      cases h
  | ok d' =>
      rw [hu] at h
      cases h
      exact ⟨d', rfl, rfl⟩

/-- Where there is no unit, nothing is changed. -/
theorem modifyUnit_of_error {e : MachineError} (h : c.unit n = .error e) (f : DiskUnit → DiskUnit) :
    c.modifyUnit n f = c := by
  have same : modifySlot c.units n (Option.map f) = c.units := by
    ext i hi : 1
    rw [getElem_modifySlot]
    split
    · next hn =>
        subst hn
        unfold unit at h
        rw [dif_pos hi] at h
        cases hc : c.units[n] with
        | none => rfl
        | some d =>
            rw [hc] at h
            cases h
    · rfl
  rw [modifyUnit, same]

theorem unit_eq_error {e : MachineError} (h : c.unit n = .error e) :
    e = .invalidUnit n ∨ e = .noMedia n := by
  unfold unit at h
  split at h
  · split at h
    · cases h
    · cases h
      exact .inr rfl
  · cases h
    exact .inl rfl

/-- A slot whose number exists is loaded exactly if there is a unit. -/
theorem unit_eq :
    c.unit n =
      if n < maxUnits then
        match c.unit? n with
        | some d => .ok d
        | none => .error (.noMedia n)
      else .error (.invalidUnit n) := by
  unfold unit
  split
  · next hn =>
      have slot : c.unit? n = c.units[n] := by
        rw [unit?, Vector.getElem?_eq_getElem hn, Option.join_some]
      cases filled : c.units[n] <;> rw [slot, filled]
  · rfl

theorem unit?_of_unit {d : DiskUnit} (h : c.unit n = .ok d) : c.unit? n = some d := by
  unfold unit at h
  split at h
  · next hn =>
      rw [unit?, Vector.getElem?_eq_getElem hn]
      split at h
      · next hd =>
          cases h
          rw [hd, Option.join_some]
      · cases h
  · cases h

theorem seek_of_unit {d : DiskUnit} (h : c.unit n = .ok d) : c.seek n = d.seek := by
  rw [seek, unit?_of_unit c n h]
  rfl

theorem unit_of_unit? {d : DiskUnit} (h : c.unit? n = some d) : c.unit n = .ok d := by
  by_cases hn : n < maxUnits
  · rw [unit?, Vector.getElem?_eq_getElem hn, Option.join_some] at h
    rw [unit, dif_pos hn, h]
  · rw [unit?, Vector.getElem?_eq_none (Nat.le_of_not_lt hn)] at h
    cases h

/-! ### Checks -/

theorem checkRead_of_unit {d : DiskUnit} (h : c.unit n = .ok d) :
    c.checkRead n lba =
      if d.totalSectors ≤ lba then .error (.sectorOutOfRange n lba) else .ok () := by
  unfold checkRead
  rw [h]
  rfl

theorem checkRead_of_error {e : MachineError} (h : c.unit n = .error e) :
    c.checkRead n lba = .error e := by
  unfold checkRead
  rw [h]
  rfl

/-- A sector that is there can be read. -/
theorem readSector_of_unit {d : DiskUnit} (h : c.unit? n = some d) (there : lba < d.totalSectors) :
    c.readSector n lba = .ok (d.sectorBytes lba) := by
  have bytes : c.sectorBytes n lba = d.sectorBytes lba := by
    rw [sectorBytes, h]
    rfl
  rw [readSector, checkRead_of_unit c n lba (unit_of_unit? c n h),
    if_neg (UInt32.not_le.mpr there), bytes]
  rfl

theorem checkWrite_of_unit {d : DiskUnit} (h : c.unit n = .ok d) (length : Nat) :
    c.checkWrite n lba length =
      if length ≠ d.sectorSize then .error (.badSectorLength d.sectorSize length)
      else c.checkRead n lba := by
  simp only [checkWrite, h, bind, Except.bind]
  split <;> rfl

theorem checkWrite_of_error {e : MachineError} (h : c.unit n = .error e) (length : Nat) :
    c.checkWrite n lba length = .error e := by
  unfold checkWrite
  rw [h]
  rfl

/-- What a successful check of a write has found. -/
theorem checkWrite_eq_ok {length : Nat} (h : c.checkWrite n lba length = .ok ()) :
    ∃ d, c.unit n = .ok d ∧ length = d.sectorSize ∧ lba < d.totalSectors := by
  cases hd : c.unit n with
  | error e =>
      rw [checkWrite_of_error c n lba hd] at h
      cases h
  | ok d =>
      rw [checkWrite_of_unit c n lba hd] at h
      split at h
      · cases h
      · next same =>
          rw [checkRead_of_unit c n lba hd] at h
          split at h
          · cases h
          · next there =>
              exact ⟨d, rfl, not_not.mp same, UInt32.not_le.mp there⟩

/-- A sector write changes the unit and perhaps the pending warning, and nothing else. -/
theorem putSector_eq (bytes : ByteArray) :
    c.putSector n lba bytes =
      { c.modifyUnit n (·.putSector lba bytes) with
        pendingWarning := if c.warnsOf n then some n else c.pendingWarning } := by
  unfold putSector
  cases c.warnsOf n <;> rfl

/-! ### Contents -/

theorem unit?_map_units (f : DiskUnit → DiskUnit) :
    unit? { c with units := c.units.map (Option.map f) } n = (c.unit? n).map f := by
  unfold unit?
  rw [Vector.getElem?_map]
  cases c.units[n]? with
  | none => rfl
  | some slot => rfl

theorem unit_map_units (f : DiskUnit → DiskUnit) :
    unit { c with units := c.units.map (Option.map f) } n = (c.unit n).map f := by
  unfold unit
  split
  · next hn =>
      simp only [Vector.getElem_map]
      cases c.units[n] with
      | none => rfl
      | some d => rfl
  · rfl

theorem unit?_resetRegisters :
    c.resetRegisters.unit? n = (c.unit? n).map ({ · with seek := 0 }) :=
  unit?_map_units c n _

theorem unit_resetRegisters :
    c.resetRegisters.unit n = (c.unit n).map ({ · with seek := 0 }) :=
  unit_map_units c n _

theorem sectorSize_resetRegisters : c.resetRegisters.sectorSize = c.sectorSize := rfl

theorem pendingWarning_resetRegisters : c.resetRegisters.pendingWarning = c.pendingWarning := rfl

theorem checkRead_resetRegisters : c.resetRegisters.checkRead n lba = c.checkRead n lba := by
  unfold checkRead
  rw [unit_resetRegisters]
  cases c.unit n with
  | error e => rfl
  | ok d => rfl

theorem checkWrite_resetRegisters (length : Nat) :
    c.resetRegisters.checkWrite n lba length = c.checkWrite n lba length := by
  unfold checkWrite
  rw [unit_resetRegisters, checkRead_resetRegisters]
  cases c.unit n with
  | error e => rfl
  | ok d => rfl

theorem sectorBytes_resetRegisters : c.resetRegisters.sectorBytes n lba = c.sectorBytes n lba := by
  unfold sectorBytes
  rw [unit?_resetRegisters]
  cases c.unit? n with
  | none => rfl
  | some d => rfl

theorem image_resetRegisters : c.resetRegisters.image n = c.image n := by
  unfold image
  rw [unit?_resetRegisters]
  cases c.unit? n with
  | none => rfl
  | some d => rfl

theorem isDirty_resetRegisters : c.resetRegisters.isDirty n = c.isDirty n := by
  unfold isDirty
  rw [unit?_resetRegisters]
  cases c.unit? n with
  | none => rfl
  | some d => rfl

theorem warnsOf_resetRegisters : c.resetRegisters.warnsOf n = c.warnsOf n := by
  unfold warnsOf
  rw [unit?_resetRegisters]
  cases c.unit? n with
  | none => rfl
  | some d => rfl

/-- Changing a slot in a way that seek positions play no part in changes the contents alone. -/
theorem resetRegisters_modifyUnit {f g : DiskUnit → DiskUnit}
    (h : ∀ d, { f d with seek := 0 } = g { d with seek := 0 }) :
    (c.modifyUnit n f).resetRegisters = c.resetRegisters.modifyUnit n g := by
  unfold modifyUnit resetRegisters
  congr 1
  exact map_modifySlot_units c.units n h

theorem putSector_resetRegisters (bytes : ByteArray) :
    (c.putSector n lba bytes).resetRegisters = c.resetRegisters.putSector n lba bytes := by
  have units : (c.modifyUnit n (·.putSector lba bytes)).resetRegisters =
      c.resetRegisters.modifyUnit n (·.putSector lba bytes) :=
    resetRegisters_modifyUnit c n fun _ => rfl
  rw [putSector_eq, putSector_eq, warnsOf_resetRegisters, ← units]
  rfl

theorem setSeek_resetRegisters : (c.setSeek n lba).resetRegisters = c.resetRegisters := by
  have forget : (c.setSeek n lba).resetRegisters = c.resetRegisters.modifyUnit n id :=
    resetRegisters_modifyUnit c n fun _ => rfl
  rw [forget, modifyUnit_id]

end BankedZ80.DiskController
