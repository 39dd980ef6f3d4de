import BankedZ80.Proofs.Disk.Sectors

/-!
# What can happen to a controller

Guests and hosts act on the disks in many ways, but a controller goes only so many ways from one
state to the next.

* **Changes.** `DiskChange` lists what is done to units and warnings: an image is loaded, a slot
  emptied, a sector written, contents taken as saved, flags and slice counts set, a warning taken.
  `Change c a c'` says that `a` leads from `c` to `c'`; it holds only of what is not refused.
* **Registers.** All else concerns the register file and the seek positions, which `resetRegisters`
  forgets.
* **Evolution.** `Evolves c log c'` is any number of both, with the changes in order.

`Change.kept` is the effect of a change on each slot, and `Evolves.keeps` the induction by which a
property of log and controller is shown to last.
-/

namespace BankedZ80

/-- Something that happened to the contents of the disks. -/
inductive DiskEvent where
  | loaded (n : Nat) (image : ByteArray)
  | unloaded (n : Nat)
  | wrote (n : Nat) (lba : UInt32) (bytes : ByteArray)
deriving DecidableEq

/-- Something that is done to a controller. -/
inductive DiskChange where
  | event (e : DiskEvent)
  /-- The contents of a slot are taken as saved; the image is what the slot holds. -/
  | saved (n : Nat) (image : Option ByteArray)
  | sliced (n : Nat) (count : UInt8)
  | flagged (n : Nat) (manifest : Bool)
  | silenced (n : Nat) (silenced : Bool)
  | silencedAll (silenced : Bool)
  | warningTaken
deriving DecidableEq

namespace DiskChange

/-- What happened to the contents of the disks, if anything. -/
def event? : DiskChange → Option DiskEvent
  | event e => some e
  | _ => none

/-- What a change makes of a slot, slice count and seek position aside. -/
def applyTo (sectorSize k : Nat) (slot : Option DiskUnit) : DiskChange → Option DiskUnit
  | event (.loaded n image) => if n = k then some { image, sectorSize } else slot
  | event (.unloaded n) => if n = k then none else slot
  | event (.wrote n lba bytes) => if n = k then slot.map (·.putSector lba bytes) else slot
  | saved n _ => if n = k then slot.map ({ · with dirty := false }) else slot
  | flagged n manifest => if n = k then slot.map ({ · with manifest }) else slot
  | _ => slot

/-- What is done to load an image as a catalog image, or as the user's own. -/
def loadedAs (n : Nat) (image : ByteArray) (manifest : Bool) : List DiskChange :=
  [event (.loaded n image), flagged n manifest]

theorem foldl_loadedAs {sectorSize k n : Nat} {image : ByteArray} {manifest : Bool}
    {slot : Option DiskUnit} :
    (loadedAs n image manifest).foldl (applyTo sectorSize k) slot =
      if n = k then some { image, sectorSize, manifest } else slot := by
  rw [loadedAs, List.foldl_cons, List.foldl_cons, List.foldl_nil, applyTo, applyTo]
  split <;> rfl

end DiskChange

theorem DiskUnit.checkSize_eq_ok {length sectorSize : Nat} {u : Unit} :
    checkSize length sectorSize = .ok u ↔ length ≠ 0 ∧ length % sectorSize = 0 := by
  unfold checkSize
  split
  · exact ⟨nofun, by omega⟩
  · exact ⟨fun _ => by omega, fun _ => rfl⟩

namespace DiskController

/-- A change leads from one controller to another. -/
inductive Change (c : DiskController) : DiskChange → DiskController → Prop
  | load {n : Nat} {image : ByteArray} {c' : DiskController} (ok : c.load n image = .ok c') :
      Change c (.event (.loaded n image)) c'
  | unload {n : Nat} {image : Option ByteArray} {c' : DiskController}
      (ok : c.unload n = .ok (image, c')) : Change c (.event (.unloaded n)) c'
  | write {n : Nat} {lba : UInt32} {bytes : ByteArray} (ok : c.checkWrite n lba bytes.size = .ok ()) :
      Change c (.event (.wrote n lba bytes)) (c.putSector n lba bytes)
  | save (n : Nat) : Change c (.saved n (c.image n)) (c.clearDirty n)
  | slice {n : Nat} {count : UInt8} {c' : DiskController} (ok : c.setSliceCount n count = .ok c') :
      Change c (.sliced n count) c'
  | flag {n : Nat} {manifest : Bool} {c' : DiskController} (ok : c.setManifest n manifest = .ok c') :
      Change c (.flagged n manifest) c'
  | silence {n : Nat} {silenced : Bool} {c' : DiskController}
      (ok : c.setSilenced n silenced = .ok c') : Change c (.silenced n silenced) c'
  | silenceAll (silenced : Bool) : Change c (.silencedAll silenced) (c.setAllSilenced silenced)
  | takeWarning : Change c .warningTaken c.takeWarning.2

/-- Changes one after another, and anything to registers and seek positions in between. -/
inductive Evolves : DiskController → List DiskChange → DiskController → Prop
  | refl (c : DiskController) : Evolves c [] c
  | registers {c c' c'' : DiskController} {log : List DiskChange}
      (same : c'.resetRegisters = c.resetRegisters) (rest : Evolves c' log c'') : Evolves c log c''
  | change {c c' c'' : DiskController} {a : DiskChange} {log : List DiskChange}
      (first : Change c a c') (rest : Evolves c' log c'') : Evolves c (a :: log) c''

variable {c c' c'' : DiskController} {n : Nat}

/-! ### Refused calls aside -/

theorem checkUnit_eq_ok {u : Unit} : checkUnit n = .ok u ↔ n < maxUnits := by
  unfold checkUnit
  split
  · next there => exact ⟨fun _ => there, fun _ => rfl⟩
  · next missing => exact ⟨nofun, fun there => absurd there missing⟩

/-- What an image is loaded as, and where. -/
theorem load_eq_ok {image : ByteArray} :
    c.load n image = .ok c' ↔ n < maxUnits ∧ DiskUnit.checkSize image.size c.sectorSize = .ok () ∧
      c' = rebalance { c with
        units := modifySlot c.units n fun _ => some { image, sectorSize := c.sectorSize } } := by
  constructor
  · intro h
    obtain ⟨_, there, h⟩ := bind_eq_ok.1 h
    obtain ⟨d, fresh, h⟩ := bind_eq_ok.1 h
    obtain ⟨_, size, fresh⟩ := bind_eq_ok.1 fresh
    cases fresh
    cases h
    exact ⟨checkUnit_eq_ok.1 there, size, rfl⟩
  · rintro ⟨there, size, rfl⟩
    exact bind_eq_ok.2 ⟨(), checkUnit_eq_ok.2 there, bind_eq_ok.2
      ⟨{ image, sectorSize := c.sectorSize }, bind_eq_ok.2 ⟨(), size, rfl⟩, rfl⟩⟩

/-- A slot that is emptied was there, and empty before or not. -/
theorem unload_eq_ok {image : Option ByteArray} (h : c.unload n = .ok (image, c')) :
    n < maxUnits ∧
      ((c.unit? n = none ∧ c' = c) ∨
        c' = rebalance { c with units := modifySlot c.units n fun _ => none }) := by
  obtain ⟨_, there, h⟩ := bind_eq_ok.1 h
  refine ⟨checkUnit_eq_ok.1 there, ?_⟩
  cases hc : c.unit? n with
  | some d =>
      simp only [hc] at h
      cases h
      exact .inr rfl
  | none =>
      simp only [hc] at h
      cases h
      exact .inl ⟨rfl, rfl⟩

theorem setSliceCount_eq_ok {count : UInt8} (h : c.setSliceCount n count = .ok c') :
    c' = c.modifyUnit n ({ · with slices := count }) := by
  obtain ⟨d, -, h⟩ := bind_eq_ok.1 h
  obtain ⟨_, -, h⟩ := bind_eq_ok.1 h
  cases h
  rfl

theorem setManifest_eq_ok {manifest : Bool} :
    c.setManifest n manifest = .ok c' ↔
      (∃ d, c.unit n = .ok d) ∧ c' = c.modifyUnit n ({ · with manifest }) := by
  constructor
  · intro h
    obtain ⟨d, there, h⟩ := bind_eq_ok.1 h
    cases h
    exact ⟨⟨d, there⟩, rfl⟩
  · rintro ⟨⟨d, there⟩, rfl⟩
    exact bind_eq_ok.2 ⟨d, there, rfl⟩

theorem setSilenced_eq_ok {silenced : Bool} (h : c.setSilenced n silenced = .ok c') :
    c' = { c with silenced := modifySlot c.silenced n fun _ => silenced } := by
  obtain ⟨_, -, h⟩ := bind_eq_ok.1 h
  cases h
  rfl

/-! ### Effects -/

theorem rebalance_eq (c : DiskController) : c.rebalance = { c with units := c.rebalance.units } := by
  unfold rebalance
  split <;> rfl

theorem silenced_rebalance (c : DiskController) : c.rebalance.silenced = c.silenced := by
  rw [rebalance_eq]

/-- What is chosen about the disks for good: the sizes of sectors and slices, and whether slice counts
follow the number of loaded units. -/
def choices (c : DiskController) : Nat × UInt32 × Bool := (c.sectorSize, c.sectorsPerSlice, c.autoSlices)

/-- No change concerns what is chosen for good. -/
theorem Change.choices {a : DiskChange} (h : Change c a c') : c'.choices = c.choices := by
  cases h with
  | load ok =>
      rw [(load_eq_ok.1 ok).2.2, rebalance_eq]
      rfl
  | unload ok =>
      obtain ⟨-, ⟨-, rfl⟩ | rfl⟩ := unload_eq_ok ok
      · rfl
      · rw [rebalance_eq]
        rfl
  | write ok =>
      rw [putSector_eq]
      rfl
  | slice ok =>
      rw [setSliceCount_eq_ok ok]
      rfl
  | flag ok =>
      rw [(setManifest_eq_ok.1 ok).2]
      rfl
  | silence ok =>
      rw [setSilenced_eq_ok ok]
      rfl
  | save | silenceAll | takeWarning => rfl

theorem Change.sectorSize {a : DiskChange} (h : Change c a c') : c'.sectorSize = c.sectorSize :=
  congrArg Prod.fst h.choices

/-- **What a change does to a slot.** -/
theorem Change.kept {a : DiskChange} (h : Change c a c') (k : Nat) :
    c'.kept k = a.applyTo c.sectorSize k (c.kept k) := by
  cases h with
  | load ok =>
      obtain ⟨hn, -, rfl⟩ := load_eq_ok.1 ok
      rw [kept_rebalance, kept_modifySlot c hn]
      rfl
  | @unload n _ _ ok =>
      obtain ⟨hn, ⟨empty, rfl⟩ | rfl⟩ := unload_eq_ok ok
      · show c'.kept k = if n = k then none else c'.kept k
        by_cases hk : n = k
        · rw [if_pos hk, ← hk, DiskController.kept, empty]
          rfl
        · rw [if_neg hk]
      · rw [kept_rebalance, kept_modifySlot c hn]
        rfl
  | write ok => exact kept_putSector c _ _ _ k
  | save n => exact kept_modifyUnit c n (fun d => rfl) k
  | @slice n count _ ok =>
      rw [setSliceCount_eq_ok ok]
      exact kept_modifyUnit_id c n (f := ({ · with slices := count })) (fun d => rfl) k
  | flag ok =>
      rw [(setManifest_eq_ok.1 ok).2]
      exact kept_modifyUnit c _ (fun d => rfl) k
  | silence ok =>
      rw [setSilenced_eq_ok ok]
      exact kept_of_units rfl k
  | silenceAll | takeWarning => exact kept_of_units rfl k

/-! ### Evolution -/

theorem choices_of_resetRegisters (same : c'.resetRegisters = c.resetRegisters) :
    c'.choices = c.choices := by
  show c'.resetRegisters.choices = c.choices
  rw [same]
  rfl

theorem sectorSize_of_resetRegisters (same : c'.resetRegisters = c.resetRegisters) :
    c'.sectorSize = c.sectorSize :=
  congrArg Prod.fst (choices_of_resetRegisters same)

theorem sectorsPerSlice_of_resetRegisters (same : c'.resetRegisters = c.resetRegisters) :
    c'.sectorsPerSlice = c.sectorsPerSlice :=
  congrArg (·.2.1) (choices_of_resetRegisters same)

theorem resetRegisters_idem (c : DiskController) :
    c.resetRegisters.resetRegisters = c.resetRegisters := by
  unfold resetRegisters
  congr 1
  ext i hi : 1
  rw [Vector.getElem_map, Vector.getElem_map, Option.map_map]
  rfl

namespace Evolves

variable {log log' : List DiskChange}

/-- Anything to registers and seek positions. -/
theorem of_registers (same : c'.resetRegisters = c.resetRegisters) : Evolves c [] c' :=
  .registers same (.refl c')

/-- A single change. -/
theorem of_change {a : DiskChange} (first : Change c a c') : Evolves c [a] c' :=
  .change first (.refl c')

theorem trans (h : Evolves c log c') (h' : Evolves c' log' c'') : Evolves c (log ++ log') c'' := by
  induction h with
  | refl => exact h'
  | registers same _ ih => exact .registers same (ih h')
  | change first _ ih => exact .change first (ih h')

/-- **What lasts.** A property of the log, the latest change first, and the controller that
registers play no part in and every change keeps is kept by any evolution. -/
theorem keeps {I : List DiskChange → DiskController → Prop}
    (registers : ∀ {past c c'}, c'.resetRegisters = c.resetRegisters → I past c → I past c')
    (change : ∀ {past c a c'}, Change c a c' → I past c → I (a :: past) c')
    (h : Evolves c log c') {past : List DiskChange} (start : I past c) :
    I (log.reverse ++ past) c' := by
  induction h generalizing past with
  | refl => exact start
  | registers same _ ih => exact ih (registers same start)
  | change first _ ih =>
      rw [List.reverse_cons, List.append_assoc]
      exact ih (change first start)

theorem choices (h : Evolves c log c') : c'.choices = c.choices := by
  induction h with
  | refl => rfl
  | registers same _ ih => exact ih.trans (choices_of_resetRegisters same)
  | change first _ ih => exact ih.trans first.choices

theorem sectorSize (h : Evolves c log c') : c'.sectorSize = c.sectorSize :=
  congrArg Prod.fst h.choices

theorem sectorsPerSlice (h : Evolves c log c') : c'.sectorsPerSlice = c.sectorsPerSlice :=
  congrArg (·.2.1) h.choices

/-- **What an evolution does to a slot.** -/
theorem kept (h : Evolves c log c') (k : Nat) :
    c'.kept k = log.foldl (DiskChange.applyTo c.sectorSize k) (c.kept k) := by
  induction h with
  | refl => rfl
  | registers same _ ih =>
      rw [ih, sectorSize_of_resetRegisters same, kept_of_resetRegisters same]
  | change first _ ih => rw [ih, first.sectorSize, first.kept, List.foldl_cons]

end Evolves

end DiskController

end BankedZ80
