import BankedZ80.Proofs.Disk.Outline
import BankedZ80.Proofs.Disk.WellFormed
import BankedZ80.Proofs.History.DiskCalls

/-!
# Slice counts over time

A controller either sets all slice counts by the number of loaded units, or leaves them to its host.
Few calls set any: accepted loads, unloads that hand an image back, and accepted `setSliceCount`
calls. `DiskController.Reslices` says of which slots.

* Loads and unloads give a slot another content; `sliceCount_refill` is the slice counts after it.
* `sliceCount_after` shows that a call leaves the slice count of every other slot alone, and
  `sliceCount_foldl` that so does a history.
* `DiskController.SlicesFollow` puts it together with the range of slice counts. It holds of every
  controller that a history leads to (`slices_follow`), and of the disks of an engine
  (`Engine.slices_follow_history`).
-/

namespace BankedZ80

/-- Does a change set slice counts? -/
def DiskChange.setsSlices : DiskChange → Bool
  | event (.loaded _ _) | event (.unloaded _) | sliced _ _ => true
  | _ => false

namespace DiskController

/-- Does a call set the slice count of a slot? -/
def Reslices (c : DiskController) (k : Nat) : DiskCall → Prop
  | .load n image => (∃ c', c.load n image = .ok c') ∧ (c.autoSlices = true ∨ n = k)
  | .unload n => c.isLoaded n = true ∧ (c.autoSlices = true ∨ n = k)
  | .setSliceCount n count => (∃ c', c.setSliceCount n count = .ok c') ∧ n = k
  | _ => False

/-- No call sets the slice count of a slot when its turn comes. -/
def Spares (c : DiskController) (k : Nat) : List DiskCall → Prop
  | [] => True
  | call :: rest => ¬c.Reslices k call ∧ (c.after call).Spares k rest

/-- The controller after a slot got another content. -/
def refill (c : DiskController) (n : Nat) (slot : Option DiskUnit) : DiskController :=
  rebalance { c with units := modifySlot c.units n fun _ => slot }

variable {c c' : DiskController} {n k : Nat}

/-! ### Calls that set slice counts -/

theorem isLoaded_rebalance (c : DiskController) (k : Nat) : c.rebalance.isLoaded k = c.isLoaded k := by
  unfold rebalance
  split
  · rw [isLoaded, unit?_map_units, Option.isSome_map]
    rfl
  · rfl

theorem loadedCount_rebalance (c : DiskController) : c.rebalance.loadedCount = c.loadedCount := by
  rw [loadedCount, loadedCount, loadedUnits, loadedUnits, funext c.isLoaded_rebalance]

/-- Whatever the counts were, they follow the number of units. -/
theorem sliceCount_rebalance (c : DiskController) (auto : c.autoSlices = true) (k : Nat) :
    c.rebalance.sliceCount k =
      if c.rebalance.isLoaded k then some (slicesFor c.rebalance.loadedCount) else none := by
  rw [isLoaded_rebalance, loadedCount_rebalance, rebalance, if_pos auto, sliceCount,
    unit?_map_units, Option.map_map, isLoaded]
  cases c.unit? k <;> rfl

/-- **Slice counts after a slot got another content.** -/
theorem sliceCount_refill (there : n < maxUnits) (slot : Option DiskUnit) (k : Nat) :
    (c.refill n slot).sliceCount k =
      if c.autoSlices then
        if (c.refill n slot).isLoaded k then some (slicesFor (c.refill n slot).loadedCount) else none
      else if n = k then slot.map (·.slices) else c.sliceCount k := by
  split
  · next auto =>
      exact sliceCount_rebalance { c with units := modifySlot c.units n fun _ => slot } auto k
  · next manual =>
      rw [refill, rebalance, if_neg manual, sliceCount, unit?_modifySlot c there]
      split <;> rfl

theorem isLoaded_refill (there : n < maxUnits) (slot : Option DiskUnit) (k : Nat) :
    (c.refill n slot).isLoaded k = if n = k then slot.isSome else c.isLoaded k := by
  rw [refill, isLoaded_rebalance, isLoaded, unit?_modifySlot c there]
  split <;> rfl

theorem load_eq_refill {image : ByteArray} (ok : c.load n image = .ok c') :
    n < maxUnits ∧ c' = c.refill n (some { image, sectorSize := c.sectorSize }) := by
  obtain ⟨there, -, eq⟩ := load_eq_ok.1 ok
  exact ⟨there, eq⟩

/-- The unit in a slot is unloaded. -/
theorem unload_of_unit? {d : DiskUnit} (loaded : c.unit? n = some d) :
    c.unload n = .ok (some d.image, c.refill n none) := by
  refine bind_eq_ok.2 ⟨(), checkUnit_eq_ok.2 (lt_of_unit? loaded), ?_⟩
  rw [loaded]
  rfl

/-- An empty slot stays as it is. -/
theorem unload_of_empty (empty : c.unit? n = none) {image : Option ByteArray}
    (ok : c.unload n = .ok (image, c')) : image = none ∧ c' = c := by
  obtain ⟨_, -, rest⟩ := bind_eq_ok.1 ok
  rw [empty] at rest
  cases rest
  exact ⟨rfl, rfl⟩

theorem unload_eq_refill {image : ByteArray} (ok : c.unload n = .ok (some image, c')) :
    n < maxUnits ∧ c' = c.refill n none := by
  cases hc : c.unit? n with
  | none => cases (unload_of_empty hc ok).1
  | some d =>
      rw [unload_of_unit? hc] at ok
      cases ok
      exact ⟨lt_of_unit? hc, rfl⟩

theorem setSliceCount_legal {count : UInt8} (ok : c.setSliceCount n count = .ok c') :
    1 ≤ count.toNat ∧ count.toNat ≤ maxSlices ∧ c.isLoaded n = true := by
  obtain ⟨d, there, rest⟩ := bind_eq_ok.1 ok
  obtain ⟨_, legal, -⟩ := bind_eq_ok.1 rest
  obtain ⟨pos, le⟩ := DiskUnit.checkSliceCount_eq_ok.1 legal
  exact ⟨pos, le, by rw [isLoaded, unit?_of_unit c n there]; rfl⟩

theorem sliceCount_modifyUnit (c : DiskController) (n : Nat) (f : DiskUnit → DiskUnit) (k : Nat) :
    (c.modifyUnit n f).sliceCount k =
      if n = k then (c.unit? k).map (fun d => (f d).slices) else c.sliceCount k := by
  rw [sliceCount, unit?_modifyUnit, Option.map_map]
  split <;> rfl

theorem sliceCount_setSliceCount {count : UInt8} (ok : c.setSliceCount n count = .ok c') (k : Nat) :
    c'.sliceCount k = if n = k then some count else c.sliceCount k := by
  rw [setSliceCount_eq_ok ok, sliceCount_modifyUnit]
  split
  · next here =>
      obtain ⟨-, -, loaded⟩ := setSliceCount_legal ok
      obtain ⟨d, there⟩ := Option.isSome_iff_exists.1 loaded
      rw [← here, there]
      rfl
  · rfl

/-! ### All other calls -/

/-- A change of a unit that its slice count plays no part in. -/
theorem sliceCount_modifyUnit_of_slices (c : DiskController) (n : Nat) {f : DiskUnit → DiskUnit}
    (h : ∀ d, (f d).slices = d.slices) (k : Nat) :
    (c.modifyUnit n f).sliceCount k = c.sliceCount k := by
  rw [sliceCount_modifyUnit, sliceCount, funext h, ite_self]

theorem Change.sliceCount {a : DiskChange} (h : Change c a c') (quiet : a.setsSlices = false)
    (k : Nat) : c'.sliceCount k = c.sliceCount k := by
  cases h with
  | load | unload | slice => cases quiet
  | write ok => exact (SameOutlines.putSector ok).sliceCount k
  | save n => exact sliceCount_modifyUnit_of_slices c _ (fun _ => by rfl) k
  | flag ok =>
      rw [(setManifest_eq_ok.1 ok).2]
      exact sliceCount_modifyUnit_of_slices c _ (fun _ => by rfl) k
  | silence ok =>
      rw [setSilenced_eq_ok ok]
      rfl
  | silenceAll | takeWarning => rfl

theorem Evolves.sliceCount {log : List DiskChange} (h : Evolves c log c')
    (quiet : ∀ a ∈ log, a.setsSlices = false) (k : Nat) : c'.sliceCount k = c.sliceCount k := by
  induction h with
  | refl => rfl
  | registers same _ ih => rw [ih quiet, (SameOutlines.of_resetRegisters same).sliceCount k]
  | change first _ ih =>
      rw [ih fun a later => quiet a (List.mem_cons_of_mem _ later),
        first.sliceCount (quiet _ List.mem_cons_self)]

theorem after_unload : c.after (.unload n) = if c.isLoaded n then c.refill n none else c := by
  rw [after, attempt, isLoaded]
  cases hc : c.unit? n with
  | some d =>
      rw [unload_of_unit? hc]
      rfl
  | none =>
      cases attempted : c.unload n with
      | error e => rfl
      | ok r => exact (unload_of_empty hc attempted).2

/-- **A call leaves the slice count of every other slot alone.** -/
theorem sliceCount_after {call : DiskCall} (spared : ¬c.Reslices k call) :
    (c.after call).sliceCount k = c.sliceCount k := by
  cases attempted : c.attempt call with
  | error e => rw [after_of_error attempted]
  | ok c' =>
      rw [after_of_ok attempted]
      cases call with
      | load n image =>
          obtain ⟨manual, other⟩ := not_or.1 fun h => spared ⟨⟨c', attempted⟩, h⟩
          obtain ⟨there, rfl⟩ := load_eq_refill attempted
          rw [sliceCount_refill there, if_neg manual, if_neg other]
      | unload n =>
          rw [← after_of_ok attempted, after_unload]
          split
          · next loaded =>
              obtain ⟨manual, other⟩ := not_or.1 fun h => spared ⟨loaded, h⟩
              obtain ⟨d, there⟩ := Option.isSome_iff_exists.1 loaded
              rw [sliceCount_refill (lt_of_unit? there), if_neg manual, if_neg other]
          · rfl
      | setSliceCount n count =>
          rw [sliceCount_setSliceCount attempted, if_neg fun here => spared ⟨⟨c', attempted⟩, here⟩]
      | writeRegister register v m =>
          refine (evolves_attempt attempted).sliceCount (fun a written => ?_) k
          obtain ⟨-, written⟩ := List.mem_ite_nil_right.1 written
          rw [List.mem_singleton.1 written]
          rfl
      | _ =>
          exact (evolves_attempt attempted).sliceCount (by simp [changes, DiskChange.setsSlices]) k

/-- **A slice count lasts** until a call sets it. By induction on the calls. -/
theorem sliceCount_foldl {calls : List DiskCall} (spares : c.Spares k calls) :
    (calls.foldl after c).sliceCount k = c.sliceCount k := by
  induction calls generalizing c with
  | nil => rfl
  | cons call rest ih => rw [List.foldl_cons, ih spares.2, sliceCount_after spares.1]

/-! ### Every state -/

/-- Every slice count is between 1 and 128, as units accept it. -/
def CountsLegal (c : DiskController) : Prop :=
  ∀ n count, c.sliceCount n = some count → 1 ≤ count.toNat ∧ count.toNat ≤ 128

theorem CountsLegal.refill (h : c.CountsLegal) (there : n < maxUnits) {slot : Option DiskUnit}
    (fresh : ∀ d, slot = some d → d.slices = 1) : (c.refill n slot).CountsLegal := by
  intro k count counted
  rw [sliceCount_refill there] at counted
  split at counted
  · split at counted
    · cases counted
      exact DiskUnit.checkSliceCount_eq_ok.1 (DiskUnit.checkSliceCount_slicesFor _)
    · cases counted
  · split at counted
    · obtain ⟨d, filled, rfl⟩ := Option.map_eq_some_iff.1 counted
      rw [fresh d filled]
      decide
    · exact h k count counted

theorem CountsLegal.change (h : c.CountsLegal) {a : DiskChange} (first : Change c a c') :
    c'.CountsLegal := by
  cases sets : a.setsSlices with
  | false =>
      intro k count counted
      rw [first.sliceCount sets] at counted
      exact h k count counted
  | true =>
      cases first with
      | load ok =>
          obtain ⟨there, rfl⟩ := load_eq_refill ok
          refine h.refill there fun d filled => ?_
          cases filled
          rfl
      | unload ok =>
          obtain ⟨there, ⟨-, rfl⟩ | rfl⟩ := unload_eq_ok ok
          · exact h
          · exact h.refill there nofun
      | slice ok =>
          intro k other counted
          rw [sliceCount_setSliceCount ok] at counted
          split at counted
          · cases counted
            obtain ⟨pos, le, -⟩ := setSliceCount_legal ok
            exact ⟨pos, le⟩
          · exact h k other counted
      | write | save | flag | silence | silenceAll | takeWarning => cases sets

theorem CountsLegal.evolves (h : c.CountsLegal) {log : List DiskChange} (evolves : Evolves c log c') :
    c'.CountsLegal := by
  induction evolves with
  | refl => exact h
  | registers same _ ih =>
      refine ih fun k count counted => ?_
      rw [(SameOutlines.of_resetRegisters same).sliceCount] at counted
      exact h k count counted
  | change first _ ih => exact ih (h.change first)

/-- Without images there is nothing to count. -/
theorem countsLegal_of_units (h : c.units = Vector.replicate maxUnits none) : c.CountsLegal := by
  intro n count counted
  rw [sliceCount, unit?_of_replicate h] at counted
  cases counted

/-- Slice counts follow the number of loaded units, or their host. -/
structure SlicesFollow (auto : Bool) (c : DiskController) : Prop where
  /-- Which of both, nothing changes. -/
  autoSlices : c.autoSlices = auto
  /-- Every slice count is between 1 and 128. -/
  legal : c.CountsLegal
  /-- An accepted load fills its slot and no other. -/
  loads : ∀ n image c', c.load n image = .ok c' → ∀ k, c'.isLoaded k = (n == k || c.isLoaded k)
  /-- An unload empties its slot and no other. -/
  unloads : ∀ n image c', c.unload n = .ok (some image, c') →
    ∀ k, c'.isLoaded k = (n != k && c.isLoaded k)
  /-- If counts follow the number of loaded units, an accepted load sets all of them, by the number
  after it. -/
  load_auto : auto = true → ∀ n image c', c.load n image = .ok c' →
    ∀ k, c'.isLoaded k = true → c'.sliceCount k = some (slicesFor c'.loadedCount)
  /-- So does an unload, if an image was there. -/
  unload_auto : auto = true → ∀ n image c', c.unload n = .ok (some image, c') →
    ∀ k, c'.isLoaded k = true → c'.sliceCount k = some (slicesFor c'.loadedCount)
  /-- If counts are left to the host, an image starts with one slice, and the others keep theirs. -/
  load_manual : auto = false → ∀ n image c', c.load n image = .ok c' →
    c'.sliceCount n = some 1 ∧ ∀ k, k ≠ n → c'.sliceCount k = c.sliceCount k
  /-- An unload then leaves the others alone. -/
  unload_manual : auto = false → ∀ n image c', c.unload n = .ok (image, c') →
    ∀ k, k ≠ n → c'.sliceCount k = c.sliceCount k
  /-- The host sets the count of one unit. -/
  set : ∀ n count c', c.setSliceCount n count = .ok c' →
    c'.sliceCount n = some count ∧ ∀ k, k ≠ n → c'.sliceCount k = c.sliceCount k
  /-- Nothing else sets a count: no refused call, no unload of an empty slot, no write, no flag. -/
  others : ∀ call k, ¬c.Reslices k call → (c.after call).sliceCount k = c.sliceCount k
  /-- So a count lasts until it is set again. -/
  lasting : ∀ calls k, c.Spares k calls → (calls.foldl after c).sliceCount k = c.sliceCount k

theorem CountsLegal.slicesFollow (legal : c.CountsLegal) : SlicesFollow c.autoSlices c where
  autoSlices := rfl
  legal := legal
  loads n image c' ok k := by
    obtain ⟨there, rfl⟩ := load_eq_refill ok
    rw [isLoaded_refill there]
    by_cases here : n = k <;> simp [here]
  unloads n image c' ok k := by
    obtain ⟨there, rfl⟩ := unload_eq_refill ok
    rw [isLoaded_refill there]
    by_cases here : n = k <;> simp [here]
  load_auto auto n image c' ok k loaded := by
    obtain ⟨there, rfl⟩ := load_eq_refill ok
    rw [sliceCount_refill there, if_pos auto, if_pos loaded]
  unload_auto auto n image c' ok k loaded := by
    obtain ⟨there, rfl⟩ := unload_eq_refill ok
    rw [sliceCount_refill there, if_pos auto, if_pos loaded]
  load_manual manual n image c' ok := by
    obtain ⟨there, rfl⟩ := load_eq_refill ok
    have manual : ¬c.autoSlices = true := Bool.eq_false_iff.1 manual
    refine ⟨?_, fun k other => ?_⟩
    · rw [sliceCount_refill there, if_neg manual, if_pos rfl]
      rfl
    · rw [sliceCount_refill there, if_neg manual, if_neg other.symm]
  unload_manual manual n image c' ok k other := by
    have unloaded : c.after (.unload n) = c' := after_of_ok (by rw [attempt, ok]; rfl)
    rw [← unloaded]
    refine sliceCount_after fun resliced => ?_
    rcases resliced.2 with auto | here
    · rw [manual] at auto
      cases auto
    · exact other here.symm
  set n count c' ok :=
    ⟨by rw [sliceCount_setSliceCount ok, if_pos rfl],
      fun k other => by rw [sliceCount_setSliceCount ok, if_neg other.symm]⟩
  others call k := sliceCount_after
  lasting calls k := sliceCount_foldl

/-- Whatever becomes of a controller without images. -/
theorem slicesFollow_of_evolves {log : List DiskChange}
    (empty : c.units = Vector.replicate maxUnits none) (evolves : Evolves c log c') :
    SlicesFollow c.autoSlices c' := by
  have same : c'.autoSlices = c.autoSlices := congrArg (·.2.2) evolves.choices
  rw [← same]
  exact ((countsLegal_of_units empty).evolves evolves).slicesFollow

/-- **Slice counts follow the loaded units, or their host**, whatever was done to a controller. -/
theorem slices_follow (sectorSize : Nat) (sectorsPerSlice : UInt32) (autoSlices : Bool)
    (calls : List DiskCall) :
    SlicesFollow autoSlices (calls.foldl after { sectorSize, sectorsPerSlice, autoSlices }) :=
  slicesFollow_of_evolves rfl
    (evolves_foldl { sectorSize, sectorsPerSlice, autoSlices } calls)

/-- A count that the host sets is gone with the next image. -/
example :
    let calls : List DiskCall :=
      [.load 0 ⟨#[1]⟩, .load 3 ⟨#[2]⟩, .setSliceCount 3 7, .load 0 ⟨#[]⟩, .unload 5]
    let c := calls.foldl after { sectorSize := 1, sectorsPerSlice := 1, autoSlices := true }
    c.sliceCount 0 = some 4 ∧ c.sliceCount 3 = some 7 ∧
      (c.after (.load 8 ⟨#[3]⟩)).sliceCount 3 = some 2 := by
  decide +kernel

end DiskController

/-- The same is true of the disks of an engine, whatever its host and its guest do. -/
theorem Engine.slices_follow_history {config : Config} {e : Engine} (h : new config = .ok e)
    (steps : List Step) :
    DiskController.SlicesFollow config.autoSlices (steps.foldl after e).devices.disks := by
  have follow := DiskController.slicesFollow_of_evolves
    (by rw [(fresh_of_new h).disks]) (e.evolves_foldl steps)
  rw [(fresh_of_new h).disks] at follow
  exact follow

end BankedZ80
