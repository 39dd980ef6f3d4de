import BankedZ80.Proofs.Disk.Saving
import BankedZ80.Proofs.History.DiskLog

/-!
# What the dirty flags say

`Engine.flags_follow_history` reads the dirty flag of every disk off the log of the history. A host
that saves its disks may leave out those without the flag: they hold what was loaded or saved last.
-/

namespace BankedZ80

namespace Engine

open DiskController

/-- **The dirty flags tell the truth.** Whatever hosts and guests did since the engine was built, in
whatever order, a unit is marked dirty exactly when a sector of it was written since its image was
loaded or last taken as saved, and a unit that is not marked still holds that very image. -/
theorem flags_follow_history {config : Config} {e : Engine} (h : new config = .ok e)
    (steps : List Step) {n : Nat} {d : DiskUnit}
    (loaded : (steps.foldl after e).devices.disks.unit? n = some d) :
    d.TruthfulFlag (e.diskChangeHistory steps).reverse n := by
  have start : TruthfulFlags [] e.devices.disks := by
    intro k d slot
    rw [kept, unit?_of_new h] at slot
    cases slot
  have truthful := start.evolves (e.evolves_foldl steps) n _ (kept_of_unit? loaded)
  rw [List.append_nil] at truthful
  exact ⟨truthful.dirty, truthful.clean⟩

/-- A disk is loaded, written to and saved, and after a restart another one is written to. -/
def writeAndSave : List Step :=
  [.host (.loadDisk 2 (Bytes.zeros 1024)), .host (.loadDisk 3 (Bytes.zeros 512)),
    .writeSector 2 1 (Bytes.zeros 512), .host (.clearDirty 2), .host .reset,
    .writeSector 3 0 (Bytes.zeros 512)]

theorem writeAndSave_flags :
    ∃ e, new {} = .ok e ∧ ∃ d, (writeAndSave.foldl after e).devices.disks.unit? 2 = some d ∧
      d.TruthfulFlag (e.diskChangeHistory writeAndSave).reverse 2 := by
  have ok : ((new {}).toOption.bind fun e =>
      (writeAndSave.foldl after e).devices.disks.unit? 2).isSome = true := by
    decide +kernel
  cases hr : new {} with
  | error error =>
      rw [hr] at ok
      cases ok
  | ok e =>
      rw [hr, Except.toOption, Option.bind_some] at ok
      obtain ⟨d, loaded⟩ := Option.isSome_iff_exists.1 ok
      exact ⟨e, rfl, d, loaded, flags_follow_history hr writeAndSave loaded⟩

end Engine

end BankedZ80
