import BankedZ80.Proofs.Disk.Warnings
import BankedZ80.Proofs.History.DiskLog

/-!
# What the host is warned about

A host polls for writes to its catalog images, and `Engine.warnings_follow_history` reads the answer to
every poll off the log of the history: it is the unit of the latest write since the last poll that was
to be warned about when it happened. Every step changes the controller as its log says
(`Engine.evolves_after`), and the log tells what such changes make of flags, silence and warnings
(`DiskController.TellsWarnings.evolves`).
-/

namespace BankedZ80

namespace Engine

open DiskChange DiskController

variable (e : Engine)

/-- **A step leaves a pending warning alone**, and raises none, unless it asks for it or writes to a
unit that is warned about. -/
theorem takeWarning_after {s : Step} (poll : s ≠ .host .takeWarning)
    (quiet : ∀ n lba bytes, .wrote n lba bytes ∈ e.diskEvents s → ¬e.devices.disks.Warned n) :
    (e.after s).takeWarning.1 = e.takeWarning.1 := by
  show (e.after s).devices.disks.pendingWarning = e.devices.disks.pendingWarning
  have evolves := e.evolves_after s
  unfold diskChanges at evolves
  split at evolves
  case h_6 => exact absurd rfl poll
  case h_7 => exact evolves.pendingWarning_of_events quiet
  -- The other calls make one change that is none of a warning, or none at all.
  all_goals
    refine evolves.pendingWarning fun a made warns pending => ?_
    simp only [List.mem_ite_nil_right, List.mem_singleton] at made
  case h_1 | h_5 =>
      subst made
      rfl
  all_goals
    obtain ⟨-, rfl⟩ := made
    rfl

/-- **Two calls decide about silence**, and nothing else does. -/
theorem silenced_after {s : Step} (one : ∀ n silent, s ≠ .host (.setSilenced n silent))
    (all : ∀ silent, s ≠ .host (.setAllSilenced silent)) :
    (e.after s).devices.disks.silenced = e.devices.disks.silenced := by
  refine (e.evolves_after s).silenced fun a made silent => ?_
  unfold diskChanges at made
  split at made
  case h_4 n silent => exact absurd rfl (one n silent)
  case h_5 silent => exact absurd rfl (all silent)
  case h_7 =>
      obtain ⟨event, -, rfl⟩ := List.mem_map.1 made
      rfl
  all_goals simp only [List.mem_ite_nil_right, List.mem_singleton] at made
  case h_1 | h_6 =>
      subst made
      rfl
  all_goals
    obtain ⟨-, rfl⟩ := made
    rfl

variable {e}

/-- A newly loaded image is not marked as a catalog image. -/
theorem manifest_of_loadDisk {n : Nat} {image : ByteArray} {e' : Engine}
    (ok : e.loadDisk n image = .ok e') :
    ∃ d, e'.devices.disks.unit? n = some d ∧ d.manifest = false := by
  obtain ⟨disks, loaded, made⟩ := bind_eq_ok.1 ok
  cases made
  have slot := (Change.load loaded).kept n
  rw [applyTo, if_pos rfl, kept] at slot
  obtain ⟨d, there, same⟩ := Option.map_eq_some_iff.1 slot
  exact ⟨d, there, congrArg DiskUnit.manifest same⟩

/-- The answers to polls follow the writes to catalog images. -/
structure WarningsFollow (past : List DiskChange) (e : Engine) : Prop where
  /-- A poll answers with a unit exactly when, since the previous poll, a sector was written that was to
  be warned about at that moment, and the latest such write was to this unit. -/
  told : ∀ n, e.takeWarning.1 = some n ↔ LatestWarned n past
  /-- Images are marked as the log says: a mark goes with its image. -/
  catalog : ∀ n d, e.devices.disks.unit? n = some d → d.manifest = catalogIn n past
  /-- Slots are silenced as the log says: silence outlasts the images. -/
  silenced : ∀ n, n < maxUnits → e.devices.disks.isSilenced n = silencedIn n past
  /-- Only a poll, or a write to be warned about, changes what the next poll is told. A refused write
  is none, nor are silence, marks, loads, removals and restarts after the write. -/
  quiet : ∀ s, s ≠ .host .takeWarning →
    (∀ n lba bytes, .wrote n lba bytes ∈ e.diskEvents s → ¬e.devices.disks.Warned n) →
    (e.after s).takeWarning.1 = e.takeWarning.1
  /-- Only the two calls for it change which slots are silenced. -/
  spared : ∀ s, (∀ n silent, s ≠ .host (.setSilenced n silent)) →
    (∀ silent, s ≠ .host (.setAllSilenced silent)) →
    ∀ n, (e.after s).devices.disks.isSilenced n = e.devices.disks.isSilenced n
  /-- An image starts without a mark. -/
  fresh : ∀ n image e', e.loadDisk n image = .ok e' →
    ∃ d, e'.devices.disks.unit? n = some d ∧ d.manifest = false

/-- Before anything has happened there is nothing to tell. -/
theorem tellsWarnings_of_new {config : Config} (h : new config = .ok e) :
    TellsWarnings [] e.devices.disks where
  catalog n d slot := by
    rw [kept, unit?_of_new h] at slot
    cases slot
  silenced n there := by
    rw [isSilenced_eq there]
    simp only [(fresh_of_new h).disks]
    exact Vector.getElem_replicate there
  pending n := by
    rw [(fresh_of_new h).disks]
    refine ⟨fun pending => ?_, fun latest => absurd latest not_latestWarned_nil⟩
    cases pending

/-- **Polls are told of writes to catalog images.** Whatever hosts and guests did since the engine was
built, in whatever order, the next poll is told of the latest write since the previous one that was to
be warned about when it happened, by whichever path, and of nothing else. -/
theorem warnings_follow_history {config : Config} {e : Engine} (h : new config = .ok e)
    (steps : List Step) :
    WarningsFollow (e.diskChangeHistory steps).reverse (steps.foldl after e) := by
  have tells := (tellsWarnings_of_new h).evolves (e.evolves_foldl steps)
  rw [List.append_nil] at tells
  exact {
    told := tells.pending
    catalog := fun n d there => tells.catalog n { d with slices := 1, seek := 0 } (kept_of_unit? there)
    silenced := tells.silenced
    quiet := fun s poll quiet => takeWarning_after _ poll quiet
    spared := fun s one all n => congrArg (fun v => (v[n]?).getD false) (silenced_after _ one all)
    fresh := fun n image e' ok => manifest_of_loadDisk ok }

/-- A catalog image is written to; then all slots are silenced, the machine is restarted and the image
removed. -/
def writeAndSilence : List Step :=
  [.host (.loadDisk 3 (Bytes.zeros 256)), .host (.setManifest 3 true),
    .writeSector 3 1 (Bytes.zeros 128), .host (.setAllSilenced true), .host .reset,
    .host (.unloadDisk 3)]

theorem writeAndSilence_follows :
    ∃ e, new { sectorSize := 128 } = .ok e ∧
      WarningsFollow (e.diskChangeHistory writeAndSilence).reverse
        (writeAndSilence.foldl after e) := by
  have ok : (new { sectorSize := 128 }).isOk = true := by rfl
  generalize hr : new { sectorSize := 128 } = r at ok
  cases r with
  | ok e => exact ⟨e, rfl, warnings_follow_history hr writeAndSilence⟩
  | error error => cases ok

/-- The host is still told of the write. -/
example :
    (new { sectorSize := 128 }).toOption.map (fun e => (writeAndSilence.foldl after e).takeWarning.1) =
      some (some 3) := by
  decide +kernel

end Engine

end BankedZ80
