import BankedZ80.Proofs.Host.Listing
import BankedZ80.Proofs.HostFile.Choice
import BankedZ80.Proofs.HostFile.Serving
import BankedZ80.Proofs.HostFile.Status

/-!
# How a request is met

Meeting a request asks the host for a listing of the imports directory and for the file that is picked
from it, and for nothing else (`serveRead_asks`). So hosts that list the same files and read them alike
serve the guest alike, and on a file tree the guest is given the bytes of the chosen file, or the
request is cancelled since there is none to be had (`requests_met`).
-/

namespace BankedZ80

namespace FileTransfer

open FileTree HostProgram

variable {file requested : String} {files : List String}

/-! ### Requests on any host -/

section AnyHost

variable {σ : Type}

theorem pick_congr {t : FileTransfer} {host other : Host σ} {s : σ} (requested : String)
    (same : Option.Rel List.Perm (host.listFiles t.imports s) (other.listFiles t.imports s)) :
    t.pick host s requested = t.pick other s requested := by
  unfold pick
  generalize host.listFiles t.imports s = files at same
  generalize other.listFiles t.imports s = files' at same
  cases same with
  | none => rfl
  | some perm => exact chooseImport_perm perm

/-- **A host that lists the same files** in another order is served alike. -/
theorem run_serveRead_congr {t : FileTransfer} {e : Engine} {host other : Host σ} {s : σ}
    (requested : String)
    (same : Option.Rel List.Perm (host.listFiles t.imports s) (other.listFiles t.imports s))
    (alike : ∀ path, host.readFile path s = other.readFile path s) :
    (t.serveRead e requested).run host s = (t.serveRead e requested).run other s := by
  rw [(t.serveRead_asks e host s requested).run, (t.serveRead_asks e other s requested).run]
  unfold find
  rw [pick_congr requested same]
  simp only [alike]

end AnyHost

/-! ### Requests on files -/

/-- A host on a file tree. It lists the names of the files in a directory in any order and reads files
as they are; either may fail. -/
structure Presents (host : Host Computer) : Prop where
  lists : ∀ {path : String} {s : Computer} {names : List String},
    host.listFiles path s = some names → ∃ listed, s.tree.list path = some listed ∧ names.Perm listed
  reads : ∀ {path : String} {s : Computer} {contents : ByteArray},
    host.readFile path s = .ok contents → s.tree.read path = .ok contents

/-- The host that a tree makes is one. -/
theorem presents_host : Presents FileTree.host := ⟨fun h => ⟨_, h, .refl _⟩, id⟩

/-- There is a file of this name directly inside the imports directory. -/
def HasImport (t : FileTransfer) (tree : FileTree) (file : String) : Prop :=
  ∃ contents, tree.HoldsFile t.imports file contents

/-- A request that cannot be met. -/
inductive Unmet (t : FileTransfer) (host : Host Computer) (s : Computer) (requested : String) : Prop
    where
  /-- The imports directory cannot be read. -/
  | unlisted (h : host.listFiles t.imports s = none)
  /-- There is no file in it. -/
  | empty (h : ∀ file, ¬t.HasImport s.tree file)
  /-- The file to deliver cannot be read. -/
  | unreadable {file : String} {fault : FileFault} (chosen : Chosen (t.HasImport s.tree) requested file)
    (h : host.readFile (Path.join t.imports file) s = .error fault)

variable {t : FileTransfer} {host : Host Computer} {s : Computer} {contents : ByteArray}

theorem mem_listed (presents : Presents host) (listed : host.listFiles t.imports s = some files)
    {name : String} : name ∈ files ↔ t.HasImport s.tree name := by
  obtain ⟨names, list, perm⟩ := presents.lists listed
  rw [perm.mem_iff]
  exact mem_list_iff list

theorem chosen_of_pick (presents : Presents host) (h : t.pick host s requested = some file) :
    Chosen (t.HasImport s.tree) requested file := by
  obtain ⟨files, listed, choice⟩ := Option.bind_eq_some_iff.1 h
  exact (Chosen.congr fun _ => mem_listed presents listed).1 (chooseImport_eq_some.1 choice)

theorem pick_eq_none (presents : Presents host) :
    t.pick host s requested = none ↔
      host.listFiles t.imports s = none ∨ ∀ file, ¬t.HasImport s.tree file := by
  unfold pick
  cases listed : host.listFiles t.imports s with
  | none => exact iff_of_true rfl (.inl rfl)
  | some files =>
      rw [Option.bind_some, chooseImport_eq_none, List.eq_nil_iff_forall_not_mem]
      constructor
      · exact fun empty => .inr fun file there => empty file ((mem_listed presents listed).2 there)
      · rintro (missing | empty)
        · cases missing
        · exact fun file mem => empty file ((mem_listed presents listed).1 mem)

/-- What is found is the chosen file with its contents. -/
theorem holds_of_find (presents : Presents host)
    (h : t.find host s requested = some (file, contents)) :
    Chosen (t.HasImport s.tree) requested file ∧ s.tree.HoldsFile t.imports file contents := by
  obtain ⟨picked, pick, rest⟩ := Option.bind_eq_some_iff.1 h
  have chosen := chosen_of_pick presents pick
  cases read : host.readFile (Path.join t.imports picked) s with
  | error fault =>
      rw [read] at rest
      cases rest
  | ok found =>
      rw [read] at rest
      cases rest
      obtain ⟨old, holds⟩ := chosen.holds
      cases (presents.reads read).symm.trans holds.read
      exact ⟨chosen, holds⟩

theorem find_eq_none (presents : Presents host) :
    t.find host s requested = none ↔ t.Unmet host s requested := by
  unfold find
  cases picked : t.pick host s requested with
  | none =>
      refine iff_of_true rfl ?_
      rcases (pick_eq_none presents).1 picked with unlisted | empty
      · exact .unlisted unlisted
      · exact .empty empty
  | some file =>
      have chosen := chosen_of_pick presents picked
      have there : t.pick host s requested ≠ none := by
        rw [picked]
        exact nofun
      rw [Option.bind_some]
      constructor
      · intro fails
        cases read : host.readFile (Path.join t.imports file) s with
        | error fault => exact .unreadable chosen read
        | ok contents =>
            rw [read] at fails
            cases fails
      · rintro (unlisted | empty | ⟨other, read⟩)
        · exact absurd ((pick_eq_none presents).2 (.inl unlisted)) there
        · exact absurd ((pick_eq_none presents).2 (.inr empty)) there
        · rw [chosen.unique other, read]
          rfl

/-- How a request ends, by what is reported and by the device afterwards. -/
inductive Answered (t : FileTransfer) (tree : FileTree) (device : HostFile) :
    TransferEvent → HostFile → Prop where
  /-- The chosen file is delivered, with exactly its bytes. -/
  | delivered {file : String} {contents : ByteArray}
    (chosen : Chosen (t.HasImport tree) (HostFile.nameText device.readName) file)
    (holds : tree.HoldsFile t.imports file contents) :
    t.Answered tree device (.served (Path.join t.imports file) contents.size)
      { device with inbox := Bytes.toList contents, delivered := true, state := .idle }
  | cancelled :
    t.Answered tree device (.cancelled (HostFile.nameText device.readName))
      { device with readName := [], failed := true, state := .idle }

/-- **How a request is served**: what a service reports, and what it makes of the device. -/
structure Serves (t : FileTransfer) (host : Host Computer) (s : Computer) (e : Engine)
    (event : TransferEvent) (device : HostFile) : Prop where
  run : (t.service e).run host s = ((some event, e.withHostFile device), s)
  answered : t.Answered s.tree e.devices.hostFile event device
  /-- It is cancelled exactly when it cannot be met. -/
  cancelled_iff : event = .cancelled (HostFile.nameText e.devices.hostFile.readName) ↔
    t.Unmet host s (HostFile.nameText e.devices.hostFile.readName)
  /-- The guest sees then that it failed. -/
  failed : t.Unmet host s (HostFile.nameText e.devices.hostFile.readName) →
    (device.readRegister 3).1 &&& 0x04 ≠ 0
  /-- Only files directly inside the imports directory are read. -/
  reads : ∀ path ∈ (t.service e).readPaths host s,
    ∃ file, path = Path.join t.imports file ∧ t.HasImport s.tree file
  writes : (t.service e).writtenPaths host s = []
  idle : device.state = .idle

variable {e : Engine}

/-- What is read for a request is the file that is picked for it. -/
theorem hasImport_of_read (presents : Presents host) {path : String}
    (h : path ∈ (t.pick host s requested).toList.map (Path.join t.imports)) :
    ∃ file, path = Path.join t.imports file ∧ t.HasImport s.tree file := by
  obtain ⟨file, mem, same⟩ := List.mem_map.1 h
  exact ⟨file, same.symm, (chosen_of_pick presents (Option.mem_toList.1 mem)).holds⟩

theorem exists_serves (presents : Presents host)
    (waiting : e.devices.hostFile.state = .waitingRead) (s : Computer) :
    ∃ event device, t.Serves host s e event device := by
  have asks := t.serveRead_asks e host s (HostFile.nameText e.devices.hostFile.readName)
  rw [← service_of_waitingRead waiting] at asks
  have reads : ∀ path ∈ (t.service e).readPaths host s,
      ∃ file, path = Path.join t.imports file ∧ t.HasImport s.tree file := by
    rw [asks.read]
    exact fun path => hasImport_of_read presents
  have unmet := @find_eq_none (HostFile.nameText e.devices.hostFile.readName) t host s presents
  cases found : t.find host s (HostFile.nameText e.devices.hostFile.readName) with
  | none =>
      have run := asks.run
      rw [found, reply, refuse, cancelFile_getD waiting] at run
      have failedBit := (HostFile.status_bits
        { e.devices.hostFile with readName := [], failed := true, state := .idle }).2.2.1.2 rfl
      exact ⟨_, _, run, .cancelled, iff_of_true rfl (unmet.1 found), fun _ => failedBit, reads,
        asks.written, rfl⟩
  | some p =>
      obtain ⟨file, contents⟩ := p
      obtain ⟨chosen, holds⟩ := holds_of_find presents found
      have met : ¬t.Unmet host s (HostFile.nameText e.devices.hostFile.readName) := by
        rw [← unmet, found]
        exact nofun
      have run := asks.run
      rw [found, reply, provideFile_getD waiting] at run
      exact ⟨_, _, run, .delivered chosen holds, iff_of_false nofun met, fun h => absurd h met, reads,
        asks.written, rfl⟩

/-- **A request is met with the chosen file**, whatever the order in which the directory is listed. It is
cancelled exactly when there is no such file to be had; only files directly inside the imports
directory are read, and the session is over. -/
theorem requests_met (t : FileTransfer) {host : Host Computer} (presents : Presents host) {e : Engine}
    (waiting : e.devices.hostFile.state = .waitingRead) (s : Computer) :
    (∃ event device, t.Serves host s e event device) ∧
      ∀ other : Host Computer, (∀ path, host.readFile path s = other.readFile path s) →
        Option.Rel List.Perm (host.listFiles t.imports s) (other.listFiles t.imports s) →
          (t.service e).run host s = (t.service e).run other s := by
  constructor
  · exact exists_serves presents waiting s
  · intro other alike same
    rw [service_of_waitingRead waiting]
    exact run_serveRead_congr _ same alike

/-- A host that lists a directory backwards. -/
def backwards : Host Computer :=
  { FileTree.host with listFiles := fun path s => (s.tree.list path).map List.reverse }

theorem presents_backwards : Presents backwards where
  lists := by
    intro path s names h
    obtain ⟨listed, eq, same⟩ := Option.map_eq_some_iff.1 h
    exact ⟨listed, eq, same ▸ List.reverse_perm listed⟩
  reads h := h

/-- Two files whose names differ in case, one that comes before them, and a directory with a name like
theirs. -/
def caseClash : Computer where
  tree.files :=
    [(["in".toList, "readme".toList], .empty), (["in".toList, "Readme".toList], ⟨#[0x52, 0x0A]⟩),
      (["in".toList, "A".toList], .empty), (["in".toList, "README".toList, "B".toList], .empty)]

theorem find_caseClash :
    find ⟨"in", "out"⟩ backwards caseClash "../x/README" = some ("Readme", ⟨#[0x52, 0x0A]⟩) := by
  have listed : backwards.listFiles "in" caseClash = some ["A", "Readme", "readme"] := by
    decide +kernel
  have last : Path.fileName? "../x/README" = some "README" := by decide
  have choice : chooseImport ["A", "Readme", "readme"] "../x/README" = some "Readme" := by
    refine chooseImport_eq_some.2 (.matching ⟨⟨by decide, "README", last, by decide⟩, ?_⟩)
    rintro other ⟨mem, wanted, named, same⟩
    cases last.symm.trans named
    have names : other = "A" ∨ other = "Readme" ∨ other = "readme" := by simpa using mem
    rcases names with rfl | rfl | rfl
    · exact absurd same (by decide)
    · exact List.le_refl _
    · exact Text.textBytes_le_iff.2 (by decide)
  unfold find pick
  rw [listed, Option.bind_some, choice, Option.bind_some]
  decide +kernel

/-- A device on which the guest asks for a file. -/
def askingFor (name : String) : HostFile :=
  { state := .waitingRead, readName := Json.textBytes name }

theorem caseClash_met :
    ∃ new, Engine.new {} = .ok new ∧ Presents backwards ∧
      (new.withHostFile (askingFor "../x/README")).devices.hostFile.state = .waitingRead ∧
        ∃ device, Serves ⟨"in", "out"⟩ backwards caseClash
          (new.withHostFile (askingFor "../x/README")) (.served "in/Readme" 2) device := by
  have ok : (Engine.new {}).isOk = true := by rfl
  cases built : Engine.new {} with
  | error fault =>
      rw [built] at ok
      cases ok
  | ok new =>
      refine ⟨new, rfl, presents_backwards, rfl, ?_⟩
      obtain ⟨⟨event, device, serves⟩, -⟩ := requests_met ⟨"in", "out"⟩ presents_backwards
        (e := new.withHostFile (askingFor "../x/README")) rfl caseClash
      have named : HostFile.nameText (askingFor "../x/README").readName = "../x/README" := by
        decide +kernel
      have reported : event = .served (Path.join "in" "Readme") 2 := by
        have run := serves.run
        rw [service_of_waitingRead rfl, (serveRead_asks _ _ _ _ _).run] at run
        change ((reply _ _ _ (find _ _ _ (HostFile.nameText (askingFor "../x/README").readName))),
          caseClash) = _ at run
        rw [named, find_caseClash] at run
        exact (Option.some.inj (congrArg (·.1.1) run)).symm
      have path : Path.join "in" "Readme" = "in/Readme" := by decide +kernel
      rw [← path, ← reported]
      exact ⟨device, serves⟩

end FileTransfer

end BankedZ80
