import BankedZ80.Proofs.CommandLine.Start
import BankedZ80.Proofs.Config
import BankedZ80.Proofs.HostFile.Serving

/-!
# Saving the disks

A run with its disks saved at the end writes in two places of its program. Its turns write the state
file and what the guest exports, and nothing else (`Run.mem_writtenPaths_turns`); the end writes
disk files, each the image of the unit it is noted for (`Run.saveImages_run`).

All this holds on every host that keeps files; a save that is broken off may leave anything in its own
file.

A file is noted for a unit when it is loaded, and stays noted when another file is loaded into that
unit later. So `Run.disk_files_keep_their_own` speaks of files that are still behind the units they
were loaded into, and `Run.replaced_file_overwritten` is a command line whose first disk file ends
up with the image of the second.
-/

namespace BankedZ80

open HostProgram (Host)

/-! ### Turns -/

namespace Run

variable {r r' r'' : Run}

/-- A run that differs from another in its engine and its session only. -/
structure Continues (r r' : Run) : Prop where
  transfer : r'.transfer = r.transfer
  stateFile : r'.stateFile = r.stateFile
  diskFiles : r'.diskFiles = r.diskFiles
  saveDisks : r'.saveDisks = r.saveDisks

theorem Continues.trans (h : Continues r r') (h' : Continues r' r'') : Continues r r'' :=
  ⟨h'.transfer.trans h.transfer, h'.stateFile.trans h.stateFile, h'.diskFiles.trans h.diskFiles,
    h'.saveDisks.trans h.saveDisks⟩

/-- The files that a run may write before its end: its state file, and what the guest exports. -/
def MayWrite (r : Run) (path : String) : Prop :=
  r.stateFile = some path ∨ ∃ name, path = Path.join r.transfer.exports name

theorem Continues.mayWrite (h : Continues r r') : r'.MayWrite = r.MayWrite := by
  unfold MayWrite
  rw [h.transfer, h.stateFile]

theorem obeys_warn (r : Run) : r.warn.Obeys r.MayWrite (Continues r) := by
  unfold warn
  dsimp only
  split
  · exact .pure ⟨rfl, rfl, rfl, rfl⟩
  · exact HostProgram.Obeys.bind (.say _) fun _ _ => .pure ⟨rfl, rfl, rfl, rfl⟩

theorem obeys_keepSetting (r : Run) : r.keepSetting.Obeys r.MayWrite (Continues r) := by
  unfold keepSetting
  dsimp only
  split
  · split
    · exact .pure ⟨rfl, rfl, rfl, rfl⟩
    · next path state =>
        refine HostProgram.Obeys.bind (.putFile (.inl state) _) fun written _ => ?_
        split
        · exact HostProgram.Obeys.bind (.say _) fun _ _ => .pure ⟨rfl, rfl, rfl, rfl⟩
        · exact .pure ⟨rfl, rfl, rfl, rfl⟩
  · exact .pure ⟨rfl, rfl, rfl, rfl⟩

/-- A turn writes the state file or an exported file, if any. -/
theorem obeys_turn (r : Run) : r.turn.Obeys r.MayWrite fun a => Continues r a.2 := by
  unfold turn
  refine HostProgram.Obeys.bind .askClock fun now _ => ?_
  dsimp only
  have serve (outcome : BatchOutcome) (e : Engine) :
      ((r.transfer.service e).bind fun a => (warn { r with engine := a.2 }).bind fun r' =>
        (keepSetting r').bind fun r'' => Pure.pure (outcome, r'')).Obeys r.MayWrite
          fun a => Continues r a.2 := by
    refine HostProgram.Obeys.bind (FileTransfer.obeys_service _ e fun _ exported =>
      .inr (FileTransfer.exists_of_exported? exported))
      fun a _ => ?_
    have same : Continues r { r with engine := a.2 } := ⟨rfl, rfl, rfl, rfl⟩
    have warned : ({ r with engine := a.2 } : Run).warn.Obeys _ _ := obeys_warn _
    rw [same.mayWrite] at warned
    refine HostProgram.Obeys.bind warned fun r' warned => ?_
    rw [← (same.trans warned).mayWrite]
    exact HostProgram.Obeys.bind (obeys_keepSetting r') fun r'' kept =>
      .pure ((same.trans warned).trans kept)
  split
  · exact serve _ _
  · exact HostProgram.Obeys.bind (.write _) fun _ _ => serve _ _

/-- Turns write the state file and exported files. By induction on the number of batches. -/
theorem obeys_turns (r : Run) (batches : Nat) :
    (r.turns batches).Obeys r.MayWrite fun a => ∀ r', a = some r' → Continues r r' := by
  induction batches generalizing r with
  | zero =>
      refine .pure fun r' result => ?_
      cases result
  | succ batches ih =>
      rw [turns]
      refine HostProgram.Obeys.bind (obeys_turn r) fun a continues => ?_
      obtain ⟨outcome, r'⟩ := a
      dsimp only at continues ⊢
      split
      · rw [← continues.mayWrite]
        exact (ih r').mono fun _ later r'' result => continues.trans (later r'' result)
      · refine .pure fun r'' result => ?_
        cases result
        exact continues

/-- **What turns write** is the state file and what the guest exports. -/
theorem mem_writtenPaths_turns {σ : Type} {host : Host σ} {s : σ} {batches : Nat} {path : String}
    (h : path ∈ (r.turns batches).writtenPaths host s) : r.MayWrite path :=
  ((r.obeys_turns batches).run host s).2 path h

/-! ### The end -/

section AnyHost

variable {σ ι : Type} {host : Host σ} {files : HostFiles σ ι}

/-- Saving the disks writes the noted files. By induction on them. -/
theorem obeys_saveImages (e : Engine) {allowed : String → Prop} {noted : List DiskFile}
    (h : ∀ d ∈ noted, allowed d.path) : (saveImages e noted).Obeys allowed fun _ => True := by
  induction noted with
  | nil => exact .pure trivial
  | cons d rest ih =>
      obtain ⟨first, others⟩ := List.forall_mem_cons.1 h
      unfold saveImages
      split
      · split
        · exact ih others
        · next image _ =>
            refine HostProgram.Obeys.bind (.putFile first image) fun written _ => ?_
            split
            · exact HostProgram.Obeys.bind (.say _) fun _ _ => ih others
            · exact .pure trivial
      · exact ih others

/-- **What the end writes** is disk files. -/
theorem mem_writtenPaths_finish {s : σ} {path : String} (h : path ∈ r.finish.writtenPaths host s) :
    ∃ d ∈ r.diskFiles, d.path = path := by
  have obeys : r.finish.Obeys (fun path => ∃ d ∈ r.diskFiles, d.path = path) fun _ => True := by
    unfold finish
    split
    · exact HostProgram.Obeys.bind (obeys_saveImages r.engine fun d mem => ⟨d, mem, rfl⟩) fun _ _ =>
        .pure trivial
    · exact .pure trivial
  exact (obeys.run host s).2 path h

/-- Saving the disks leaves a file alone, or leaves in it the image of a unit that it is noted for. -/
def SavedAt (files : HostFiles σ ι) (e : Engine) (noted : List DiskFile) (s s' : σ) (file : ι) : Prop :=
  files.contents file s' = files.contents file s ∨
    ∃ d ∈ noted, files.leads d.path s = some file ∧
      ∃ image, e.devices.disks.image d.unit = some image ∧ files.contents file s' = some image

variable {e : Engine} {d : DiskFile} {noted : List DiskFile} {s s' : σ} {file : ι}

/-- A file that is not saved itself. -/
theorem SavedAt.cons (h : SavedAt files e noted s s' file) :
    SavedAt files e (d :: noted) s s' file :=
  h.imp id fun ⟨g, mem, saved⟩ => ⟨g, List.mem_cons_of_mem d mem, saved⟩

/-- A file that is written with the image of its unit, and may be written again by what follows. -/
theorem SavedAt.write (kept : files.KeptBy host) {image : ByteArray}
    (held : e.devices.disks.image d.unit = some image)
    (written : (host.writeFile d.path image s).1 = true)
    (h : SavedAt files e noted (host.writeFile d.path image s).2 s' file) :
    SavedAt files e (d :: noted) s s' file := by
  -- A later path may lead to the same file; its image is then the one that stays.
  rcases h with same | ⟨g, mem, there, final⟩
  · by_cases there : files.leads d.path s = some file
    · exact .inr ⟨d, List.mem_cons_self, there, image, held, same.trans (kept.written there written)⟩
    · exact .inl (same.trans (kept.others there image))
  · exact .inr ⟨g, List.mem_cons_of_mem d mem, (kept.leads_write d.path image s g.path) ▸ there, final⟩

/-- **What saving the images does to a file**, if no save of it is broken off. By induction on the noted
files. -/
theorem saveImages_run (kept : files.KeptBy host) (e : Engine) (noted : List DiskFile) (s : σ)
    (saves : ∀ path ∈ (saveImages e noted).refusedPaths host s,
      files.leads path s = some file → files.WritesWhole host path) :
    SavedAt files e noted s ((saveImages e noted).run host s).2 file := by
  induction noted generalizing s with
  | nil => exact .inl rfl
  | cons d rest ih =>
      unfold saveImages at saves ⊢
      by_cases dirty : e.devices.disks.isDirty d.unit = true
      · rw [if_pos dirty] at saves ⊢
        cases held : e.devices.disks.image d.unit with
        | none =>
            rw [held] at saves
            exact (ih s saves).cons
        | some image =>
            rw [held] at saves
            dsimp only at saves ⊢
            rw [HostProgram.bind_eq, HostProgram.refusedPaths_putFile] at saves
            rw [HostProgram.bind_eq, HostProgram.run_putFile]
            cases written : (host.writeFile d.path image s).1 with
            | false =>
                rw [written] at saves
                refine .inl ?_
                by_cases there : files.leads d.path s = some file
                · have whole := saves d.path List.mem_cons_self there
                  exact (kept.same_of_refused written (whole image s)).contents file
                · exact kept.others there image
            | true =>
                rw [written] at saves
                refine .write kept held written (ih _ fun path refused => ?_)
                rw [kept.leads_write]
                exact saves path refused
      · rw [if_neg dirty] at saves ⊢
        exact (ih s saves).cons

theorem finish_run (kept : files.KeptBy host) (r : Run) (s : σ)
    (saves : ∀ path ∈ r.finish.refusedPaths host s,
      files.leads path s = some file → files.WritesWhole host path) :
    SavedAt files r.engine r.diskFiles s (r.finish.run host s).2 file := by
  unfold finish at saves ⊢
  split at saves
  · next on =>
      rw [if_pos on, HostProgram.bind_eq, HostProgram.run_bind]
      rw [HostProgram.bind_eq, HostProgram.refusedPaths_bind] at saves
      exact saveImages_run kept r.engine r.diskFiles s fun path refused =>
        saves path (List.mem_append_left _ refused)
  · next off =>
      rw [if_neg off]
      exact .inl rfl

/-- From its first turn to its end, a run does to a file what its end does, if its turns write other
files. -/
theorem turns_finish_run (kept : files.KeptBy host) {s₁ s₂ : σ} {batches : Nat}
    (halted : (r.turns batches).run host s₁ = (some r', s₂))
    (names : ∀ path ∈ (r.turns batches).writtenPaths host s₁, files.leads path s₁ ≠ some file)
    (saves : ∀ path ∈ r'.finish.refusedPaths host s₂,
      files.leads path s₁ = some file → files.WritesWhole host path) :
    SavedAt files r'.engine r.diskFiles s₁ (r'.finish.run host s₂).2 file := by
  have continues := ((r.obeys_turns batches).run host s₁).1 r'
  have during := kept.contents_run (r.turns batches) s₁ names
  have leads := kept.leads_run (r.turns batches) s₁
  rw [halted] at continues during leads
  rcases finish_run kept r' s₂ fun path refused => leads path ▸ saves path refused with
    same | ⟨f, noted, there, final⟩
  · exact .inl (same.trans during)
  · exact .inr ⟨f, (continues rfl).diskFiles ▸ noted, (leads f.path).symm.trans there, final⟩

/-! ### Whole runs -/

/-- A file holds what it held, or the final image of a disk that was loaded from this very file. -/
def OwnContents (files : HostFiles σ ι) (s s' : σ) (r r' : Run) (file : ι) : Prop :=
  ∃ original, files.contents file s = some original ∧
    (files.contents file s' = some original ∨
      ∃ f ∈ r.diskFiles, files.leads f.path s = some file ∧
        r.engine.devices.disks.image f.unit = some original ∧
        ∃ final, r'.engine.devices.disks.image f.unit = some final ∧
          files.contents file s' = some final)

/-- A run that starts, and whose guest halts, ends as its end does. -/
theorem run_commandLine {words : List String} {args : Arguments}
    (parsed : Arguments.parse words = .ok args) {s s₁ s₂ : σ} {r r' : Run} {batches : Nat}
    (started : (start args).run.run host s = (.ok r, s₁))
    (halted : (r.turns batches).run host s₁ = (some r', s₂)) :
    (commandLine words batches).run host s =
      (some (r'.finish.run host s₂).1, (r'.finish.run host s₂).2) := by
  rw [commandLine, parsed]
  show (whole args batches).run host s = _
  rw [whole, HostProgram.bind_eq, HostProgram.run_bind, started]
  dsimp only
  rw [HostProgram.bind_eq, HostProgram.run_bind, halted]
  dsimp only
  rw [HostProgram.bind_eq, HostProgram.run_bind]
  rfl

/-- **A disk file keeps its own contents**, or gets the final image of a disk that was loaded from
it: for every command line and every host that keeps files, if the guest halts, what is written during
the run is other files, no save of this one is broken off, and no unit that it was loaded into was loaded
anew by a later argument. -/
theorem disk_files_keep_their_own (kept : files.KeptBy host) {words : List String} {args : Arguments}
    (parsed : Arguments.parse words = .ok args) {s s₁ s₂ : σ} {r r' : Run} {batches : Nat}
    (started : (start args).run.run host s = (.ok r, s₁))
    (halted : (r.turns batches).run host s₁ = (some r', s₂)) {d : DiskArgument}
    (mem : d ∈ args.disks) {file : ι} (leads : files.leads d.path s = some file)
    (names : ∀ path ∈ (r.turns batches).writtenPaths host s₁, files.leads path s ≠ some file)
    (saves : ∀ path ∈ r'.finish.refusedPaths host s₂,
      files.leads path s = some file → files.WritesWhole host path)
    (unreplaced : ∀ f ∈ r.diskFiles, files.leads f.path s = some file →
      f ∈ DiskFile.behind r.diskFiles) :
    ∃ code s', (commandLine words batches).run host s = (some code, s') ∧
      OwnContents files s s' r r' file := by
  obtain ⟨result, setup, yields⟩ : HostAction.Yields host s (start args) _ := yields_start args
  cases started.symm.trans setup
  obtain ⟨backed, paths, -⟩ := yields r rfl
  obtain ⟨f, noted, same⟩ : ∃ f ∈ r.diskFiles, f.path = d.path :=
    List.mem_map.1 (paths ▸ List.mem_map_of_mem mem)
  obtain ⟨original, read⟩ := backed.readable f noted
  rw [same] at read
  refine ⟨_, _, run_commandLine parsed started halted, original, kept.read leads read, ?_⟩
  rcases turns_finish_run kept halted names saves with kept' | ⟨g, noted, there, final, image, written⟩
  · exact .inl (kept'.trans (kept.read leads read))
  · obtain ⟨loaded, read', held⟩ := backed.held g (unreplaced g noted there)
    have same : loaded = original :=
      Option.some.inj ((kept.read there read').symm.trans (kept.read leads read))
    exact .inr ⟨g, noted, there, same ▸ held, final, image, written⟩

end AnyHost

/-! ### A replaced file -/

open FileTree

/-- The stages of a run: its arguments, the run that starts, and the run whose guest has halted,
each run with the computer that it leaves. -/
def stages? (words : List String) (batches : Nat) (s : Computer) :
    Option (Arguments × (Run × Computer) × (Run × Computer)) :=
  match Arguments.parse words with
  | .error _ => none
  | .ok args =>
    match (start args).run.run host s with
    | (.error _, _) => none
    | (.ok r, s₁) =>
      match (r.turns batches).run host s₁ with
      | (none, _) => none
      | (some r', s₂) => some (args, (r, s₁), (r', s₂))

theorem stages?_eq_some {words : List String} {batches : Nat} {s s₁ s₂ : Computer} {args : Arguments}
    (h : stages? words batches s = some (args, (r, s₁), (r', s₂))) :
    Arguments.parse words = .ok args ∧ (start args).run.run host s = (.ok r, s₁) ∧
      (r.turns batches).run host s₁ = (some r', s₂) := by
  unfold stages? at h
  split at h
  · cases h
  · next args parsed =>
      split at h
      · cases h
      · next r s₁ started =>
          split at h
          · cases h
          · next r' s₂ halted =>
              cases h
              exact ⟨parsed, started, halted⟩

/-- A command line that loads one file after another into unit 0. -/
def replacingWords : List String :=
  ["--config", "c.json", "--rom", "r.rom", "--disk", "0=a.img", "--disk", "0=b.img", "--save-disks"]

/-- Its files. The guest writes the first sector of unit 0 and halts. -/
def replacingFiles : FileTree where
  files :=
    [(["c.json".toList], "\x7b\"sectorSize\":128\x7d".toUTF8),
      (["r.rom".toList], romPage [0x3E, 2, 0xD3, 0x97, 0x76]),
      (["a.img".toList], Bytes.ofList (List.replicate 128 0xAA)),
      (["b.img".toList], Bytes.ofList (List.replicate 256 0xBB))]

theorem replacing_stages_any :
    (stages? replacingWords 2 { tree := replacingFiles }).any
      (fun (args, (r, s₁), (r', s₂)) =>
        args.disks = [⟨some 0, "a.img"⟩, ⟨some 0, "b.img"⟩] ∧
        (r.turns 2).writtenPaths host s₁ = [] ∧
        r.diskFiles = [⟨0, "a.img"⟩, ⟨0, "b.img"⟩] ∧
        (r.engine.devices.disks.image 0).map ByteArray.size = some 256 ∧
        r'.finish.refusedPaths host s₂ = [] ∧
        ((r'.finish.run host s₂).2.tree.file? ["a.img".toList]).map ByteArray.size = some 256) =
      true := by
  decide +kernel

/-- What can be seen of the run of this command line. -/
theorem replacing_stages :
    ∃ args r s₁ r' s₂,
      stages? replacingWords 2 { tree := replacingFiles } = some (args, (r, s₁), (r', s₂)) ∧
      args.disks = [⟨some 0, "a.img"⟩, ⟨some 0, "b.img"⟩] ∧
      (r.turns 2).writtenPaths host s₁ = [] ∧
      r.diskFiles = [⟨0, "a.img"⟩, ⟨0, "b.img"⟩] ∧
      (r.engine.devices.disks.image 0).map ByteArray.size = some 256 ∧
      r'.finish.refusedPaths host s₂ = [] ∧
      ((r'.finish.run host s₂).2.tree.file? ["a.img".toList]).map ByteArray.size = some 256 := by
  obtain ⟨⟨args, ⟨r, s₁⟩, r', s₂⟩, stages, seen⟩ :=
    (Option.any_eq_true _ _).1 replacing_stages_any
  exact ⟨args, r, s₁, r', s₂, stages, of_decide_eq_true seen⟩

/-- **A replaced file is overwritten** with the image that replaced it: the first disk file of this
command line holds neither what it held nor the final image of a disk that was loaded from it. -/
theorem replaced_file_overwritten :
    ∃ args r s₁ r' s₂ d file, Arguments.parse replacingWords = .ok args ∧ d ∈ args.disks ∧
      places.leads d.path { tree := replacingFiles } = some file ∧
      (start args).run.run host { tree := replacingFiles } = (.ok r, s₁) ∧
      (r.turns 2).run host s₁ = (some r', s₂) ∧
      (∀ path ∈ (r.turns 2).writtenPaths host s₁,
        places.leads path { tree := replacingFiles } ≠ some file) ∧
      (∀ path ∈ r'.finish.refusedPaths host s₂,
        places.leads path { tree := replacingFiles } ≠ some file) ∧
      ∃ code s', (commandLine replacingWords 2).run host { tree := replacingFiles } = (some code, s') ∧
        ¬OwnContents places { tree := replacingFiles } s' r r' file := by
  obtain ⟨args, r, s₁, r', s₂, stages, disks, writes, noted, image, saves, final⟩ := replacing_stages
  obtain ⟨parsed, started, halted⟩ := stages?_eq_some stages
  refine ⟨args, r, s₁, r', s₂, ⟨some 0, "a.img"⟩, ["a.img".toList], parsed, ?_,
    by decide +kernel, started, halted, ?_, ?_, _, _, run_commandLine parsed started halted, ?_⟩
  · rw [disks]
    exact List.mem_cons_self
  · rw [writes]
    exact nofun
  · rw [saves]
    exact nofun
  · rintro ⟨original, there, own⟩
    have before : (replacingFiles.file? ["a.img".toList]).map ByteArray.size = some 128 := by
      decide +kernel
    have there : replacingFiles.file? ["a.img".toList] = some original := there
    rw [there] at before
    have size : original.size = 128 := Option.some.inj before
    rcases own with same | ⟨f, mem, -, held, -⟩
    · have same : (r'.finish.run host s₂).2.tree.file? ["a.img".toList] = some original := same
      rw [same] at final
      exact absurd (size.symm.trans (Option.some.inj final)) (by decide)
    · have unit : f.unit = 0 := by
        rw [noted] at mem
        rcases List.mem_cons.1 mem with rfl | mem
        · rfl
        · rw [List.mem_singleton.1 mem]
      rw [unit] at held
      rw [held] at image
      exact absurd (size.symm.trans (Option.some.inj image)) (by decide)

/-- The file that is behind the unit keeps its own contents. -/
theorem latest_file_keeps_its_own :
    ∃ args r s₁ r' s₂, Arguments.parse replacingWords = .ok args ∧
      (start args).run.run host { tree := replacingFiles } = (.ok r, s₁) ∧
      (r.turns 2).run host s₁ = (some r', s₂) ∧
      places.leads "b.img" { tree := replacingFiles } = some ["b.img".toList] ∧
      ∃ code s', (commandLine replacingWords 2).run host { tree := replacingFiles } = (some code, s') ∧
        OwnContents places { tree := replacingFiles } s' r r' ["b.img".toList] := by
  obtain ⟨args, r, s₁, r', s₂, stages, disks, writes, noted, -, saves, -⟩ := replacing_stages
  obtain ⟨parsed, started, halted⟩ := stages?_eq_some stages
  have mem : ⟨some 0, "b.img"⟩ ∈ args.disks := by
    rw [disks]
    exact List.mem_cons_of_mem _ List.mem_cons_self
  have leads : places.leads "b.img" { tree := replacingFiles } = some ["b.img".toList] := by
    decide +kernel
  refine ⟨args, r, s₁, r', s₂, parsed, started, halted, leads,
    disk_files_keep_their_own places_keptBy parsed started halted mem leads ?_ ?_ ?_⟩
  · rw [writes]
    exact nofun
  · rw [saves]
    exact nofun
  · rw [noted]
    intro f mem there
    rcases List.mem_cons.1 mem with rfl | latest
    · exact absurd there (by decide +kernel)
    · exact latest

end Run

end BankedZ80
