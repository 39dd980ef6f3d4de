import BankedZ80.Proofs.Host.Contract

/-!
# Hosts that keep files

What a run does to the files of a host can be said without a word on how the host names and keeps
them. `HostFiles` is a view of the files: the file that a path leads to, and what is in a file. A path
may be absolute, climb with `..` or go through a link; several paths may lead to one file.

`HostFiles.KeptBy` says what the requests of a program do to the files that are seen so. A write
concerns the file that its path leads to and no other, and one that succeeds leaves its bytes there.
What is in the target after a write that fails is open, since a host may break a write off after it has
begun (`HostFiles.BreaksOff`); so is all that the clock says. A run then changes no file but those that
its written paths lead to (`HostFiles.KeptBy.contents_run`).
-/

namespace BankedZ80

open HostProgram (Host)

/-- A view of the files of a host in a state: the file that a path leads to, whether or not it is there
yet, and what is in a file that is there. -/
structure HostFiles (σ ι : Type) where
  leads : String → σ → Option ι
  contents : ι → σ → Option ByteArray

namespace HostFiles

variable {σ ι α : Type}

/-- No file is changed, and paths lead where they led. -/
structure Same (files : HostFiles σ ι) (s s' : σ) : Prop where
  leads (path : String) : files.leads path s' = files.leads path s
  contents (f : ι) : files.contents f s' = files.contents f s

/-- A host keeps files as an operating system does. -/
structure KeptBy (files : HostFiles σ ι) (host : Host σ) : Prop where
  /-- What is read of a path is what is in its file. -/
  read {path : String} {s : σ} {f : ι} {bytes : ByteArray} (leads : files.leads path s = some f)
    (read : host.readFile path s = .ok bytes) : files.contents f s = some bytes
  /-- A write makes a file at most, and no directory or link. -/
  leads_write (path : String) (bytes : ByteArray) (s : σ) (other : String) :
    files.leads other (host.writeFile path bytes s).2 = files.leads other s
  /-- A write that succeeds puts its bytes in place of what was in the file. -/
  written {path : String} {bytes : ByteArray} {s : σ} {f : ι} (leads : files.leads path s = some f)
    (written : (host.writeFile path bytes s).1 = true) :
    files.contents f (host.writeFile path bytes s).2 = some bytes
  /-- A write, whether or not it succeeds, concerns no file but its target. -/
  others {path : String} {s : σ} {f : ι} (elsewhere : files.leads path s ≠ some f) (bytes : ByteArray) :
    files.contents f (host.writeFile path bytes s).2 = files.contents f s
  /-- The standard output is none of the files. -/
  emit (bytes : ByteArray) (s : σ) : files.Same s (host.emit bytes s)
  /-- Time does nothing to the files. -/
  clock (s : σ) : files.Same s (host.clock s).2

/-- The host breaks a write off: it fails, and its target is no longer what it was. -/
def BreaksOff (files : HostFiles σ ι) (host : Host σ) (path : String) (bytes : ByteArray) (s : σ) :
    Prop :=
  (host.writeFile path bytes s).1 = false ∧ ∃ f, files.leads path s = some f ∧
    files.contents f (host.writeFile path bytes s).2 ≠ files.contents f s

/-- The host writes all or nothing at a path. -/
def WritesWhole (files : HostFiles σ ι) (host : Host σ) (path : String) : Prop :=
  ∀ (bytes : ByteArray) (s : σ), ¬files.BreaksOff host path bytes s

namespace KeptBy

variable {files : HostFiles σ ι} {host : Host σ}

/-- A write that fails and is not broken off does nothing to the files. -/
theorem same_of_refused (kept : files.KeptBy host) {path : String} {bytes : ByteArray} {s : σ}
    (refused : (host.writeFile path bytes s).1 = false) (whole : ¬files.BreaksOff host path bytes s) :
    files.Same s (host.writeFile path bytes s).2 where
  leads := kept.leads_write path bytes s
  contents f := by
    by_cases target : files.leads path s = some f
    · exact Decidable.of_not_not fun changed => whole ⟨refused, f, target, changed⟩
    · exact kept.others target bytes

/-- **A path leads to the same file after a run as before.** -/
theorem leads_run (kept : files.KeptBy host) (p : HostProgram α) (s : σ) (path : String) :
    files.leads path (p.run host s).2 = files.leads path s := by
  induction p generalizing s with
  | done a => rfl
  | readFile other next ih => exact ih _ s
  | writeFile other bytes next ih => exact (ih _ _).trans (kept.leads_write other bytes s path)
  | listFiles directory next ih => exact ih _ s
  | emit bytes next ih => exact (ih _ _).trans ((kept.emit bytes s).leads path)
  | remark text next ih => exact ih _ s
  | clock next ih => exact (ih _ _).trans ((kept.clock s).leads path)

/-- **A run changes no file** but those that the paths lead to which it writes to. -/
theorem contents_run (kept : files.KeptBy host) (p : HostProgram α) (s : σ) {f : ι}
    (h : ∀ path ∈ p.writtenPaths host s, files.leads path s ≠ some f) :
    files.contents f (p.run host s).2 = files.contents f s := by
  induction p generalizing s with
  | done a => rfl
  | readFile other next ih => exact ih _ s h
  | writeFile other bytes next ih =>
      obtain ⟨first, rest⟩ := List.forall_mem_cons.1 h
      refine (ih _ _ fun path mem => ?_).trans (kept.others first bytes)
      rw [kept.leads_write]
      exact rest path mem
  | listFiles directory next ih => exact ih _ s h
  | emit bytes next ih =>
      refine (ih _ _ fun path mem => ?_).trans ((kept.emit bytes s).contents f)
      rw [(kept.emit bytes s).leads]
      exact h path mem
  | remark text next ih => exact ih _ s h
  | clock next ih =>
      refine (ih _ _ fun path mem => ?_).trans ((kept.clock s).contents f)
      rw [(kept.clock s).leads]
      exact h path mem

end KeptBy

end HostFiles

end BankedZ80
