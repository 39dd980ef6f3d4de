import BankedZ80.CommandLine.Run
import BankedZ80.Proofs.Disk.Change
import BankedZ80.Proofs.History.Calls
import BankedZ80.Proofs.Session

/-!
# How a run starts

Setting a machine up reads files and changes none, so `HostAction.Yields host s` follows it on a host
that stays in one state: whatever an action returns satisfies a condition, and the rules below go along
its text.

The files behind the units are noted in the order they were loaded. `DiskFile.behind` leaves out
those whose unit was loaded anew since; `yields_start` shows that every other unit holds what is in
its file.
-/

namespace BankedZ80

open DiskController
open HostProgram (Host)

variable {σ : Type} {host : Host σ} {s : σ}

/-! ### Actions that only ask -/

namespace HostAction

variable {α β : Type}

/-- An action leaves a host in the state in which it is, and what it returns satisfies `post`. -/
def Yields (host : Host σ) (s : σ) (x : HostAction α) (post : α → Prop) : Prop :=
  ∃ result, x.run.run host s = (result, s) ∧ ∀ a, result = .ok a → post a

variable {x : HostAction α} {f : α → HostAction β} {mid : α → Prop} {post : β → Prop}

theorem Yields.pure {b : β} (h : post b) : Yields host s (Pure.pure b) post := by
  refine ⟨_, rfl, fun a result => ?_⟩
  cases result
  exact h

theorem Yields.throw (e : StartError) : Yields host s (MonadExcept.throw e) post := ⟨_, rfl, nofun⟩

theorem Yields.bind (first : Yields host s x mid) (rest : ∀ a, mid a → Yields host s (f a) post) :
    Yields host s (x >>= f) post := by
  obtain ⟨result, run, ok⟩ := first
  unfold Yields
  rw [ExceptT.run_bind, HostProgram.bind_eq, HostProgram.run_bind, run]
  cases result with
  | ok a => exact rest a (ok a rfl)
  | error e => exact ⟨_, rfl, nofun⟩

/-- A program that only asks, as an action. -/
theorem Yields.lift {p : HostProgram α} {a : α} (run : p.run host s = (a, s)) (h : mid a) :
    Yields host s (liftM p) mid := by
  refine ⟨.ok a, ?_, fun b result => ?_⟩
  · show (p.bind fun a => .done (Except.ok a)).run host s = _
    rw [HostProgram.run_bind, run]
    rfl
  · cases result
    exact h

theorem Yields.say (text : String) : Yields host s (liftM (HostProgram.say text)) fun _ => True :=
  .lift rfl trivial

theorem Yields.askFile (path : String) :
    Yields host s (liftM (HostProgram.askFile path)) fun r => host.readFile path s = r :=
  .lift rfl rfl

theorem Yields.orStop (r : Except MachineError β) :
    Yields host s (Build.orStop r) fun b => r = .ok b := by
  cases r with
  | ok b => exact .pure rfl
  | error e => exact .throw _

theorem Yields.readFile (path : String) :
    Yields host s (Build.readFile path) fun contents => host.readFile path s = .ok contents := by
  refine (Yields.askFile path).bind fun r answer => ?_
  cases r with
  | ok contents => exact .pure answer
  | error e => exact .throw _

theorem Yields.mono {post' : α → Prop} (h : Yields host s x mid) (weaker : ∀ a, mid a → post' a) :
    Yields host s x post' :=
  let ⟨result, run, ok⟩ := h
  ⟨result, run, fun a returned => weaker a (ok a returned)⟩

/-- A loop of actions whose results are of no interest. -/
theorem Yields.forIn {action : α → HostAction PUnit} (h : ∀ a, Yields host s (action a) fun _ => True)
    (as : List α) :
    Yields host s (ForIn.forIn as PUnit.unit fun a _ => action a >>= fun _ =>
      Pure.pure (ForInStep.yield PUnit.unit)) fun _ => True := by
  induction as with
  | nil => exact .pure trivial
  | cons a rest ih =>
      rw [List.forIn_cons, bind_assoc]
      exact (h a).bind fun _ _ => ih

end HostAction

open HostAction

/-! ### Files behind units -/

/-- The noted files, but for those whose unit was loaded anew since. -/
def DiskFile.behind : List DiskFile → List DiskFile
  | [] => []
  | f :: later => if later.any (·.unit = f.unit) then behind later else f :: behind later

theorem DiskFile.mem_behind_append {files : List DiskFile} {new f : DiskFile} :
    f ∈ behind (files ++ [new]) ↔ (f ∈ behind files ∧ f.unit ≠ new.unit) ∨ f = new := by
  induction files with
  | nil => simp [behind]
  | cons g later ih =>
      rw [List.cons_append, behind, behind, List.any_append, List.any_cons, List.any_nil, Bool.or_false]
      by_cases again : later.any (·.unit = g.unit) = true
      · rw [again, Bool.true_or, if_pos rfl, if_pos rfl, ih]
      · rw [if_neg again, Bool.eq_false_iff.2 again, Bool.false_or, List.mem_cons]
        by_cases replaced : new.unit = g.unit
        · rw [if_pos (decide_eq_true replaced), ih]
          grind
        · rw [if_neg (by simpa using replaced), List.mem_cons, ih]
          grind

namespace Build

/-- What is noted about the units is right. -/
structure Backed (host : Host σ) (s : σ) (e : Engine) (files : List DiskFile) : Prop where
  /-- Every file that is noted can be read. -/
  readable : ∀ f ∈ files, ∃ contents, host.readFile f.path s = .ok contents
  /-- A unit that was not loaded anew holds what is in its file. -/
  held : ∀ f ∈ DiskFile.behind files, ∃ contents, host.readFile f.path s = .ok contents ∧
    e.devices.disks.image f.unit = some contents

variable {e e' : Engine} {files : List DiskFile}

theorem Backed.congr (h : Backed host s e files)
    (same : ∀ n, e'.devices.disks.image n = e.devices.disks.image n) : Backed host s e' files := by
  refine ⟨h.readable, fun f mem => ?_⟩
  rw [same]
  exact h.held f mem

/-- A disk that is loaded and noted. -/
theorem Backed.load (h : Backed host s e files) {unit : Nat} {path : String} {image : ByteArray}
    (read : host.readFile path s = .ok image)
    (loaded : Evolves e.devices.disks (DiskChange.loadedAs unit image false) e'.devices.disks) :
    Backed host s e' (files ++ [⟨unit, path⟩]) := by
  have slot (n : Nat) : e'.devices.disks.image n =
      if unit = n then some image else e.devices.disks.image n := by
    rw [image_eq_kept, loaded.kept, DiskChange.foldl_loadedAs, image_eq_kept]
    split <;> rfl
  constructor
  case readable =>
      intro f mem
      rcases List.mem_append.1 mem with before | new
      · exact h.readable f before
      · rw [List.mem_singleton.1 new]
        exact ⟨image, read⟩
  case held =>
      intro f mem
      rw [slot]
      rcases DiskFile.mem_behind_append.1 mem with ⟨before, other⟩ | rfl
      · rw [if_neg (Ne.symm other)]
        exact h.held f before
      · exact ⟨image, read, if_pos rfl⟩

/-- A disk argument loads its file, and notes it. -/
theorem yields_disk (d : DiskArgument) (h : Backed host s e files) :
    Yields host s (disk (e, files) d) fun r =>
      Backed host s r.1 r.2 ∧ ∃ unit, r.2 = files ++ [⟨unit, d.path⟩] := by
  rw [disk]
  split
  · exact .throw _
  · next unit _ =>
      refine (Yields.readFile d.path).bind fun image read => ?_
      refine (Yields.orStop _).bind fun e₁ load => ?_
      refine (Yields.orStop _).bind fun e₂ flag => ?_
      refine (Yields.say _).bind fun _ _ => .pure ⟨h.load read ?_, unit, rfl⟩
      obtain ⟨c, loaded, same⟩ := bind_eq_ok.1 load
      cases same
      obtain ⟨c', flagged, same⟩ := bind_eq_ok.1 flag
      cases same
      exact .change (.load loaded) (.of_change (.flag flagged))

/-- The disk arguments load their files, and note them in order. By induction on the arguments. -/
theorem yields_disks (ds : List DiskArgument) (h : Backed host s e files) :
    Yields host s (ds.foldlM disk (e, files)) fun r =>
      Backed host s r.1 r.2 ∧ r.2.map (·.path) = files.map (·.path) ++ ds.map (·.path) := by
  induction ds generalizing e files with
  | nil => exact .pure ⟨h, (List.append_nil _).symm⟩
  | cons d rest ih =>
      rw [List.foldlM_cons]
      refine (yields_disk d h).bind ?_
      rintro ⟨e₁, files₁⟩ ⟨backed, unit, rfl⟩
      refine (ih backed).mono fun r later => ⟨later.1, ?_⟩
      rw [later.2, List.map_append, List.append_assoc]
      rfl

/-! ### The parts of the setup -/

theorem yields_bundle (args : Arguments) : Yields host s (bundle args) fun _ => True := by
  rw [bundle]
  split
  · exact .pure trivial
  · next path _ =>
      refine (Yields.askFile path).bind fun r _ => ?_
      split
      · exact (Yields.orStop _).bind fun b _ => (Yields.say _).bind fun _ _ => .pure trivial
      · exact .throw _
      · exact .throw _

theorem yields_config (args : Arguments) (b : Option LoadedBundle) :
    Yields host s (config args b) fun _ => True := by
  unfold config
  split
  · next path _ =>
      refine (Yields.readFile path).bind fun text _ => ?_
      split
      · exact (Yields.orStop _).mono fun _ _ => trivial
      · exact .throw _
  · exact .pure trivial
  · exact .pure trivial

theorem yields_install (args : Arguments) (b : Option LoadedBundle) (e : Engine) :
    Yields host s (install args b e) fun _ => True := by
  unfold install
  split
  · exact (Yields.orStop _).bind fun _ _ => .pure trivial
  · split
    · exact .throw _
    · exact .pure trivial

theorem yields_rom (args : Arguments) (e : Engine) : Yields host s (rom args e) fun _ => True := by
  rw [rom]
  split
  · exact .pure trivial
  · exact (Yields.readFile _).bind fun _ _ => (Yields.orStop _).mono fun _ _ => trivial

/-- The machine that is set up has in its units what is in their files. -/
theorem yields_engine (args : Arguments) :
    Yields host s (engine args) fun r =>
      Backed host s r.1 r.2 ∧ r.2.map (·.path) = args.disks.map (·.path) := by
  rw [engine]
  refine (yields_bundle args).bind fun b _ => ?_
  refine (yields_config args b).bind fun c _ => ?_
  refine (Yields.orStop _).bind fun e _ => ?_
  refine (yields_install args b e).bind fun e _ => ?_
  refine (yields_rom args e).bind fun e _ => ?_
  have none : Backed host s e [] := ⟨nofun, nofun⟩
  refine (yields_disks args.disks none).bind ?_
  rintro ⟨e, files⟩ ⟨backed, paths⟩
  dsimp only
  split
  · exact .pure ⟨backed, paths⟩
  · refine (Yields.orStop _).bind fun e' completed => .pure ⟨backed.congr fun n => ?_, paths⟩
    unfold Engine.completeInit at completed
    split at completed
    · cases completed
    · cases completed
      rw [image_eq_kept, image_eq_kept]
      exact congrArg _ (kept_of_resetRegisters (resetRegisters_idem e.devices.disks) n)

end Build

/-! ### The session -/

theorem Engine.units_setSetting {e e' : Engine} {s : String} (h : e.setSetting s = .ok e') :
    e'.devices.disks.units = e.devices.disks.units := by
  obtain ⟨nvram, -, same⟩ := bind_eq_ok.1 h
  cases same
  rfl

/-- Bringing an engine to a session leaves the units alone. -/
theorem Session.keeps_apply (s : Session) :
    EngineCalls.Keeps (·.devices.disks.units) s.apply := by
  rw [apply]
  have setting : EngineCalls.Keeps (·.devices.disks.units)
      (EngineCalls.attempt (·.setSetting s.setting)) :=
    .attempt fun _ _ => Engine.units_setSetting
  have silenceAll : EngineCalls.Keeps (·.devices.disks.units)
      (EngineCalls.attempt fun e => .ok (e.setAllSilenced true)) :=
    .attempt fun e e' h => by cases h; rfl
  have silence (n : Nat) : EngineCalls.Keeps (·.devices.disks.units)
      (EngineCalls.attempt (·.setSilenced n true)) := by
    refine .attempt fun e e' h => ?_
    obtain ⟨c, silenced, same⟩ := bind_eq_ok.1 h
    cases same
    rw [setSilenced_eq_ok silenced]
    rfl
  have units : EngineCalls.Keeps (·.devices.disks.units)
      (do for n in s.silencedUnits do EngineCalls.attempt (·.setSilenced n true)) :=
    (EngineCalls.Keeps.forIn silence s.silencedUnits).bind fun _ => .pure ()
  have all : EngineCalls.Keeps (·.devices.disks.units) (do
      if s.silenceAll then EngineCalls.attempt fun e => .ok (e.setAllSilenced true)
      for n in s.silencedUnits do EngineCalls.attempt (·.setSilenced n true)) := by
    split
    · exact silenceAll.bind fun _ => units
    · exact units
  split
  · exact setting.bind fun _ => all
  · exact all

namespace Run

theorem yields_loadSession (args : Arguments) : Yields host s (loadSession args) fun _ => True := by
  rw [loadSession]
  split
  · exact .pure trivial
  · next path _ =>
      have load : Yields host s (liftM (Session.load path)) fun _ => True :=
        .lift (Prod.ext rfl (Session.load_run host path s)) trivial
      exact load.bind fun r _ => (Yields.orStop r).bind fun _ _ => .pure trivial

/-- **A run starts** with what is in their files in its units, but for those whose unit was loaded
anew. -/
theorem yields_start (args : Arguments) :
    Yields host s (start args) fun r => Build.Backed host s r.engine r.diskFiles ∧
      r.diskFiles.map (·.path) = args.disks.map (·.path) ∧ r.saveDisks = args.saveDisks := by
  rw [start]
  refine (Build.yields_engine args).bind ?_
  rintro ⟨e, files⟩ ⟨backed, paths⟩
  refine (yields_loadSession args).bind fun session _ => ?_
  have applied : (session.apply.runOn e).2.devices.disks.units = e.devices.disks.units :=
    session.keeps_apply e
  generalize session.apply.runOn e = r at applied
  obtain ⟨result, e₁⟩ := r
  refine (Yields.orStop result).bind fun _ _ => ?_
  dsimp only at applied ⊢
  -- Session and boot option concern the record and the warnings, never the units.
  have still (e₂ : Engine) (same : e₂.devices.disks.units = e₁.devices.disks.units) :
      Build.Backed host s (e₂.setSink true) files := by
    refine backed.congr fun n => ?_
    show (e₂.devices.disks.unit? n).map _ = (e.devices.disks.unit? n).map _
    rw [unit?, unit?, same, applied]
  split
  · have now : Yields host s (Pure.pure e₁ : HostAction Engine) (· = e₁) := .pure rfl
    refine now.bind ?_
    rintro _ rfl
    exact (Yields.forIn (fun d => .say _) _).bind fun _ _ => (Yields.say _).bind fun _ _ =>
      .pure ⟨still _ rfl, paths, rfl⟩
  · refine (Yields.orStop _).bind fun e₂ set => ?_
    exact (Yields.forIn (fun d => .say _) _).bind fun _ _ => (Yields.say _).bind fun _ _ =>
      .pure ⟨still e₂ (Engine.units_setSetting set), paths, rfl⟩

end Run

end BankedZ80
