import BankedZ80.Proofs.CommandLine.Start
import BankedZ80.Proofs.History.BootRecord
import BankedZ80.Proofs.Session

/-!
# The boot record of a run that starts

A run that starts has stored the boot string of its bundle, then the setting of its session, then the
option that the user asks for, each if there is one: `Run.setupRecord`. Everything else in the setup
leaves the boot record alone, so `Run.start_returns` says what the record is when the first batch
begins, and what the session is.
-/

namespace BankedZ80

open HostProgram (Host)

/-! ### Applying a session -/

namespace Session

variable {s : Session} {e : Engine}

/-- What an application does to the boot record. -/
def record (s : Session) : List NvramAction := if s.setting = "" then [] else [.set s.setting]

/-- An engine can be brought to a session with a setting that names an option, or without one, and with
units that there are. -/
structure Applicable (s : Session) : Prop where
  setting : s.setting = "" ∨ ∃ o, BootOption.parse? s.setting = some o
  units : ∀ n ∈ s.silencedUnits, n < maxUnits

/-- The part of an application that concerns the warnings. -/
def silence (s : Session) : EngineCalls Unit := do
  if s.silenceAll then EngineCalls.attempt fun e => .ok (e.setAllSilenced true)
  for n in s.silencedUnits do
    EngineCalls.attempt (·.setSilenced n true)

theorem apply_eq (s : Session) :
    s.apply =
      if s.setting ≠ "" then
        EngineCalls.attempt (·.setSetting s.setting) >>= fun _ => s.silence
      else s.silence := rfl

theorem setSilenced_isOk {n : Nat} {silenced : Bool} :
    (∃ e', e.setSilenced n silenced = .ok e') ↔ n < maxUnits := by
  constructor
  · rintro ⟨e', ok⟩
    obtain ⟨c, ok, -⟩ := bind_eq_ok.1 ok
    obtain ⟨u, there, -⟩ := bind_eq_ok.1 ok
    exact DiskController.checkUnit_eq_ok.1 there
  · intro there
    have there : DiskController.checkUnit n = .ok () := DiskController.checkUnit_eq_ok.2 there
    exact ⟨_, bind_eq_ok.2 ⟨_, bind_eq_ok.2 ⟨(), there, rfl⟩, rfl⟩⟩

/-- Silencing units succeeds if they are all there. By induction on the units. -/
theorem runOn_silenceUnits (units : List Nat) (e : Engine) :
    ((forIn units PUnit.unit fun n _ => do
        EngineCalls.attempt (·.setSilenced n true)
        pure (ForInStep.yield PUnit.unit) : EngineCalls PUnit).runOn e).1 = .ok ⟨⟩ ↔
      ∀ n ∈ units, n < maxUnits := by
  induction units generalizing e with
  | nil => exact iff_of_true rfl nofun
  | cons n rest ih =>
      rw [List.forIn_cons, bind_assoc, EngineCalls.runOn_bind, EngineCalls.runOn_attempt,
        List.forall_mem_cons]
      cases call : e.setSilenced n true with
      | ok e' => exact (ih e').trans (and_iff_right (setSilenced_isOk.1 ⟨e', call⟩)).symm
      | error error =>
          refine iff_of_false nofun fun there => ?_
          obtain ⟨e', ok⟩ := setSilenced_isOk.2 there.1
          cases call.symm.trans ok

theorem runOn_silence (s : Session) (e : Engine) :
    (s.silence.runOn e).1 = .ok () ↔ ∀ n ∈ s.silencedUnits, n < maxUnits := by
  unfold silence
  rw [bind_pure_unit]
  split
  · rw [EngineCalls.runOn_bind, EngineCalls.runOn_attempt]
    exact runOn_silenceUnits s.silencedUnits (e.setAllSilenced true)
  · exact runOn_silenceUnits s.silencedUnits e

/-- Silencing is of no concern to the boot record. -/
theorem keeps_nvram_silence (s : Session) : EngineCalls.Keeps (·.devices.nvram) s.silence := by
  have unit (n : Nat) : EngineCalls.Keeps (·.devices.nvram)
      (EngineCalls.attempt (·.setSilenced n true)) := by
    refine .attempt fun e e' h => ?_
    obtain ⟨c, -, same⟩ := bind_eq_ok.1 h
    cases same
    rfl
  have units : EngineCalls.Keeps (·.devices.nvram)
      (do for n in s.silencedUnits do EngineCalls.attempt (·.setSilenced n true)) :=
    (EngineCalls.Keeps.forIn unit s.silencedUnits).bind fun _ => .pure ()
  unfold silence
  split
  · exact (EngineCalls.Keeps.attempt fun e e' h => by cases h; rfl).bind fun _ => units
  · exact units

/-- **An application** succeeds on every engine or on none. -/
theorem runOn_apply (s : Session) (e : Engine) :
    (s.apply.runOn e).1 = .ok () ↔ s.Applicable := by
  rw [apply_eq]
  split
  · next nonempty =>
      have parsed : (∃ e', e.setSetting s.setting = .ok e') ↔
          ∃ o, BootOption.parse? s.setting = some o := by
        unfold Engine.setSetting Nvram.setSetting
        cases BootOption.parse? s.setting with
        | none => exact ⟨fun ⟨_, h⟩ => (nomatch h), fun ⟨_, h⟩ => (nomatch h)⟩
        | some o => exact iff_of_true ⟨_, rfl⟩ ⟨o, rfl⟩
      rw [EngineCalls.runOn_bind, EngineCalls.runOn_attempt]
      cases call : e.setSetting s.setting with
      | ok e' =>
          exact (s.runOn_silence e').trans
            ⟨fun units => ⟨.inr (parsed.1 ⟨e', call⟩), units⟩, fun h => h.units⟩
      | error error =>
          refine iff_of_false nofun fun h => ?_
          obtain ⟨e', ok⟩ := parsed.2 (h.setting.resolve_left nonempty)
          cases call.symm.trans ok
  · next empty =>
      rw [runOn_silence]
      exact ⟨fun units => ⟨.inl (Decidable.not_not.1 empty), units⟩, fun h => h.units⟩

/-- **An application** leaves the boot record as its list says. -/
theorem nvram_apply (applied : (s.apply.runOn e).1 = .ok ()) :
    (s.apply.runOn e).2.devices.nvram = s.record.foldl Nvram.after e.devices.nvram := by
  rw [apply_eq] at applied ⊢
  unfold record
  split
  · next nonempty =>
      rw [if_pos nonempty, EngineCalls.runOn_bind, EngineCalls.runOn_attempt] at applied
      rw [EngineCalls.runOn_bind, EngineCalls.runOn_attempt]
      have stored := e.nvram_setSetting s.setting
      cases call : e.setSetting s.setting with
      | ok e' =>
          rw [call] at stored
          exact (s.keeps_nvram_silence e').trans stored
      | error error =>
          rw [call] at applied
          cases applied
  · next empty =>
      rw [if_pos (Decidable.not_not.1 empty)]
      exact s.keeps_nvram_silence e

/-- A setting that a record gave is the setting of every engine that is brought to it. -/
theorem setting_apply (applicable : s.Applicable) {n : Nvram} (intact : n.Intact)
    (given : s.setting = n.setting) (nonempty : s.setting ≠ "") (e : Engine) :
    ∃ e', s.apply.runOn e = (.ok (), e') ∧ e'.setting = s.setting := by
  have applied := (s.runOn_apply e).2 applicable
  refine ⟨_, Prod.ext applied rfl, ?_⟩
  have stored : (s.apply.runOn e).2.devices.nvram = e.devices.nvram.after (.set s.setting) := by
    rw [nvram_apply applied, record, if_neg nonempty]
    rfl
  rcases intact.setting with empty | ⟨o, -, names, text⟩
  · exact absurd (given.trans empty) nonempty
  · rw [← given] at names text
    have named : e.devices.nvram.setSetting s.setting = .ok (e.devices.nvram.setBootOption o) :=
      Nvram.setSetting_eq_ok.2 ⟨o, names, rfl⟩
    show (s.apply.runOn e).2.devices.nvram.setting = s.setting
    rw [stored, Nvram.after, named, Nvram.setting_setBootOption _ (BootOption.legal_of_parse? names), text]

end Session

/-! ### Actions that return -/

namespace HostAction

variable {α β σ : Type} {x : HostAction α} {f : α → HostAction β} {a : α} {b : β} {host : Host σ}
  {s s' : σ}

/-- An action on a host in a state returns a value, and leaves a state. -/
def Returns (host : Host σ) (x : HostAction α) (s : σ) (a : α) (s' : σ) : Prop :=
  x.run.run host s = (.ok a, s')

theorem returns_pure {value : α} : Returns host (pure value) s a s' ↔ a = value ∧ s' = s := by
  show (Except.ok value, s) = (Except.ok a, s') ↔ _
  rw [Prod.mk.injEq, Except.ok.injEq, eq_comm, @eq_comm _ s]

theorem returns_bind :
    Returns host (x >>= f) s b s' ↔ ∃ a s₁, Returns host x s a s₁ ∧ Returns host (f a) s₁ b s' := by
  unfold Returns
  rw [ExceptT.run_bind, HostProgram.bind_eq, HostProgram.run_bind]
  generalize x.run.run host s = r
  obtain ⟨result, s₁⟩ := r
  cases result with
  | ok a =>
      refine ⟨fun rest => ⟨a, s₁, rfl, rest⟩, ?_⟩
      rintro ⟨a', s₁', same, rest⟩
      cases same
      exact rest
  | error e =>
      refine ⟨fun failed => (nomatch failed), ?_⟩
      rintro ⟨a', s₁', same, -⟩
      cases same

theorem returns_lift {p : HostProgram α} : Returns host (liftM p) s a s' ↔ p.run host s = (a, s') := by
  show (p.bind fun a => .done (Except.ok a)).run host s = (.ok a, s') ↔ _
  rw [HostProgram.run_bind]
  generalize p.run host s = r
  obtain ⟨a', s₁⟩ := r
  show (Except.ok a', s₁) = (Except.ok a, s') ↔ _
  rw [Prod.mk.injEq, Prod.mk.injEq, Except.ok.injEq]

theorem not_returns_throw (e : StartError) : ¬Returns host (throw e : HostAction α) s a s' := nofun

theorem returns_orStop {r : Except MachineError α} :
    Returns host (Build.orStop r) s a s' ↔ r = .ok a ∧ s' = s := by
  cases r with
  | ok b => exact returns_pure.trans (by rw [Except.ok.injEq, eq_comm])
  | error e => exact ⟨nofun, fun ⟨h, _⟩ => nomatch h⟩

end HostAction

open HostAction

/-! ### The setup of the machine -/

namespace Build

variable {args : Arguments} {bundle : Option LoadedBundle} {e e' : Engine} {σ : Type} {host : Host σ}
  {s s' : σ}

/-- What the installation of a bundle does to the boot record. -/
def record (bundle : Option LoadedBundle) : List NvramAction :=
  (bundle.bind (·.manifest.boot)).toList.map .set

theorem nvram_install (h : Returns host (install args bundle e) s e' s') :
    e'.devices.nvram = (record bundle).foldl Nvram.after e.devices.nvram := by
  unfold install at h
  cases bundle with
  | none =>
      dsimp only at h
      split at h
      · exact absurd h (not_returns_throw _)
      · rw [(returns_pure.1 h).1]
        rfl
  | some b =>
      have installed := e.nvram_install b
      rw [Engine.bundleRecordActions] at installed
      dsimp only at h
      generalize b.install.runOn e = r at h installed
      obtain ⟨result, e₁⟩ := r
      obtain ⟨manifest, s₁, succeeded, h⟩ := returns_bind.1 h
      rw [(returns_orStop.1 succeeded).1] at installed
      rw [(returns_pure.1 h).1]
      refine installed.trans ?_
      unfold record
      dsimp only [Option.bind_some]
      cases b.manifest.boot <;> rfl

theorem nvram_rom (h : Returns host (rom args e) s e' s') : e'.devices.nvram = e.devices.nvram := by
  unfold rom at h
  split at h
  · rw [(returns_pure.1 h).1]
  · obtain ⟨image, s₁, -, h⟩ := returns_bind.1 h
    exact e.nvram_loadRom (returns_orStop.1 h).1

theorem nvram_disk {files : List DiskFile} {d : DiskArgument} {r : Engine × List DiskFile}
    (h : Returns host (disk (e, files) d) s r s') : r.1.devices.nvram = e.devices.nvram := by
  rw [disk] at h
  split at h
  · exact absurd h (not_returns_throw _)
  · obtain ⟨image, s₁, -, h⟩ := returns_bind.1 h
    obtain ⟨e₁, s₂, loaded, h⟩ := returns_bind.1 h
    obtain ⟨e₂, s₃, marked, h⟩ := returns_bind.1 h
    obtain ⟨u, s₄, -, h⟩ := returns_bind.1 h
    rw [(returns_pure.1 h).1]
    exact (e₁.nvram_setManifest (returns_orStop.1 marked).1).trans
      (e.nvram_loadDisk (returns_orStop.1 loaded).1)

/-- By induction on the arguments. -/
theorem nvram_disks (ds : List DiskArgument) {files : List DiskFile} {r : Engine × List DiskFile}
    (h : Returns host (ds.foldlM disk (e, files)) s r s') : r.1.devices.nvram = e.devices.nvram := by
  induction ds generalizing e files s with
  | nil => rw [(returns_pure.1 h).1]
  | cons d rest ih =>
      rw [List.foldlM_cons] at h
      obtain ⟨⟨e₁, files₁⟩, s₁, first, h⟩ := returns_bind.1 h
      exact (ih h).trans (nvram_disk first)

/-- **The setup of the machine** does to the boot record what its bundle does. -/
theorem nvram_engine {files : List DiskFile} (h : Returns host (engine args) s (e, files) s') :
    ∃ bundle s₀, Returns host (Build.bundle args) s bundle s₀ ∧
      e.devices.nvram = (record bundle).foldl Nvram.after {} := by
  rw [engine] at h
  obtain ⟨bundle, s₀, bundled, h⟩ := returns_bind.1 h
  obtain ⟨config, s₁, -, h⟩ := returns_bind.1 h
  obtain ⟨new, s₂, built, h⟩ := returns_bind.1 h
  obtain ⟨e₁, s₃, installed, h⟩ := returns_bind.1 h
  obtain ⟨e₂, s₄, loaded, h⟩ := returns_bind.1 h
  obtain ⟨⟨e₃, files₃⟩, s₅, disks, h⟩ := returns_bind.1 h
  have record₃ : e₃.devices.nvram = (record bundle).foldl Nvram.after {} := by
    rw [nvram_disks args.disks disks, nvram_rom loaded, nvram_install installed,
      (Engine.fresh_of_new (returns_orStop.1 built).1).nvram]
  refine ⟨bundle, s₀, bundled, ?_⟩
  dsimp only at h
  split at h
  · cases (returns_pure.1 h).1
    exact record₃
  · obtain ⟨e₄, s₆, completed, h⟩ := returns_bind.1 h
    cases (returns_pure.1 h).1
    exact (e₃.nvram_completeInit (returns_orStop.1 completed).1).trans record₃

end Build

/-! ### The start of a run -/

namespace Run

variable {args : Arguments} {σ : Type} {host : Host σ} {s s' : σ} {r : Run}

/-- What is done to the boot record before the first batch. -/
def setupRecord (args : Arguments) (bundle : Option LoadedBundle) (loaded : Session) :
    List NvramAction :=
  Build.record bundle ++ loaded.record ++ args.boot.toList.map .set

/-- A run at its start, with the bundle and the session that were loaded for it. -/
structure StartsFrom (args : Arguments) (bundle : Option LoadedBundle) (loaded : Session) (r : Run) :
    Prop where
  record : r.engine.devices.nvram = (setupRecord args bundle loaded).foldl Nvram.after {}
  session : r.session = { loaded with silenceAll := loaded.silenceAll || args.quietWrites }
  applicable : loaded.Applicable
  stateFile : r.stateFile = args.state

theorem loadSession_returns {path : String} (state : args.state = some path) {session : Session}
    (h : Returns host (loadSession args) s session s') :
    s' = s ∧ ∃ loaded, (Session.load path).run host s = (.ok loaded, s) ∧
      session = { loaded with silenceAll := loaded.silenceAll || args.quietWrites } := by
  unfold loadSession at h
  rw [state] at h
  obtain ⟨answer, s₁, load, rest⟩ := returns_bind.1 h
  obtain ⟨loaded, s₂, found, last⟩ := returns_bind.1 rest
  obtain ⟨rfl, rfl⟩ := returns_orStop.1 found
  obtain ⟨rfl, rfl⟩ := returns_pure.1 last
  have load : (Session.load path).run host s = (.ok loaded, s') := returns_lift.1 load
  have still := Session.load_run host path s
  rw [load] at still
  cases still
  exact ⟨rfl, loaded, load, rfl⟩

/-- **A run starts** with the boot record that its setup has made, and with the session that is in its
state file. -/
theorem start_returns {path : String} (state : args.state = some path)
    (h : Returns host (start args) s r s') :
    ∃ bundle s₀ loaded, Returns host (Build.bundle args) s bundle s₀ ∧
      (Session.load path).run host s = (.ok loaded, s) ∧ StartsFrom args bundle loaded r := by
  rw [start] at h
  obtain ⟨⟨e, diskFiles⟩, s₁, built, h⟩ := returns_bind.1 h
  obtain ⟨session, s₂, opened, rest⟩ := returns_bind.1 h
  obtain ⟨bundle, s₀, bundled, made⟩ := Build.nvram_engine built
  obtain ⟨-, loaded, load, rfl⟩ := loadSession_returns state opened
  -- The session was read after the setup of the machine, which has left the host as it was.
  obtain ⟨result, setup, -⟩ : Yields host s (Build.engine args) _ := Build.yields_engine args
  obtain rfl : s = s₁ := (Prod.mk.inj (setup.symm.trans built)).2
  dsimp only at rest
  obtain ⟨u, s₃, applied, h⟩ := returns_bind.1 rest
  have applied := (returns_orStop.1 applied).1
  have applicable := (Session.runOn_apply _ e).1 applied
  have stored := Session.nvram_apply applied
  generalize (Session.apply _).runOn e = r₁ at h stored
  obtain ⟨result, e₁⟩ := r₁
  rw [made] at stored
  refine ⟨bundle, s₀, loaded, bundled, load, ?_⟩
  dsimp only at h stored
  have record : r.engine.devices.nvram =
      (setupRecord args bundle loaded).foldl Nvram.after {} ∧
      r.session = { loaded with silenceAll := loaded.silenceAll || args.quietWrites } ∧
      r.stateFile = args.state := by
    unfold setupRecord
    rw [List.foldl_append, List.foldl_append]
    cases boot : args.boot with
    | none =>
        rw [boot] at h
        obtain ⟨e₂, s₄, same, h⟩ := returns_bind.1 h
        obtain ⟨u₁, s₅, -, h⟩ := returns_bind.1 h
        obtain ⟨u₂, s₆, -, h⟩ := returns_bind.1 h
        rw [(returns_pure.1 h).1, (returns_pure.1 same).1]
        exact ⟨stored, rfl, rfl⟩
    | some text =>
        rw [boot] at h
        obtain ⟨e₂, s₄, set, h⟩ := returns_bind.1 h
        obtain ⟨u₁, s₅, -, h⟩ := returns_bind.1 h
        obtain ⟨u₂, s₆, -, h⟩ := returns_bind.1 h
        have asked := e₁.nvram_setSetting text
        rw [(returns_orStop.1 set).1, stored] at asked
        rw [(returns_pure.1 h).1]
        exact ⟨asked, rfl, rfl⟩
  exact ⟨record.1, record.2.1, ⟨applicable.setting, applicable.units⟩, record.2.2⟩

end Run

end BankedZ80
