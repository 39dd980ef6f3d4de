import BankedZ80.Proofs.CommandLine.SaveDisks
import BankedZ80.Proofs.CommandLine.Setup

/-!
# The boot setting outlives the run

Every turn asks once, after its batch, whether the boot record has changed, and saves the session if
it has. So between turns the state file is as it was, or it holds the current setting: `Run.Kept` is
that invariant, `Run.Kept.turn` its step and `Run.Kept.turns` the run up to the halt, whose last turn
asks like any other.

`Run.recorded` lists what the guest does to the boot record in a batch, and `Run.setupRecord` what
was done before the first; `Run.setting_outlives_run` says that the file at the end holds the final
setting if one of all these actions changed the record, and that it is untouched if none did. The host
is any that keeps files, and its clock may tell the guest whatever it likes.
-/

namespace BankedZ80

open HostProgram (Host)

namespace Run

section AnyHost

variable {σ ι : Type} {host : Host σ} {files : HostFiles σ ι} {r r' : Run} {s s' : σ} {path : String}
  {file : ι}

/-! ### One turn -/

/-- What a turn does to the boot record: the actions of its batch, and the question. -/
def recorded (r : Run) (clock : Clock) : List NvramAction :=
  r.engine.recordActions (.host (.runFor clock r.engine.config.batchInstructions.toNat)) ++ [.ask]

/-- The path of the file that the guest exports in a turn, if it does. -/
def exported? (r : Run) (clock : Clock) : Option String :=
  r.transfer.exported? (r.engine.runBatch clock).2.devices.hostFile

/-- A turn up to its question: the batch has been run and its output written, and the guest served. -/
def served (r : Run) (clock : Clock) : HostProgram (BatchOutcome × Run) := do
  let (result, e) := r.engine.runBatch clock
  match result.delivered with
  | none => pure ()
  | some bytes => HostProgram.write bytes
  let (_, e) ← r.transfer.service e
  let r ← warn { r with engine := e }
  return (result.report.outcome, r)

theorem turn_eq (r : Run) :
    r.turn = HostProgram.askClock.bind fun clock => (r.served clock).bind fun a =>
      a.2.keepSetting.bind fun r' => .done (a.1, r') := by
  unfold turn served
  rw [HostProgram.bind_eq]
  congr 1
  funext clock
  dsimp only
  cases (r.engine.runBatch clock).1.delivered <;>
    simp only [HostProgram.bind_eq, HostProgram.pure_eq, HostProgram.bind_assoc,
      HostProgram.done_bind]

/-- Up to its question a turn writes no file but the one that the guest exports, and does nothing to the
boot record but what its batch does. -/
theorem obeys_served (r : Run) (clock : Clock) :
    (r.served clock).Obeys (fun path => path ∈ r.exported? clock) fun a =>
      a.1 = (r.engine.runBatch clock).1.report.outcome ∧
        ∃ e, a.2 = { r with engine := e } ∧
          e.devices.nvram = (r.engine.runBatch clock).2.devices.nvram := by
  unfold served exported?
  generalize r.engine.runBatch clock = batch
  obtain ⟨result, e₀⟩ := batch
  dsimp only
  have serve : ((r.transfer.service e₀).bind fun a => (warn { r with engine := a.2 }).bind fun r' =>
      .done (result.report.outcome, r')).Obeys
        (fun path => path ∈ r.transfer.exported? e₀.devices.hostFile) fun a =>
          a.1 = result.report.outcome ∧
            ∃ e, a.2 = { r with engine := e } ∧ e.devices.nvram = e₀.devices.nvram := by
    refine HostProgram.Obeys.bind (r.transfer.obeys_service e₀ fun _ => id) fun a same => ?_
    obtain ⟨device, same⟩ := same
    have warned : (warn { r with engine := a.2 }).Obeys
        (fun path => path ∈ r.transfer.exported? e₀.devices.hostFile)
        fun r' => r' = { r with engine := a.2.takeWarning.2 } := by
      unfold warn
      dsimp only
      split
      · exact .pure rfl
      · exact HostProgram.Obeys.bind (.say _) fun _ _ => .pure rfl
    refine HostProgram.Obeys.bind warned fun r' same' => .pure ⟨rfl, _, same', ?_⟩
    rw [same]
    rfl
  split
  · exact serve
  · exact HostProgram.Obeys.bind (.write _) fun _ _ => serve

/-- The session to keep. -/
def current (r : Run) : Session := { r.session with setting := r.engine.setting }

/-- **Keeping the setting** saves the session with the new setting if the record has changed. -/
theorem keepSetting_run (state : r.stateFile = some path) (s : σ) :
    r.keepSetting.run host s =
      if r.engine.devices.nvram.changed then
        ({ r with engine := r.engine.takeSettingChange.2, session := r.current },
          (host.writeFile path (Bytes.ofList r.current.toText) s).2)
      else ({ r with engine := r.engine.takeSettingChange.2 }, s) := by
  have asked : r.engine.takeSettingChange.1 = r.engine.devices.nvram.changed := rfl
  have setting : r.engine.takeSettingChange.2.setting = r.engine.setting := rfl
  unfold keepSetting current
  dsimp only
  rw [asked, setting]
  split
  · rw [state]
    dsimp only
    rw [HostProgram.bind_eq, Session.save, HostProgram.run_putFile]
    split <;> rfl
  · rfl

theorem written_of_accepted (state : r.stateFile = some path)
    (changed : r.engine.devices.nvram.changed = true)
    (accepted : path ∉ r.keepSetting.refusedPaths host s) :
    (host.writeFile path (Bytes.ofList r.current.toText) s).1 = true := by
  have asked : r.engine.takeSettingChange.1 = true := changed
  have setting : r.engine.takeSettingChange.2.setting = r.engine.setting := rfl
  unfold keepSetting at accepted
  dsimp only at accepted
  rw [asked, if_pos rfl, state, setting] at accepted
  dsimp only at accepted
  rw [HostProgram.bind_eq, Session.save, HostProgram.refusedPaths_putFile, List.mem_append,
    not_or] at accepted
  cases written : (host.writeFile path (Bytes.ofList r.current.toText) s).1 with
  | true => rfl
  | false =>
      refine absurd ?_ accepted.1
      rw [← current, written]
      exact List.mem_cons_self

/-- A turn comes to its question with the boot record that its batch leaves, and with all files as they
were but the one that the guest exports. -/
theorem turn_run (kept : files.KeptBy host) (r : Run) (s : σ) :
    ∃ e s₁, e.devices.nvram = (r.engine.runBatch (host.clock s).1).2.devices.nvram ∧
      (∀ path, files.leads path s₁ = files.leads path s) ∧
      (∀ file, (∀ exported ∈ r.exported? (host.clock s).1, files.leads exported s ≠ some file) →
        files.contents file s₁ = files.contents file s) ∧
      (∀ path ∈ (keepSetting { r with engine := e }).refusedPaths host s₁,
        path ∈ r.turn.refusedPaths host s) ∧
      r.turn.run host s =
        let question := (keepSetting { r with engine := e }).run host s₁
        (((r.engine.runBatch (host.clock s).1).1.report.outcome, question.1), question.2) := by
  have time := kept.clock s
  have first : HostProgram.askClock.run host s = host.clock s := rfl
  rw [turn_eq, HostProgram.run_bind, HostProgram.refusedPaths_bind, first]
  generalize host.clock s = now at time
  obtain ⟨clock, s₀⟩ := now
  dsimp only at time ⊢
  obtain ⟨⟨outcome, e, same, nvram⟩, paths⟩ := (r.obeys_served clock).run host s₀
  have leads (path : String) : files.leads path ((r.served clock).run host s₀).2 = files.leads path s :=
    (kept.leads_run (r.served clock) s₀ path).trans (time.leads path)
  have contents (file : ι) (apart : ∀ exported ∈ r.exported? clock, files.leads exported s ≠ some file) :
      files.contents file ((r.served clock).run host s₀).2 = files.contents file s :=
    (kept.contents_run (r.served clock) s₀ fun path mem =>
      time.leads path ▸ apart path (paths path mem)).trans (time.contents file)
  refine ⟨e, ((r.served clock).run host s₀).2, nvram, leads, contents, fun path refused => ?_, ?_⟩
  · rw [HostProgram.refusedPaths_bind, HostProgram.refusedPaths_bind, same]
    exact List.mem_append_right _ (List.mem_append_right _ (List.mem_append_left _ refused))
  · rw [HostProgram.run_bind, HostProgram.run_bind, same, outcome]
    rfl

/-! ### Between turns -/

/-- Between turns the state file is as it was, if nothing has changed the boot record; else it holds the
current setting, unless the question has not been asked since the change. -/
structure Kept (files : HostFiles σ ι) (path : String) (file : ι) (loaded : Session)
    (before : Option ByteArray) (record : List NvramAction) (r : Run) (s : σ) : Prop where
  nvram : r.engine.devices.nvram = record.foldl Nvram.after {}
  stateFile : r.stateFile = some path
  leads : files.leads path s = some file
  session : r.session = { loaded with setting := r.session.setting }
  untouched : Nvram.everChanged {} record = false → files.contents file s = before
  saved : Nvram.everChanged {} record = true → r.engine.devices.nvram.changed = false →
    r.session.setting = r.engine.setting ∧
      files.contents file s = some (Bytes.ofList r.session.toText)

variable {loaded : Session} {before : Option ByteArray} {record : List NvramAction}

theorem ask_not_mem_guest (b : Board) (actions : List GuestAction) :
    NvramAction.ask ∉ b.recordHistory actions := by
  induction actions generalizing b with
  | nil => exact List.not_mem_nil
  | cons a rest ih =>
      rw [Board.recordHistory, List.mem_append, not_or]
      refine ⟨?_, ih _⟩
      unfold Board.recordActions
      split
      · split <;> simp
      · exact List.not_mem_nil

/-- A batch asks nothing. -/
theorem ask_not_mem_batch (e : Engine) (clock : Clock) (budget : Nat) :
    NvramAction.ask ∉ e.recordActions (.host (.runFor clock budget)) := by
  unfold Engine.recordActions
  dsimp only
  split
  · exact ask_not_mem_guest _ _
  · exact List.not_mem_nil

/-- **A turn keeps the setting**, whatever the guest does in its batch, if the state file can be
written. -/
theorem Kept.turn (kept : files.KeptBy host) (h : Kept files path file loaded before record r s)
    (apart : ∀ exported ∈ r.exported? (host.clock s).1, files.leads exported s ≠ some file)
    (accepted : path ∉ r.turn.refusedPaths host s) :
    Kept files path file loaded before (record ++ r.recorded (host.clock s).1)
      (r.turn.run host s).1.2 (r.turn.run host s).2 := by
  obtain ⟨e, s₁, batch, leads, contents, refused, ran⟩ := turn_run kept r s
  have leads := (leads path).trans h.leads
  have same := contents file apart
  have accepted : path ∉ (keepSetting { r with engine := e }).refusedPaths host s₁ :=
    fun mem => accepted (refused path mem)
  rw [ran]
  unfold recorded
  generalize (host.clock s).1 = clock at batch
  generalize written : r.engine.recordActions
    (.host (.runFor clock r.engine.config.batchInstructions.toNat)) = actions
  have nvram : e.devices.nvram = actions.foldl Nvram.after r.engine.devices.nvram := by
    rw [batch, ← written]
    exact r.engine.nvram_runFor clock _
  have flag : e.devices.nvram.changed =
      (r.engine.devices.nvram.changed || r.engine.devices.nvram.everChanged actions) := by
    rw [nvram]
    exact Nvram.changed_foldl_of_unasked (written ▸ ask_not_mem_batch _ _ _)
  have ever : Nvram.everChanged {} (record ++ (actions ++ [NvramAction.ask])) =
      (Nvram.everChanged {} record || r.engine.devices.nvram.everChanged actions) := by
    rw [Nvram.everChanged_append, Nvram.everChanged_append, ← h.nvram]
    simp [Nvram.everChanged, Nvram.changedBy]
  have asked : e.takeSettingChange.2.devices.nvram =
      (record ++ (actions ++ [NvramAction.ask])).foldl Nvram.after {} := by
    rw [List.foldl_append, List.foldl_append, ← h.nvram, ← nvram]
    rfl
  dsimp only
  rw [keepSetting_run (r := { r with engine := e }) h.stateFile]
  dsimp only
  cases changed : e.devices.nvram.changed with
  | true =>
      rw [if_pos rfl]
      refine ⟨asked, h.stateFile, (kept.leads_write path _ s₁ path).trans leads, ?_, fun never => ?_,
        fun _ _ => ⟨rfl, kept.written leads (written_of_accepted h.stateFile changed accepted)⟩⟩
      · exact congrArg (fun session : Session => { session with setting := e.setting }) h.session
      · -- The flag is up, so something has changed the record, before this turn or in it.
        obtain ⟨before, during⟩ := Bool.or_eq_false_iff.1 (ever.symm.trans never)
        rw [changed, during, Bool.or_false, h.nvram] at flag
        rcases Nvram.everChanged_of_changed flag.symm with fresh | changed
        · cases fresh
        · cases changed.symm.trans before
  | false =>
      rw [if_neg Bool.false_ne_true]
      obtain ⟨down, during⟩ := Bool.or_eq_false_iff.1 (flag.symm.trans changed)
      rw [during, Bool.or_false] at ever
      have setting : e.setting = r.engine.setting := by
        refine Nvram.setting_congr ?_
        rw [nvram, Nvram.bytes_foldl during]
      refine ⟨asked, h.stateFile, leads, h.session, fun never => ?_, fun once _ => ?_⟩
      · exact same.trans (h.untouched (ever.symm.trans never))
      · obtain ⟨current, held⟩ := h.saved (ever.symm.trans once) down
        exact ⟨current.trans setting.symm, same.trans held⟩

/-! ### All turns -/

/-- The run and its host's state at the beginning of each turn. -/
def reached (host : Host σ) (r : Run) : Nat → σ → List (Run × σ)
  | 0, _ => []
  | batches + 1, s =>
    let (turn, s') := r.turn.run host s
    (r, s) :: if turn.1.shouldContinue then turn.2.reached host batches s' else []

/-- What the turns do to the boot record. -/
def recordHistory (host : Host σ) (r : Run) (batches : Nat) (s : σ) : List NvramAction :=
  (r.reached host batches s).flatMap fun turn => turn.1.recorded (host.clock turn.2).1

/-- **All turns keep the setting**, and the last one has asked. By induction on the number of batches. -/
theorem Kept.turns (kept : files.KeptBy host) (h : Kept files path file loaded before record r s)
    {batches : Nat}
    (apart : ∀ turn ∈ r.reached host batches s, ∀ exported ∈ turn.1.exported? (host.clock turn.2).1,
      files.leads exported s ≠ some file)
    (accepted : path ∉ (r.turns batches).refusedPaths host s)
    (halted : (r.turns batches).run host s = (some r', s')) :
    Kept files path file loaded before (record ++ r.recordHistory host batches s) r' s' ∧
      r'.engine.devices.nvram.changed = false := by
  induction batches generalizing r s record with
  | zero => cases halted
  | succ batches ih =>
      have now : r.reached host (batches + 1) s = (r, s) ::
          if (r.turn.run host s).1.1.shouldContinue then
            (r.turn.run host s).1.2.reached host batches (r.turn.run host s).2
          else [] := rfl
      rw [turns, HostProgram.bind_eq, HostProgram.run_bind] at halted
      rw [turns, HostProgram.bind_eq, HostProgram.refusedPaths_bind, List.mem_append, not_or] at accepted
      have step := h.turn kept (apart (r, s) (now ▸ List.mem_cons_self)) accepted.1
      have asked : (r.turn.run host s).1.2.engine.devices.nvram.changed = false := by
        rw [step.nvram, recorded, ← List.append_assoc, List.foldl_append]
        rfl
      have leads := kept.leads_run r.turn s
      rw [recordHistory, now, List.flatMap_cons, ← List.append_assoc]
      rw [now] at apart
      generalize r.turn.run host s = t at step asked leads halted apart accepted
      obtain ⟨⟨outcome, r₁⟩, s₁⟩ := t
      dsimp only at step asked leads halted apart accepted ⊢
      cases goOn : outcome.shouldContinue with
      | true =>
          rw [goOn, if_pos rfl] at halted apart accepted
          rw [if_pos rfl]
          refine ih step (fun turn mem exported mem' => ?_) accepted.2 halted
          rw [leads]
          exact apart turn (List.mem_cons_of_mem _ mem) exported mem'
      | false =>
          rw [goOn, if_neg Bool.false_ne_true] at halted
          rw [if_neg Bool.false_ne_true]
          cases halted
          rw [List.flatMap_nil, List.append_nil]
          exact ⟨step, asked⟩

/-! ### Whole runs -/

theorem ask_not_mem_setupRecord (args : Arguments) (bundle : Option LoadedBundle) (loaded : Session) :
    NvramAction.ask ∉ setupRecord args bundle loaded := by
  unfold setupRecord Build.record Session.record
  split <;> simp

/-- A run at its start has saved nothing. -/
theorem StartsFrom.kept {args : Arguments} {bundle : Option LoadedBundle}
    (h : StartsFrom args bundle loaded r) (state : args.state = some path)
    (leads : files.leads path s = some file) :
    Kept files path file r.session (files.contents file s) (setupRecord args bundle loaded) r s where
  nvram := h.record
  stateFile := h.stateFile.trans state
  leads := leads
  session := rfl
  untouched _ := rfl
  saved once down := by
    rw [h.record, Nvram.changed_foldl_of_unasked (ask_not_mem_setupRecord args bundle loaded), once] at down
    cases down

/-- The session that a run leaves: the current setting, with what the loaded session and the command
line say about warnings. -/
def lastSession (args : Arguments) (loaded : Session) (setting : String) : Session where
  setting := setting
  silenceAll := loaded.silenceAll || args.quietWrites
  silencedUnits := loaded.silencedUnits

/-- The setting is in the state file at the end of a run, if anything was done to the boot record; if
nothing was, the file is as it was. Either way an engine that is brought to the session has the same
setting, unless that is empty. -/
structure SettingOutlives (files : HostFiles σ ι) (host : Host σ) (path : String) (file : ι)
    (record : List NvramAction) (last : Session) (before after : σ) : Prop where
  saved : Nvram.everChanged {} record = true →
    files.contents file after = some (Bytes.ofList last.toText) ∧ Session.ofText? last.toText = some last
  /-- So it is loaded by the next run, if that can read the file. -/
  loaded : Nvram.everChanged {} record = true → ∀ bytes, host.readFile path after = .ok bytes →
    (Session.load path).run host after = (.ok last, after)
  untouched : Nvram.everChanged {} record = false →
    files.contents file after = files.contents file before
  reproduced : last.setting ≠ "" →
    ∀ e, ∃ e', last.apply.runOn e = (.ok (), e') ∧ e'.setting = last.setting

/-- **No change of the boot record is lost at the exit**: whatever the host, its files and its clock, the
command line and the guest, if a run starts with a state file that is no disk file and no exported file,
no save of it fails, and the guest halts. -/
theorem setting_outlives_run (kept : files.KeptBy host) {words : List String} {args : Arguments}
    (parsed : Arguments.parse words = .ok args) {s s₁ s₂ : σ} {r r' : Run} {batches : Nat}
    (started : (start args).run.run host s = (.ok r, s₁))
    (halted : (r.turns batches).run host s₁ = (some r', s₂)) {path : String} {file : ι}
    (state : args.state = some path) (leads : files.leads path s = some file)
    (writable : path ∉ (r.turns batches).refusedPaths host s₁)
    (disks : ∀ d ∈ args.disks, files.leads d.path s ≠ some file)
    (exports : ∀ turn ∈ r.reached host batches s₁,
      ∀ exported ∈ turn.1.exported? (host.clock turn.2).1, files.leads exported s ≠ some file) :
    ∃ code s' bundle s₀ loaded, (commandLine words batches).run host s = (some code, s') ∧
      (Build.bundle args).run.run host s = (.ok bundle, s₀) ∧
      (Session.load path).run host s = (.ok loaded, s) ∧
      SettingOutlives files host path file
        (setupRecord args bundle loaded ++ r.recordHistory host batches s₁)
        (lastSession args loaded r'.engine.setting) s s' := by
  obtain ⟨result, setup, yields⟩ : HostAction.Yields host s (start args) _ := yields_start args
  obtain ⟨bundle, s₀, loaded, bundled, load, starts⟩ := start_returns state started
  cases started.symm.trans setup
  obtain ⟨-, paths, -⟩ := yields r rfl
  obtain ⟨turned, down⟩ := (starts.kept state leads).turns kept exports writable halted
  have whole := run_commandLine parsed started halted
  refine ⟨_, _, bundle, s₀, loaded, whole, bundled, load, ?_⟩
  -- The end of the run writes disk files, and the state file is none of them.
  have finished : files.contents file (r'.finish.run host s₂).2 = files.contents file s₂ := by
    refine kept.contents_run r'.finish s₂ fun written mem => ?_
    obtain ⟨f, noted, rfl⟩ := mem_writtenPaths_finish mem
    have continues := ((r.obeys_turns batches).run host s).1 r'
    have led := kept.leads_run (r.turns batches) s f.path
    rw [halted] at continues led
    rw [(continues rfl).diskFiles] at noted
    obtain ⟨d, mem, same⟩ : ∃ d ∈ args.disks, d.path = f.path :=
      List.mem_map.1 (paths ▸ List.mem_map_of_mem noted)
    rw [led, ← same]
    exact disks d mem
  have after : files.leads path (r'.finish.run host s₂).2 = some file :=
    (kept.leads_run r'.finish s₂ path).trans turned.leads
  have units : ∀ n ∈ (lastSession args loaded r'.engine.setting).silencedUnits, n < maxUnits :=
    starts.applicable.units
  have large (n : Nat) (mem : n ∈ (lastSession args loaded r'.engine.setting).silencedUnits) :
      n < 2 ^ 64 := Nat.lt_trans (units n mem) (by decide)
  have saved (once : Nvram.everChanged {}
        (setupRecord args bundle loaded ++ r.recordHistory host batches s) = true) :
      files.contents file (r'.finish.run host s₂).2 =
        some (Bytes.ofList (lastSession args loaded r'.engine.setting).toText) := by
    obtain ⟨current, held⟩ := turned.saved once down
    have last : r'.session = lastSession args loaded r'.engine.setting := by
      rw [turned.session, starts.session, current]
      rfl
    rw [finished, held, last]
  constructor
  case saved => exact fun once => ⟨saved once, Session.ofText?_toText large⟩
  case loaded =>
      intro once bytes read
      obtain rfl := Option.some.inj ((kept.read after read).symm.trans (saved once))
      exact Session.load_of_saved large read
  case untouched => exact fun never => finished.trans (turned.untouched never)
  case reproduced =>
      intro nonempty e
      have intact : r'.engine.devices.nvram.Intact := by
        rw [turned.nvram]
        have sealed : Nvram.Sealed {} := rfl
        exact (sealed.foldl _).intact
      have named : r'.engine.setting = "" ∨ ∃ o, BootOption.parse? r'.engine.setting = some o :=
        intact.setting.imp id fun ⟨o, _, names, _⟩ => ⟨o, names⟩
      exact Session.setting_apply ⟨named, units⟩ intact rfl nonempty e

end AnyHost

/-! ### A run that changes the record -/

open FileTree

/-- A command line with a state file, and nothing in it about the boot option. -/
def signingWords : List String :=
  ["--config", "/etc/c.json", "--rom", "../r.rom", "--state", "/var/s.json", "--quiet-writes"]

/-- A whole file system with its files, and a clock that goes on. The guest writes the signature of the
boot record and halts. -/
def signingComputer : Computer where
  tree.files :=
    [(["etc".toList, "c.json".toList], "\x7b\"sectorSize\":128\x7d".toUTF8),
      (["home".toList, "r.rom".toList], romPage [0x3E, 0x57, 0xD3, 0xA1, 0x76]),
      (["var".toList, "s.json".toList], "\x7b\"suppressedUnits\":[3]\x7d".toUTF8)]
  tree.directories := [["home".toList, "user".toList]]
  tree.workingDirectory := some ["home".toList, "user".toList]
  now := ⟨fun n => (1700000000 + n).toUInt64⟩

theorem signing_stages_any :
    (stages? signingWords 2 signingComputer).any
      (fun (args, (r, s₁), (r', _)) =>
        args.state = some "/var/s.json" ∧ args.disks = [] ∧
        (r.turns 2).refusedPaths host s₁ = [] ∧
        (r.reached host 2 s₁).all (fun turn => (turn.1.exported? (host.clock turn.2).1).isNone) = true ∧
        r'.engine.setting = "H") = true := by
  decide +kernel

theorem signed_setting_outlives :
    ∃ args r s₁ r' s₂,
      stages? signingWords 2 signingComputer = some (args, (r, s₁), (r', s₂)) ∧
      r'.engine.setting = "H" ∧
      ∃ code s' bundle s₀ loaded,
        (commandLine signingWords 2).run host signingComputer = (some code, s') ∧
        (Build.bundle args).run.run host signingComputer = (.ok bundle, s₀) ∧
        (Session.load "/var/s.json").run host signingComputer = (.ok loaded, signingComputer) ∧
        SettingOutlives places host "/var/s.json" ["var".toList, "s.json".toList]
          (setupRecord args bundle loaded ++ r.recordHistory host 2 s₁)
          (lastSession args loaded r'.engine.setting) signingComputer s' := by
  obtain ⟨⟨args, ⟨r, s₁⟩, r', s₂⟩, stages, seen⟩ :=
    (Option.any_eq_true _ _).1 signing_stages_any
  obtain ⟨state, disks, writable, quiet, setting⟩ := of_decide_eq_true seen
  obtain ⟨parsed, started, halted⟩ := stages?_eq_some stages
  have leads : places.leads "/var/s.json" signingComputer = some ["var".toList, "s.json".toList] := by
    decide +kernel
  refine ⟨args, r, s₁, r', s₂, stages, setting,
    setting_outlives_run places_keptBy parsed started halted state leads ?_ ?_
      fun turn mem exported mem' => ?_⟩
  · rw [writable]
    exact List.not_mem_nil
  · rw [disks]
    exact nofun
  · have none := List.all_eq_true.1 quiet turn mem
    rw [Option.isNone_iff_eq_none.1 none] at mem'
    cases mem'

end Run

end BankedZ80
