import BankedZ80.Proofs.SharedEngine.History

/-!
# Threads with shared handles

Threads that use handles at the same time. A batch call takes three steps, between which other threads
take theirs: it reads the flag, runs its batch under the lock, and lowers the flag if the batch was the
last. Every other call is one step.

* `Threads.Step` is a step of a thread, labelled with what the thread sees, and `Threads.Run` a trace of
  such steps. A trace determines where it leads (`Run.unique`).
* Without interruption the steps of a batch call are `SharedEngine.runBatchReport` (`run_batchSteps`), so
  that every history of handles is a trace (`exists_run_of_history`).
* `running_run` reads the flag off a trace.
* `lowerFlag_mem_of_returned` and `ran_of_lowerFlag_mem` follow a batch call from its batch to its last
  step.
-/

namespace BankedZ80

/-- How far a batch call has come. -/
inductive BatchStage where
  /-- It has found the flag up, and its batch is next. -/
  | allowed
  /-- Its batch has run, and the flag is to be lowered if that was the last. -/
  | ran (result : BatchResult)

/-- A batch call that has not returned. -/
structure CallInFlight where
  handle : Nat
  stage : BatchStage

/-- Where a batch call is after its batch; a refused one returns. -/
def CallInFlight.ofResult (i : Nat) : Except MachineError BatchResult → Option CallInFlight
  | .ok r => some ⟨i, .ran r⟩
  | .error _ => none

/-- Threads between two steps: what their handles share, and the batch call that each thread is in. -/
structure Threads where
  handles : SharedHandles
  inFlight : Nat → Option CallInFlight

/-- What a thread does in one step, with what it sees. The middle three are the steps of a batch call. -/
inductive ThreadAction (α : Type) where
  | call (c : SharedCall α)
  | readFlag (flag : Bool)
  | batch (clock : Clock) (result : Except MachineError BatchResult)
  | lowerFlag (result : BatchResult)

/-- A step of a thread through a handle. -/
structure ThreadEvent (α : Type) where
  thread : Nat
  handle : Nat
  action : ThreadAction α

namespace SharedCall

variable {α : Type}

/-- Is a call a batch? -/
def isBatch : SharedCall α → Bool
  | .runBatch _ | .runBatchReport _ => true
  | _ => false

/-- Does a call give its handle up? -/
def givesUp : SharedCall α → Bool
  | .drop | .intoEngine => true
  | _ => false

end SharedCall

namespace ThreadEvent

variable {α : Type}

/-- Does a step lower the flag: a stop, or the last step of a batch call whose report does not continue? -/
def lowers (ev : ThreadEvent α) : Bool :=
  match ev.action with
  | .call .stop => true
  | .lowerFlag r => !r.report.outcome.shouldContinue
  | _ => false

theorem lowers_iff {ev : ThreadEvent α} : ev.lowers = true ↔
    ev.action = .call .stop ∨
      ∃ r, ev.action = .lowerFlag r ∧ r.report.outcome.shouldContinue = false := by
  obtain ⟨t, i, action⟩ := ev
  cases action with
  | call c => cases c <;> simp [lowers]
  | readFlag flag | batch clock result | lowerFlag r => simp [lowers]

end ThreadEvent

namespace Threads

variable {α : Type}

/-- Threads that share an engine through a first handle. -/
def ofEngine (e : Engine) : Threads := { handles := .ofEngine e, inFlight := fun _ => none }

/-- A thread comes to a stage of a batch call, or out of it. -/
def move (s : Threads) (t : Nat) (call : Option CallInFlight) (shared : SharedEngine) : Threads where
  handles := { s.handles with shared }
  inFlight u := if u = t then call else s.inFlight u

/-- The threads after a call through a handle. -/
def called (s : Threads) (i : Nat) (c : SharedCall α) : Threads :=
  { s with handles := s.handles.after i c }

/-- The threads after the last step of a batch call. -/
def lowered (s : Threads) (t : Nat) (r : BatchResult) : Threads :=
  s.move t none (s.handles.shared.lowerFlag r)

/-- A step of a thread. A thread that is in no batch call makes any other call at once, and a handle is
given up only while no batch call goes through it. -/
inductive Step : Threads → ThreadEvent α → Threads → Prop
  | call {s : Threads} {t i : Nat} {c : SharedCall α} (free : s.inFlight t = none)
      (live : i ∈ s.handles.live) (whole : c.isBatch = false)
      (unused : c.givesUp = true → ∀ u call, s.inFlight u = some call → call.handle ≠ i) :
      Step s ⟨t, i, .call c⟩ (s.called i c)
  | readFlag {s : Threads} {t i : Nat} (free : s.inFlight t = none) (live : i ∈ s.handles.live) :
      Step s ⟨t, i, .readFlag s.handles.shared.readFlag⟩
        (s.move t (if s.handles.shared.readFlag then some ⟨i, .allowed⟩ else none) s.handles.shared)
  | batch {s : Threads} {t i : Nat} (allowed : s.inFlight t = some ⟨i, .allowed⟩) (clock : Clock) :
      Step s ⟨t, i, .batch clock (s.handles.shared.lockedBatch clock).1⟩
        (s.move t (CallInFlight.ofResult i (s.handles.shared.lockedBatch clock).1)
          (s.handles.shared.lockedBatch clock).2)
  | lowerFlag {s : Threads} {t i : Nat} {r : BatchResult} (ran : s.inFlight t = some ⟨i, .ran r⟩) :
      Step s ⟨t, i, .lowerFlag r⟩ (s.lowered t r)

/-- Steps in a row, with their trace. -/
inductive Run : Threads → List (ThreadEvent α) → Threads → Prop
  | nil {s : Threads} : Run s [] s
  | cons {s m s' : Threads} {ev : ThreadEvent α} {rest : List (ThreadEvent α)} :
      Step s ev m → Run m rest s' → Run s (ev :: rest) s'

variable {s m s' : Threads} {ev : ThreadEvent α} {t i : Nat} {r : BatchResult}
  {trace first rest : List (ThreadEvent α)}

@[simp] theorem inFlight_move (s : Threads) (t : Nat) (call : Option CallInFlight)
    (shared : SharedEngine) : (s.move t call shared).inFlight t = call := if_pos rfl

theorem inFlight_move_of_ne {u : Nat} (other : u ≠ t) (s : Threads) (call : Option CallInFlight)
    (shared : SharedEngine) : (s.move t call shared).inFlight u = s.inFlight u := if_neg other

theorem move_move (s : Threads) (t : Nat) (call call' : Option CallInFlight)
    (shared shared' : SharedEngine) :
    (s.move t call shared).move t call' shared' = s.move t call' shared' := by
  unfold move
  congr
  funext u
  dsimp only
  split <;> rfl

/-- A thread that is in no batch call stays in none. -/
theorem move_of_free (free : s.inFlight t = none) (shared : SharedEngine) :
    s.move t none shared = { s with handles := { s.handles with shared } } := by
  unfold move
  congr
  funext u
  split
  · next same => rw [same, free]
  · rfl

theorem run_append : Run s (first ++ rest) s' ↔ ∃ m, Run s first m ∧ Run m rest s' := by
  induction first generalizing s with
  | nil => exact ⟨fun ran => ⟨s, .nil, ran⟩, by rintro ⟨m, ⟨⟩, ran⟩; exact ran⟩
  | cons ev first ih =>
      constructor
      · rintro (_ | ⟨step, ran⟩)
        obtain ⟨n, before, after⟩ := ih.1 ran
        exact ⟨n, .cons step before, after⟩
      · rintro ⟨n, _ | ⟨step, before⟩, after⟩
        exact .cons step (ih.2 ⟨n, before, after⟩)

/-- What the threads choose and see determines the step. -/
theorem Step.unique {m' : Threads} (step : Step s ev m) (step' : Step s ev m') : m = m' := by
  cases step <;> cases step' <;> rfl

theorem Run.unique {m' : Threads} (ran : Run s trace m) (ran' : Run s trace m') : m = m' := by
  induction ran with
  | nil =>
      cases ran'
      rfl
  | cons step ran ih =>
      cases ran' with
      | cons step' ran' =>
          cases step.unique step'
          exact ih ran'

/-! ### Calls without interruption -/

/-- The steps of a batch call, if no other thread takes one in between. -/
def batchSteps (t i : Nat) (shared : SharedEngine) (clock : Clock) : List (ThreadEvent α) :=
  ⟨t, i, .readFlag shared.readFlag⟩ ::
    if shared.readFlag then
      ⟨t, i, .batch clock (shared.lockedBatch clock).1⟩ ::
        match (shared.lockedBatch clock).1 with
        | .ok r => [⟨t, i, .lowerFlag r⟩]
        | .error _ => []
    else []

/-- Without interruption the three steps are the batch call of the shared engine. -/
theorem run_batchSteps (free : s.inFlight t = none) (live : i ∈ s.handles.live) (clock : Clock) :
    Run s (batchSteps t i s.handles.shared clock : List (ThreadEvent α))
      (s.called i (.runBatchReport clock : SharedCall α)) := by
  show Run s _ { s with handles :=
    { s.handles with shared := (s.handles.shared.runBatchReport clock).2 } }
  rw [← move_of_free free]
  have read := Step.readFlag (α := α) free live
  unfold batchSteps SharedEngine.runBatchReport
  cases flag : s.handles.shared.readFlag with
  | false =>
      rw [flag] at read
      exact .cons read .nil
  | true =>
      rw [flag] at read
      refine .cons read ?_
      have batch := Step.batch (α := α)
        (inFlight_move s t (some ⟨i, .allowed⟩) s.handles.shared) clock
      rw [move_move] at batch
      change Step _ ⟨t, i, .batch clock (s.handles.shared.lockedBatch clock).1⟩
        (s.move t (CallInFlight.ofResult i (s.handles.shared.lockedBatch clock).1)
          (s.handles.shared.lockedBatch clock).2) at batch
      generalize s.handles.shared.lockedBatch clock = locked at batch ⊢
      obtain ⟨result, shared⟩ := locked
      cases result with
      | error e => exact .cons batch .nil
      | ok r =>
          have last := Step.lowerFlag (α := α) (inFlight_move s t (some ⟨i, .ran r⟩) shared)
          rw [lowered, move_move] at last
          exact .cons batch (.cons last .nil)

/-- Any call can be made by a thread while no batch call is in flight. -/
theorem exists_run_call (free : ∀ u, s.inFlight u = none) (t : Nat) (live : i ∈ s.handles.live)
    (c : SharedCall α) :
    ∃ trace : List (ThreadEvent α), Run s trace (s.called i c) := by
  cases c with
  | runBatch clock | runBatchReport clock => exact ⟨_, run_batchSteps (free t) live clock⟩
  | _ =>
      refine ⟨_, .cons (.call (free t) live rfl fun _ u call inFlight => ?_) .nil⟩
      rw [free u] at inFlight
      cases inFlight

/-- **Histories are traces.** Calls one after the other are steps of a single thread. -/
theorem exists_run_of_history {h : SharedHandles} {past : List (Nat × SharedCall α)} (t : Nat)
    (free : ∀ u, s.inFlight u = none) (ran : s.handles.run past = some h) :
    ∃ trace : List (ThreadEvent α), Run s trace { s with handles := h } := by
  induction past generalizing s with
  | nil =>
      cases ran
      exact ⟨[], .nil⟩
  | cons entry past ih =>
      obtain ⟨live, ran⟩ := SharedHandles.run_cons.1 ran
      obtain ⟨now, called⟩ := exists_run_call free t live entry.2
      obtain ⟨later, rest⟩ := ih (s := s.called entry.1 entry.2) free ran
      exact ⟨now ++ later, run_append.2 ⟨_, called, rest⟩⟩

/-! ### The flag -/

theorem lowers_call {c : SharedCall α} (whole : c.isBatch = false) (shared : SharedEngine) :
    (⟨t, i, .call c⟩ : ThreadEvent α).lowers = shared.lowers c := by
  cases c with
  | runBatch clock | runBatchReport clock => cases whole
  | _ => rfl

/-- The last step of a batch call keeps the flag up if its report continues. -/
theorem running_lowered (s : Threads) (t : Nat) (r : BatchResult) :
    (s.lowered t r).handles.shared.running =
      (s.handles.shared.running && r.report.outcome.shouldContinue) := by
  show (s.handles.shared.lowerFlag r).running = _
  unfold SharedEngine.lowerFlag
  cases r.report.outcome.shouldContinue with
  | true => exact (Bool.and_true _).symm
  | false => exact (Bool.and_false _).symm

/-- The flag after a step is up if the step raises it, or was up and the step does not lower it. -/
theorem Step.running (step : Step s ev s') :
    s'.handles.shared.running = true ↔
      ev.action = .call .start ∨ s.handles.shared.running = true ∧ ev.lowers = false := by
  cases step with
  | @call t i c free live whole unused =>
      rw [lowers_call whole s.handles.shared, ThreadAction.call.injEq]
      exact s.handles.shared.running_perform c
  | readFlag free live =>
      rw [or_iff_right nofun]
      exact (and_iff_left rfl).symm
  | batch allowed clock =>
      rw [or_iff_right nofun]
      refine Iff.trans ?_ (and_iff_left rfl).symm
      rw [← SharedEngine.running_withEngine (s := s.handles.shared) (fun e => e.runBatch clock)]
      rfl
  | @lowerFlag t i r ran =>
      rw [or_iff_right nofun]
      rw [running_lowered, Bool.and_eq_true]
      show _ ↔ _ ∧ (!r.report.outcome.shouldContinue) = false
      rw [Bool.not_eq_false']

/-- A start in a trace that no later step takes back. -/
def LastingStart (trace : List (ThreadEvent α)) : Prop :=
  ∃ before start later, trace = before ++ start :: later ∧ start.action = .call .start ∧
    ∀ ev ∈ later, ev.lowers = false

theorem lastingStart_cons :
    LastingStart (ev :: rest) ↔
      ev.action = .call .start ∧ (∀ ev ∈ rest, ev.lowers = false) ∨ LastingStart rest := by
  constructor
  · rintro ⟨before, start, later, split, starts, kept⟩
    cases before with
    | nil =>
        cases split
        exact .inl ⟨starts, kept⟩
    | cons first before =>
        cases split
        exact .inr ⟨before, start, later, rfl, starts, kept⟩
  · rintro (⟨starts, kept⟩ | ⟨before, start, later, rfl, starts, kept⟩)
    · exact ⟨[], ev, rest, rfl, starts, kept⟩
    · exact ⟨ev :: before, start, later, rfl, starts, kept⟩

/-- **The flag after a trace.** By induction on the trace. -/
theorem running_run (ran : Run s trace s') :
    s'.handles.shared.running = true ↔
      s.handles.shared.running = true ∧ (∀ ev ∈ trace, ev.lowers = false) ∨ LastingStart trace := by
  induction ran with
  | nil =>
      refine ⟨fun up => .inl ⟨up, nofun⟩, ?_⟩
      rintro (⟨up, -⟩ | ⟨before, start, later, split, -⟩)
      · exact up
      · exact absurd split (by simp)
  | cons step ran ih =>
      rw [ih, step.running, lastingStart_cons, List.forall_mem_cons,
        or_and_right, and_assoc, or_assoc, or_left_comm]

/-! ### Batch calls in flight -/

/-- A thread stays where it is until its next step. -/
theorem Step.inFlight_of_ne (step : Step s ev s') (other : t ≠ ev.thread) :
    s'.inFlight t = s.inFlight t := by
  cases step with
  | call free live whole unused => rfl
  | readFlag free live => exact inFlight_move_of_ne other s _ _
  | batch allowed clock => exact inFlight_move_of_ne other s _ _
  | lowerFlag ran => exact inFlight_move_of_ne other s _ _

/-- After its batch, a batch call takes no step but its last. -/
theorem Step.lowerFlag_of_ran (step : Step s ev s') (ran : s.inFlight t = some ⟨i, .ran r⟩) :
    s'.inFlight t = some ⟨i, .ran r⟩ ∨ ev = ⟨t, i, .lowerFlag r⟩ := by
  by_cases own : t = ev.thread
  · subst own
    cases step with
    | call free live whole unused => exact .inl ran
    | readFlag free live =>
        rw [free] at ran
        cases ran
    | batch allowed clock =>
        rw [allowed] at ran
        cases ran
    | lowerFlag ran' =>
        rw [ran'] at ran
        cases ran
        exact .inr rfl
  · exact .inl ((step.inFlight_of_ne own).trans ran)

/-- A batch call comes to its last step by its batch. -/
theorem Step.batch_of_ran (step : Step s ev s') (ran : s'.inFlight t = some ⟨i, .ran r⟩) :
    s.inFlight t = some ⟨i, .ran r⟩ ∨ ∃ clock, ev = ⟨t, i, .batch clock (.ok r)⟩ := by
  by_cases own : t = ev.thread
  · subst own
    cases step with
    | call free live whole unused => exact .inl ran
    | readFlag free live =>
        rw [inFlight_move] at ran
        split at ran <;> cases ran
    | batch allowed clock =>
        rw [inFlight_move] at ran
        cases result : (s.handles.shared.lockedBatch clock).1 with
        | ok r' =>
            rw [result] at ran
            cases ran
            exact .inr ⟨clock, rfl⟩
        | error e =>
            rw [result] at ran
            cases ran
    | lowerFlag ran' =>
        rw [lowered, inFlight_move] at ran
        cases ran
  · exact .inl ((step.inFlight_of_ne own).symm.trans ran)

/-- A batch call that has run its batch does not return without its last step. By induction on the
trace. -/
theorem lowerFlag_mem_of_returned (steps : Run s trace s') (ran : s.inFlight t = some ⟨i, .ran r⟩)
    (returned : s'.inFlight t = none) : ⟨t, i, .lowerFlag r⟩ ∈ trace := by
  induction steps with
  | nil =>
      rw [ran] at returned
      cases returned
  | cons step steps ih =>
      rcases step.lowerFlag_of_ran ran with still | rfl
      · exact List.mem_cons_of_mem _ (ih still returned)
      · exact List.mem_cons_self

/-- The last step of a batch call comes after its batch, which is in the trace or was before it. By
induction on the trace. -/
theorem ran_of_lowerFlag_mem (steps : Run s trace s') (last : ⟨t, i, .lowerFlag r⟩ ∈ trace) :
    s.inFlight t = some ⟨i, .ran r⟩ ∨ ∃ clock, ⟨t, i, .batch clock (.ok r)⟩ ∈ trace := by
  induction steps with
  | nil => cases last
  | cons step steps ih =>
      rcases List.mem_cons.1 last with rfl | last
      · cases step with
        | lowerFlag ran => exact .inl ran
      · rcases ih last with ran | ⟨clock, batch⟩
        · rcases step.batch_of_ran ran with ran | ⟨clock, rfl⟩
          · exact .inl ran
          · exact .inr ⟨clock, List.mem_cons_self⟩
        · exact .inr ⟨clock, List.mem_cons_of_mem _ batch⟩

end Threads

end BankedZ80
