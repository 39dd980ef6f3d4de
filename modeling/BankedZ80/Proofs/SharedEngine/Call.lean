import BankedZ80.SharedEngine

/-!
# Calls through shared handles

All that can be done through a handle is a `SharedCall`, and `SharedEngine.perform` is the call on the
state that the handles share. A call changes the flag, the poison and the number of handles in few
ways (`running_perform`, `poisoned_perform`, `handles_perform`), and the engine only under a lock that
is not poisoned (`engine_perform`).
-/

namespace BankedZ80

/-- A call through a handle. Closures that are run on the engine return an `α`, or fail while they hold
the lock. -/
inductive SharedCall (α : Type) where
  | start
  | stop
  | isRunning
  | runBatch (clock : Clock)
  | runBatchReport (clock : Clock)
  | use (f : Engine → α × Engine)
  | fail (f : Engine → Engine)
  | queueInput (v : UInt8)
  | queueText (text : String)
  | clone
  | drop
  | intoEngine

/-- What a call gives back. -/
inductive SharedAnswer (α : Type) where
  | nothing
  | running (flag : Bool)
  | goOn (result : Except MachineError Bool)
  | report (result : Except MachineError (Option BatchResult))
  | used (result : Except MachineError α)
  | queued (result : Except MachineError Unit)
  | taken (result : Except MachineError Engine)
  /-- A failure of the closure, which goes on to the caller. -/
  | failure

/-- Was a call refused because the lock is poisoned? -/
def SharedAnswer.Refused {α : Type} : SharedAnswer α → Prop
  | goOn result => result = .error .lockPoisoned
  | report result => result = .error .lockPoisoned
  | used result => result = .error .lockPoisoned
  | queued result => result = .error .lockPoisoned
  | taken result => result = .error .lockPoisoned
  | nothing | running _ | failure => False

namespace SharedEngine

variable {α : Type} {s : SharedEngine}

/-- Make a call. -/
def perform (s : SharedEngine) : SharedCall α → SharedAnswer α × SharedEngine
  | .start => (.nothing, s.start)
  | .stop => (.nothing, s.stop)
  | .isRunning => (.running s.readFlag, s)
  | .runBatch clock => ((.goOn (s.runBatch clock).1), (s.runBatch clock).2)
  | .runBatchReport clock => (.report (s.runBatchReport clock).1, (s.runBatchReport clock).2)
  | .use f => (.used (s.withEngine f).1, (s.withEngine f).2)
  | .fail f => (if s.poisoned then .used (.error .lockPoisoned) else .failure, s.failWithEngine f)
  | .queueInput v => (.queued (s.queueInput v).1, (s.queueInput v).2)
  | .queueText text => (.queued (s.queueText text).1, (s.queueText text).2)
  | .clone => (.nothing, s.clone)
  | .drop => (.nothing, s.drop)
  | .intoEngine => (.taken s.intoEngine.1, s.intoEngine.2)

/-! ### Under the lock -/

theorem withEngine_of_poisoned (poisoned : s.poisoned = true) (f : Engine → α × Engine) :
    s.withEngine f = (.error .lockPoisoned, s) := if_pos poisoned

theorem withEngine_of_sound (sound : s.poisoned = false) (f : Engine → α × Engine) :
    s.withEngine f = (.ok (f s.engine).1, { s with engine := (f s.engine).2 }) := by
  unfold withEngine
  rw [sound]
  rfl

@[simp] theorem running_withEngine (f : Engine → α × Engine) :
    (s.withEngine f).2.running = s.running := by
  unfold withEngine
  split <;> rfl

@[simp] theorem poisoned_withEngine (f : Engine → α × Engine) :
    (s.withEngine f).2.poisoned = s.poisoned := by
  unfold withEngine
  split <;> rfl

@[simp] theorem handles_withEngine (f : Engine → α × Engine) :
    (s.withEngine f).2.handles = s.handles := by
  unfold withEngine
  split <;> rfl

@[simp] theorem running_failWithEngine (f : Engine → Engine) :
    (s.failWithEngine f).running = s.running := by
  unfold failWithEngine
  split <;> rfl

@[simp] theorem poisoned_failWithEngine (f : Engine → Engine) :
    (s.failWithEngine f).poisoned = true := by
  unfold failWithEngine
  split
  · next poisoned => exact poisoned
  · rfl

@[simp] theorem handles_failWithEngine (f : Engine → Engine) :
    (s.failWithEngine f).handles = s.handles := by
  unfold failWithEngine
  split <;> rfl

/-- Taking the engine back gives a handle up, whatever the answer. -/
@[simp] theorem state_intoEngine (s : SharedEngine) : s.intoEngine.2 = s.drop := by
  unfold intoEngine
  split
  · rfl
  · split <;> rfl

/-! ### Batches -/

theorem runBatchReport_of_stopped (stopped : s.running = false) (clock : Clock) :
    s.runBatchReport clock = (.ok none, s) := by
  unfold runBatchReport readFlag
  rw [stopped]
  rfl

theorem runBatchReport_of_poisoned (running : s.running = true) (poisoned : s.poisoned = true)
    (clock : Clock) : s.runBatchReport clock = (.error .lockPoisoned, s) := by
  unfold runBatchReport readFlag lockedBatch
  rw [running, withEngine_of_poisoned poisoned]
  rfl

theorem state_runBatchReport_of_poisoned (poisoned : s.poisoned = true) (clock : Clock) :
    (s.runBatchReport clock).2 = s := by
  cases running : s.running with
  | false => rw [runBatchReport_of_stopped running]
  | true => rw [runBatchReport_of_poisoned running poisoned]

/-- A batch that runs lowers the flag if its report does not continue. -/
theorem runBatchReport_of_running (running : s.running = true) (sound : s.poisoned = false)
    (clock : Clock) :
    s.runBatchReport clock =
      (.ok (some (s.engine.runBatch clock).1),
        { s with
          engine := (s.engine.runBatch clock).2
          running := (s.engine.runBatch clock).1.report.outcome.shouldContinue }) := by
  obtain ⟨engine, flag, poisoned, handles⟩ := s
  cases running
  cases sound
  unfold runBatchReport readFlag lockedBatch lowerFlag
  rw [withEngine_of_sound rfl]
  dsimp only
  cases (engine.runBatch clock).1.report.outcome.shouldContinue <;> rfl

/-- **A batch runs** exactly when the flag is up and the lock is not poisoned; then it is a batch of the
engine, and otherwise nothing changes. -/
theorem batch_runs_iff (s : SharedEngine) (clock : Clock) :
    (∃ result, (s.runBatchReport clock).1 = .ok (some result)) ↔
      s.running = true ∧ s.poisoned = false := by
  cases running : s.running with
  | false =>
      rw [runBatchReport_of_stopped running]
      exact ⟨fun ⟨_, h⟩ => (nomatch h), fun h => (nomatch h.1)⟩
  | true =>
      cases poisoned : s.poisoned with
      | true =>
          rw [runBatchReport_of_poisoned running poisoned]
          exact ⟨fun ⟨_, h⟩ => (nomatch h), fun h => (nomatch h.2)⟩
      | false =>
          rw [runBatchReport_of_running running poisoned]
          exact ⟨fun _ => ⟨rfl, rfl⟩, fun _ => ⟨_, rfl⟩⟩

/-- Does a call lower the flag: a stop, or a batch whose report does not continue? -/
def lowers (s : SharedEngine) : SharedCall α → Bool
  | .stop => true
  | .runBatch clock | .runBatchReport clock =>
    match (s.runBatchReport clock).1 with
    | .ok (some result) => !result.report.outcome.shouldContinue
    | _ => false
  | _ => false

/-- A batch leaves the flag up if it was, unless its report does not continue. -/
theorem running_runBatchReport (s : SharedEngine) (clock : Clock) :
    (s.runBatchReport clock).2.running = true ↔
      s.running = true ∧ s.lowers (.runBatchReport clock : SharedCall α) = false := by
  unfold lowers
  dsimp only
  cases running : s.running with
  | false =>
      rw [runBatchReport_of_stopped running, running]
      simp
  | true =>
      cases poisoned : s.poisoned with
      | true =>
          rw [runBatchReport_of_poisoned running poisoned, running]
          simp
      | false =>
          rw [runBatchReport_of_running running poisoned]
          simp

@[simp] theorem poisoned_runBatchReport (s : SharedEngine) (clock : Clock) :
    (s.runBatchReport clock).2.poisoned = s.poisoned := by
  cases running : s.running with
  | false => rw [runBatchReport_of_stopped running]
  | true =>
      cases poisoned : s.poisoned with
      | true => rw [runBatchReport_of_poisoned running poisoned, poisoned]
      | false => rw [runBatchReport_of_running running poisoned, poisoned]

@[simp] theorem handles_runBatchReport (s : SharedEngine) (clock : Clock) :
    (s.runBatchReport clock).2.handles = s.handles := by
  cases running : s.running with
  | false => rw [runBatchReport_of_stopped running]
  | true =>
      cases poisoned : s.poisoned with
      | true => rw [runBatchReport_of_poisoned running poisoned]
      | false => rw [runBatchReport_of_running running poisoned]

/-! ### One call -/

/-- **The flag after a call** is up if the call raises it, or was up and the call does not lower it. -/
theorem running_perform (s : SharedEngine) (c : SharedCall α) :
    (s.perform c).2.running = true ↔ c = .start ∨ s.running = true ∧ s.lowers c = false := by
  cases c with
  | start => exact iff_of_true rfl (.inl rfl)
  | stop => exact iff_of_false nofun (by rintro (h | ⟨-, h⟩) <;> cases h)
  | runBatchReport clock | runBatch clock =>
      rw [or_iff_right (by nofun)]
      exact running_runBatchReport (α := α) s clock
  | _ => simp [perform, lowers, queueInput, queueText, clone, drop]

/-- **The lock is poisoned** by a closure that fails, and by nothing else. -/
theorem poisoned_perform (s : SharedEngine) (c : SharedCall α) :
    (s.perform c).2.poisoned = true ↔ s.poisoned = true ∨ ∃ f, c = .fail f := by
  cases c with
  | fail f => exact iff_of_true (poisoned_failWithEngine f) (.inr ⟨f, rfl⟩)
  | _ => simp [perform, runBatch, queueInput, queueText, start, stop, clone, drop]

/-- How many handles there are after a call. -/
theorem handles_perform (s : SharedEngine) (c : SharedCall α) :
    (s.perform c).2.handles =
      match c with
      | .clone => s.handles + 1
      | .drop | .intoEngine => s.handles - 1
      | _ => s.handles := by
  cases c with
  | runBatch clock | runBatchReport clock => exact handles_runBatchReport s clock
  | _ => simp [perform, queueInput, queueText, start, stop, clone, drop]

/-- Does a call need the lock? A batch needs it once it has seen the flag up, and taking the engine back
once there is no other handle. -/
def NeedsLock (s : SharedEngine) : SharedCall α → Prop
  | .use _ | .fail _ | .queueInput _ | .queueText _ => True
  | .runBatch _ | .runBatchReport _ => s.running = true
  | .intoEngine => s.handles = 1
  | .start | .stop | .isRunning | .clone | .drop => False

/-- **A poisoned lock** keeps the engine as it is, and every call that needs the lock is refused. -/
theorem perform_of_poisoned (poisoned : s.poisoned = true) (c : SharedCall α) :
    (s.perform c).2.engine = s.engine ∧ (s.NeedsLock c → (s.perform c).1.Refused) := by
  cases c with
  | start | stop | isRunning | clone | drop => exact ⟨rfl, nofun⟩
  | use f =>
      rw [perform, withEngine_of_poisoned poisoned]
      exact ⟨rfl, fun _ => rfl⟩
  | fail f =>
      rw [perform, failWithEngine, if_pos poisoned, if_pos poisoned]
      exact ⟨rfl, fun _ => rfl⟩
  | queueInput v =>
      rw [perform, queueInput, withEngine_of_poisoned poisoned]
      exact ⟨rfl, fun _ => rfl⟩
  | queueText text =>
      rw [perform, queueText, withEngine_of_poisoned poisoned]
      exact ⟨rfl, fun _ => rfl⟩
  | runBatchReport clock =>
      rw [perform, state_runBatchReport_of_poisoned poisoned]
      refine ⟨rfl, fun running => ?_⟩
      rw [runBatchReport_of_poisoned running poisoned]
      rfl
  | runBatch clock =>
      rw [perform, runBatch, state_runBatchReport_of_poisoned poisoned]
      refine ⟨rfl, fun running => ?_⟩
      rw [runBatchReport_of_poisoned running poisoned]
      rfl
  | intoEngine =>
      rw [perform, state_intoEngine]
      refine ⟨rfl, fun last => ?_⟩
      have last : s.handles = 1 := last
      rw [intoEngine, if_neg fun others => others last, if_pos poisoned]
      rfl

/-- **Taking the engine back** succeeds through the last handle, unless the lock is poisoned. -/
theorem intoEngine_answer (s : SharedEngine) :
    ((∃ e', s.intoEngine.1 = .ok e') ↔ s.handles = 1 ∧ s.poisoned = false) ∧
      (∀ e', s.intoEngine.1 = .ok e' → e' = s.engine) ∧
      (s.handles ≠ 1 ↔ s.intoEngine.1 = .error (.notReady .shared)) := by
  unfold intoEngine
  split
  · next others => simp [others]
  · next last =>
      have last : s.handles = 1 := Decidable.not_not.1 last
      cases poisoned : s.poisoned <;> simp [last, eq_comm]

end SharedEngine

end BankedZ80
