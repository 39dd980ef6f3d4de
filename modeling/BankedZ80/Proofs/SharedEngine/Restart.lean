import BankedZ80.Proofs.SharedEngine.Threads
import BankedZ80.Proofs.History.Lifecycle

/-!
# A start after a halt

A batch that halts is followed by a step of its own that lowers the flag. Between the two, another handle
can reset the engine and start it again, and that start is lost.

* `Restart` is the situation: a batch halts, another handle resets the engine and starts it, and after
  that nobody stops it and every batch continues.
* `restart_lasts_iff` tells which starts last: those that come while no batch call is about to lower the
  flag (`AboutToLower`). It rests on `running_iff_of_start`, which needs neither halt nor reset.
* `lateStep_undoes_start` is a start that is lost.
-/

namespace BankedZ80

/-- A step that is no stop and no batch whose report does not continue. -/
def ThreadEvent.GoesOn {α : Type} (ev : ThreadEvent α) : Prop :=
  ev.action ≠ .call .stop ∧
    ∀ clock r, ev.action = .batch clock (.ok r) → r.report.outcome.shouldContinue = true

namespace Threads

variable {α : Type} {s m : Threads} {start : ThreadEvent α} {trace later : List (ThreadEvent α)}

/-- A batch call has run its last batch and has yet to lower the flag. -/
def AboutToLower (s : Threads) : Prop :=
  ∃ t i r, s.inFlight t = some ⟨i, .ran r⟩ ∧ r.report.outcome.shouldContinue = false

/-- A trace has a start that comes while no batch call is about to lower the flag. -/
def HasFreeStart (s : Threads) (trace : List (ThreadEvent α)) : Prop :=
  ∃ before start later m, trace = before ++ start :: later ∧ start.action = .call .start ∧
    s.Run before m ∧ ¬m.AboutToLower

/-- In a trace a batch halts, and after that another handle, with the number `j`, resets the engine under
the lock. -/
def ResetAfterHalt (trace : List (ThreadEvent α)) (j : Nat) : Prop :=
  ∃ (before between after : List (ThreadEvent α)) (halt reset : ThreadEvent α) (clock : Clock)
      (r : BatchResult) (f : Engine → α × Engine),
    trace = before ++ halt :: between ++ reset :: after ∧
    halt.action = .batch clock (.ok r) ∧ r.report.outcome = .halted ∧ halt.handle ≠ j ∧
    reset.action = .call (.use f) ∧ (∀ e, (f e).2 = e.reset) ∧ reset.handle = j

/-- After a batch has halted, another handle resets the engine and starts it, in the state `m`; nobody
stops it, every later batch continues, and in the end all calls have returned. -/
structure Restart (e : Engine) (before : List (ThreadEvent α)) (m : Threads) (start : ThreadEvent α)
    (later : List (ThreadEvent α)) (s : Threads) : Prop where
  reached : (ofEngine e).Run before m
  reset : ResetAfterHalt before start.handle
  starts : start.action = .call .start
  ends : m.Run (start :: later) s
  goesOn : ∀ ev ∈ later, ev.GoesOn
  returned : ∀ t, s.inFlight t = none

/-! ### Who lowers the flag -/

/-- Where nothing is stopped and every batch continues, only a batch call that is about to lower the flag
can lower it. -/
theorem lowers_eq_false (steps : Run s trace m) (free : ¬s.AboutToLower)
    (goesOn : ∀ ev ∈ trace, ev.GoesOn) : ∀ ev ∈ trace, ev.lowers = false := by
  intro ev mem
  rw [← Bool.not_eq_true, ThreadEvent.lowers_iff]
  rintro (stop | ⟨r, last, ended⟩)
  · exact (goesOn ev mem).1 stop
  · obtain ⟨t, i, action⟩ := ev
    cases last
    rcases ran_of_lowerFlag_mem steps mem with ran | ⟨clock, batch⟩
    · exact free ⟨t, i, r, ran, ended⟩
    · rw [(goesOn _ batch).2 clock r rfl] at ended
      cases ended

/-- A batch call that is about to lower the flag does so before all calls have returned. -/
theorem AboutToLower.lowers (about : m.AboutToLower) (steps : Run m trace s)
    (returned : ∀ t, s.inFlight t = none) :
    ∃ ev ∈ trace, (∃ r, ev.action = .lowerFlag r) ∧ ev.lowers = true := by
  obtain ⟨t, i, r, ran, ended⟩ := about
  exact ⟨_, lowerFlag_mem_of_returned steps ran (returned t), ⟨r, rfl⟩,
    ThreadEvent.lowers_iff.2 (.inr ⟨r, rfl, ended⟩)⟩

/-- The flag at the end, after a start that nobody takes back by a stop or a last batch. -/
theorem running_iff_of_start (starts : start.action = .call .start) (steps : m.Run (start :: later) s)
    (goesOn : ∀ ev ∈ later, ev.GoesOn) (returned : ∀ t, s.inFlight t = none) :
    s.handles.shared.running = true ↔ m.HasFreeStart (start :: later) := by
  constructor
  · intro up
    have lasting : LastingStart (start :: later) := by
      rcases (running_run steps).1 up with ⟨-, kept⟩ | lasting
      · exact lastingStart_cons.2 (.inl ⟨starts, (List.forall_mem_cons.1 kept).2⟩)
      · exact lasting
    obtain ⟨before, start', later', split, starts', kept⟩ := lasting
    rw [split] at steps
    obtain ⟨n, first, rest⟩ := run_append.1 steps
    refine ⟨before, start', later', n, split, starts', first, fun about => ?_⟩
    obtain ⟨ev, mem, ⟨r, last⟩, lowers⟩ := about.lowers rest returned
    rcases List.mem_cons.1 mem with rfl | mem
    · cases starts'.symm.trans last
    · cases lowers.symm.trans (kept ev mem)
  · rintro ⟨before, start', later', n, split, starts', first, free⟩
    rw [split] at steps
    obtain ⟨n', first', rest⟩ := run_append.1 steps
    cases first.unique first'
    have startGoesOn : start.GoesOn := by
      unfold ThreadEvent.GoesOn
      rw [starts]
      exact ⟨nofun, nofun⟩
    have restGoesOn : ∀ ev ∈ start' :: later', ev.GoesOn := by
      intro ev mem
      have mem : ev ∈ start :: later := split ▸ List.mem_append_right before mem
      exact List.forall_mem_cons.2 ⟨startGoesOn, goesOn⟩ ev mem
    have kept := lowers_eq_false rest free restGoesOn
    have lasting := lastingStart_cons.2 (.inl ⟨starts', (List.forall_mem_cons.1 kept).2⟩)
    exact (running_run rest).2 (.inr lasting)

/-- **The start after a halt lasts** exactly if it, or a start after it, comes while no batch call is about
to lower the flag. If it is the last start, it lasts exactly if at that time no batch call is. -/
theorem restart_lasts_iff {e : Engine} {before : List (ThreadEvent α)}
    (restart : Restart e before m start later s) :
    (s.handles.shared.running = true ↔ m.HasFreeStart (start :: later)) ∧
      ((∀ ev ∈ later, ev.action ≠ .call .start) →
        (s.handles.shared.running = true ↔ ¬m.AboutToLower)) := by
  have lasts :=
    running_iff_of_start restart.starts restart.ends restart.goesOn restart.returned
  refine ⟨lasts, fun only => lasts.trans ⟨?_, fun free => ?_⟩⟩
  · rintro ⟨before, start', later', n, split, starts', first, free⟩
    cases before with
    | nil =>
        cases first
        exact free
    | cons ev before =>
        have mem : start' ∈ later := by
          rw [(List.cons.inj split).2]
          exact List.mem_append_right before List.mem_cons_self
        exact absurd starts' (only start' mem)
  · exact ⟨[], start, later, m, rfl, restart.starts, .nil, free⟩

/-! ### An early and a late last step -/

/-- Reset the engine under the lock. -/
def resetCall : SharedCall Unit := .use fun e => ((), e.reset)

/-- A start through the second handle. -/
def startStep : ThreadEvent Unit := ⟨1, 1, .call .start⟩

section Schedules

variable (e : Engine) (clock : Clock)

/-- Through the first handle a second is made and a batch is run, but for the last step of its call. -/
def firstBatch : List (ThreadEvent Unit) :=
  [⟨0, 0, .call .clone⟩, ⟨0, 0, .call .start⟩, ⟨0, 0, .readFlag true⟩,
    ⟨0, 0, .batch clock (.ok (e.runBatch clock).1)⟩]

/-- The last step of that batch call. -/
def lastStep : ThreadEvent Unit := ⟨0, 0, .lowerFlag (e.runBatch clock).1⟩

/-- The batch, and later a reset through the second handle. -/
def batchAndReset (between : List (ThreadEvent Unit)) : List (ThreadEvent Unit) :=
  firstBatch e clock ++ between ++ [⟨1, 1, .call resetCall⟩]

/-- The threads after the batch. -/
def afterBatch : Threads where
  handles :=
    { shared := { engine := (e.runBatch clock).2, running := true, handles := 2 }
      live := [0, 1]
      made := 2 }
  inFlight u := if u = 0 then some ⟨0, .ran (e.runBatch clock).1⟩ else none

/-- The threads after the reset, if the last step is still to come. -/
def resetBefore : Threads := (afterBatch e clock).called 1 resetCall

/-- The threads after the reset, if the last step has been taken. -/
def resetAfter : Threads := ((afterBatch e clock).lowered 0 (e.runBatch clock).1).called 1 resetCall

end Schedules

variable {e : Engine} {clock : Clock}

theorem run_firstBatch : (ofEngine e).Run (firstBatch e clock) (afterBatch e clock) := by
  refine .cons (.call rfl List.mem_cons_self rfl nofun) ?_
  refine .cons (.call rfl List.mem_cons_self rfl nofun) ?_
  refine .cons (.readFlag rfl List.mem_cons_self) ?_
  refine .cons (.batch rfl clock) ?_
  rw [move_move]
  exact .nil

theorem resetAfterHalt (halts : (e.runBatch clock).1.report.outcome = .halted)
    (between : List (ThreadEvent Unit)) : ResetAfterHalt (batchAndReset e clock between) 1 :=
  ⟨(firstBatch e clock).take 3, between, [], ⟨0, 0, .batch clock (.ok (e.runBatch clock).1)⟩,
    ⟨1, 1, .call resetCall⟩, clock, _, _, rfl, rfl, halts, Nat.zero_ne_one, rfl, fun _ => rfl, rfl⟩

/-- The last step leaves no batch call in flight. -/
theorem returned_afterBatch (e : Engine) (clock : Clock) (t : Nat) :
    ((afterBatch e clock).lowered 0 (e.runBatch clock).1).inFlight t = none := by
  by_cases own : t = 0
  · rw [own]
    exact inFlight_move _ 0 none _
  · exact (inFlight_move_of_ne own _ none _).trans (if_neg own)

theorem resetAfter_not_aboutToLower (e : Engine) (clock : Clock) :
    ¬(resetAfter e clock).AboutToLower := by
  rintro ⟨t, i, r, ran, -⟩
  cases (returned_afterBatch e clock t).symm.trans ran

/-- Reset and start may come before the last step. -/
theorem restart_before (halts : (e.runBatch clock).1.report.outcome = .halted) :
    Restart e (batchAndReset e clock []) (resetBefore e clock) startStep [lastStep e clock]
      (((resetBefore e clock).called 1 (.start : SharedCall Unit)).lowered 0 (e.runBatch clock).1) := by
  have second : 1 ∈ [0, 1] := List.mem_cons_of_mem 0 List.mem_cons_self
  constructor
  case reached =>
      exact run_append.2 ⟨_, run_firstBatch, .cons (.call rfl second rfl nofun) .nil⟩
  case reset => exact resetAfterHalt halts []
  case starts => rfl
  case ends => exact .cons (.call rfl second rfl nofun) (.cons (.lowerFlag rfl) .nil)
  case goesOn =>
      intro ev mem
      cases List.mem_singleton.1 mem
      exact ⟨nofun, nofun⟩
  case returned => exact returned_afterBatch e clock

/-- Reset and start may come after the last step. -/
theorem restart_after (halts : (e.runBatch clock).1.report.outcome = .halted) :
    Restart e (batchAndReset e clock [lastStep e clock]) (resetAfter e clock) startStep []
      ((resetAfter e clock).called 1 (.start : SharedCall Unit)) := by
  have second : 1 ∈ [0, 1] := List.mem_cons_of_mem 0 List.mem_cons_self
  have returned : ∀ t, (resetAfter e clock).inFlight t = none := returned_afterBatch e clock
  constructor
  case reached =>
      refine run_append.2 ⟨_, run_append.2 ⟨_, run_firstBatch, .cons (.lowerFlag rfl) .nil⟩, ?_⟩
      exact .cons (.call (returned 1) second rfl nofun) .nil
  case reset => exact resetAfterHalt halts [lastStep e clock]
  case starts => rfl
  case ends => exact .cons (.call (returned 1) second rfl nofun) .nil
  case goesOn => exact nofun
  case returned => exact returned

/-- The setup of an engine whose guest halts at once. -/
def haltingSetup : List BankedZ80.Step := [.host (.loadRom Engine.haltingRom), .host .completeInit]

theorem exists_halting :
    ∃ e₀, Engine.new { ramSize := 65536 } = .ok e₀ ∧
      ((haltingSetup.foldl Engine.after e₀).runBatch (Clock.still 0)).1.report.outcome = .halted := by
  have ends : (Engine.new { ramSize := 65536 }).toOption.any (fun e =>
      ((haltingSetup.foldl Engine.after e).runBatch (Clock.still 0)).1.report.outcome = .halted) =
      true := by
    decide +kernel
  exact exists_of_toOption_any ends

/-- A start lasts if it comes after the last step of the batch call. -/
theorem earlyStep_keeps_start :
    ∃ e₀ e m s, Engine.new { ramSize := 65536 } = .ok e₀ ∧ e = haltingSetup.foldl Engine.after e₀ ∧
      Restart e (batchAndReset e (Clock.still 0) [lastStep e (Clock.still 0)]) m startStep [] s ∧
      s.handles.shared.running = true := by
  obtain ⟨e₀, built, halts⟩ := exists_halting
  have restart := restart_after halts
  exact ⟨e₀, _, _, _, built, rfl, restart,
    ((restart_lasts_iff restart).2 nofun).2 (resetAfter_not_aboutToLower _ _)⟩

/-- **A start is lost** if it comes between the batch that halts and the last step of its call: in the end
the flag is down, although nobody has stopped the engine and no batch has run since. -/
theorem lateStep_undoes_start :
    ∃ e₀ e m s, Engine.new { ramSize := 65536 } = .ok e₀ ∧ e = haltingSetup.foldl Engine.after e₀ ∧
      Restart e (batchAndReset e (Clock.still 0) []) m startStep [lastStep e (Clock.still 0)] s ∧
      s.handles.shared.running = false := by
  obtain ⟨e₀, built, halts⟩ := exists_halting
  refine ⟨e₀, _, _, _, built, rfl, restart_before halts, ?_⟩
  rw [running_lowered, halts]
  rfl

end Threads

end BankedZ80
