import BankedZ80.Proofs.SharedEngine.Call

/-!
# Histories of shared handles

Handles are numbered as they are made, and only a handle that is still there can be called:
`SharedHandles.call`. A history is a list of calls with the handles that they go through, and
`SharedHandles.run` is there for the histories in which every call goes through a live handle.

* `WellNumbered` ties the numbers of the live handles to their count.
* `running_run` and `poisoned_run` read the flag and the poison off the history.
* `SharedHandles.run_keeps_protocol` says what the next call does after any history.
-/

namespace BankedZ80

/-- The shared state with the handles by their numbers. -/
structure SharedHandles where
  shared : SharedEngine
  /-- The handles that have not been given up. -/
  live : List Nat
  /-- How many handles have been made. -/
  made : Nat

namespace SharedHandles

variable {α : Type}

/-- Share an engine through a first handle. -/
def ofEngine (e : Engine) : SharedHandles := { shared := .ofEngine e, live := [0], made := 1 }

/-- The state after a call through a handle. -/
def after (h : SharedHandles) (i : Nat) (c : SharedCall α) : SharedHandles where
  shared := (h.shared.perform c).2
  live :=
    match c with
    | .clone => h.live ++ [h.made]
    | .drop | .intoEngine => h.live.erase i
    | _ => h.live
  made :=
    match c with
    | .clone => h.made + 1
    | _ => h.made

/-- A call through a handle; none if the handle has been given up. -/
def call (h : SharedHandles) (i : Nat) (c : SharedCall α) :
    Option (SharedAnswer α × SharedHandles) :=
  if i ∈ h.live then some ((h.shared.perform c).1, h.after i c) else none

/-- Calls in a row. -/
def run (h : SharedHandles) : List (Nat × SharedCall α) → Option SharedHandles
  | [] => some h
  | (i, c) :: rest => do
    let (_, h) ← h.call i c
    h.run rest

variable {h h' : SharedHandles} {i : Nat} {c : SharedCall α}

theorem run_cons {rest : List (Nat × SharedCall α)} :
    h.run ((i, c) :: rest) = some h' ↔ i ∈ h.live ∧ (h.after i c).run rest = some h' := by
  rw [run, call]
  by_cases live : i ∈ h.live
  · rw [if_pos live]
    exact (and_iff_right live).symm
  · rw [if_neg live]
    exact ⟨nofun, fun ⟨there, _⟩ => absurd there live⟩

/-! ### Numbers of handles -/

/-- There are as many handles as numbers of live ones, and the next number is new. -/
structure WellNumbered (h : SharedHandles) : Prop where
  count : h.shared.handles = h.live.length
  nodup : h.live.Nodup
  old : ∀ i ∈ h.live, i < h.made

theorem wellNumbered_ofEngine (e : Engine) : (ofEngine e).WellNumbered where
  count := rfl
  nodup := List.pairwise_singleton _ 0
  old i mem := by
    rw [List.mem_singleton.1 mem]
    exact Nat.zero_lt_one

namespace WellNumbered

theorem erase (w : h.WellNumbered) (live : i ∈ h.live) :
    h.shared.handles - 1 = (h.live.erase i).length ∧ (h.live.erase i).Nodup ∧
      ∀ j ∈ h.live.erase i, j < h.made := by
  refine ⟨?_, w.nodup.erase i, fun j mem => w.old j (List.mem_of_mem_erase mem)⟩
  rw [w.count, List.length_erase_of_mem live]

/-- A call keeps the numbers in order. -/
theorem after (w : h.WellNumbered) (live : i ∈ h.live) (c : SharedCall α) :
    (h.after i c).WellNumbered := by
  have count := h.shared.handles_perform c
  cases c with
  | clone =>
      refine ⟨?_, ?_, ?_⟩
      · refine count.trans ?_
        show h.shared.handles + 1 = (h.live ++ [h.made]).length
        rw [w.count, List.length_append, List.length_singleton]
      · refine List.nodup_append.2 ⟨w.nodup, List.pairwise_singleton _ h.made, ?_⟩
        rintro j mem k new rfl
        exact Nat.lt_irrefl _ (List.mem_singleton.1 new ▸ w.old j mem)
      · intro j mem
        rcases List.mem_append.1 mem with old | new
        · exact Nat.lt_succ_of_lt (w.old j old)
        · rw [List.mem_singleton.1 new]
          exact Nat.lt_succ_self h.made
  | drop | intoEngine =>
      obtain ⟨fewer, nodup, old⟩ := w.erase live
      exact ⟨count.trans fewer, nodup, old⟩
  | _ => exact ⟨count.trans w.count, w.nodup, w.old⟩

/-- By induction on the history. -/
theorem run (w : h.WellNumbered) {past : List (Nat × SharedCall α)} (ran : h.run past = some h') :
    h'.WellNumbered := by
  induction past generalizing h with
  | nil =>
      cases ran
      exact w
  | cons entry rest ih =>
      obtain ⟨live, ran⟩ := run_cons.1 ran
      exact ih (w.after live entry.2) ran

/-- A live handle is the last one exactly when the count is 1. -/
theorem last_iff (w : h.WellNumbered) (live : i ∈ h.live) :
    h.shared.handles = 1 ↔ ∀ j ∈ h.live, j = i := by
  rw [w.count, List.length_eq_one_iff]
  constructor
  · rintro ⟨k, eq⟩ j mem
    rw [eq] at live mem
    rw [List.mem_singleton.1 live, List.mem_singleton.1 mem]
  · intro same
    have nodup := w.nodup
    cases all : h.live with
    | nil =>
        rw [all] at live
        cases live
    | cons k rest =>
        rw [all] at same nodup
        cases rest with
        | nil => exact ⟨k, rfl⟩
        | cons j more =>
            have twice : k = j := (same k List.mem_cons_self).trans
              (same j (List.mem_cons_of_mem k List.mem_cons_self)).symm
            exact absurd (twice ▸ List.mem_cons_self) (List.nodup_cons.1 nodup).1

end WellNumbered

/-! ### Flag and poison -/

/-- No call of a history lowers the flag. -/
def keepsUp (h : SharedHandles) : List (Nat × SharedCall α) → Bool
  | [] => true
  | (i, c) :: rest => !h.shared.lowers c && (h.after i c).keepsUp rest

/-- A start in a history that no later call takes back. -/
def LastingStart (h : SharedHandles) (past : List (Nat × SharedCall α)) : Prop :=
  ∃ before i later started, past = before ++ (i, .start) :: later ∧
    h.run (before ++ [(i, .start)]) = some started ∧ started.keepsUp later = true

theorem lastingStart_cons {rest : List (Nat × SharedCall α)} (live : i ∈ h.live) :
    h.LastingStart ((i, c) :: rest) ↔
      c = .start ∧ (h.after i c).keepsUp rest = true ∨ (h.after i c).LastingStart rest := by
  constructor
  · rintro ⟨before, j, later, started, split, ran, up⟩
    cases before with
    | nil =>
        cases split
        cases (run_cons.1 ran).2
        exact .inl ⟨rfl, up⟩
    | cons entry before =>
        cases split
        exact .inr ⟨before, j, later, started, rfl, (run_cons.1 ran).2, up⟩
  · rintro (⟨rfl, up⟩ | ⟨before, j, later, started, rfl, ran, up⟩)
    · exact ⟨[], i, rest, h.after i .start, rfl, run_cons.2 ⟨live, rfl⟩, up⟩
    · exact ⟨(i, c) :: before, j, later, started, rfl, run_cons.2 ⟨live, ran⟩, up⟩

/-- **The flag after a history.** By induction on the history. -/
theorem running_run {past : List (Nat × SharedCall α)} (ran : h.run past = some h') :
    h'.shared.running = true ↔
      h.shared.running = true ∧ h.keepsUp past = true ∨ h.LastingStart past := by
  induction past generalizing h with
  | nil =>
      cases ran
      refine ⟨fun up => .inl ⟨up, rfl⟩, ?_⟩
      rintro (⟨up, -⟩ | ⟨before, i, later, started, split, -⟩)
      · exact up
      · exact absurd split (by simp)
  | cons entry rest ih =>
      obtain ⟨i, c⟩ := entry
      obtain ⟨live, ran⟩ := run_cons.1 ran
      have step : (h.after i c).shared.running = true ↔ _ := h.shared.running_perform c
      rw [ih ran, step, lastingStart_cons live, keepsUp, Bool.and_eq_true, Bool.not_eq_true']
      constructor
      · rintro (⟨start | ⟨up, kept⟩, later⟩ | lasting)
        · exact .inr (.inl ⟨start, later⟩)
        · exact .inl ⟨up, kept, later⟩
        · exact .inr (.inr lasting)
      · rintro (⟨up, kept, later⟩ | ⟨start, later⟩ | lasting)
        · exact .inl ⟨.inr ⟨up, kept⟩, later⟩
        · exact .inl ⟨.inl start, later⟩
        · exact .inr lasting

/-- **The poison after a history.** By induction on the history. -/
theorem poisoned_run {past : List (Nat × SharedCall α)} (ran : h.run past = some h') :
    h'.shared.poisoned = true ↔ h.shared.poisoned = true ∨ ∃ i f, (i, .fail f) ∈ past := by
  induction past generalizing h with
  | nil =>
      cases ran
      exact ⟨.inl, fun now => now.resolve_right fun ⟨_, _, mem⟩ => (nomatch mem)⟩
  | cons entry rest ih =>
      obtain ⟨i, c⟩ := entry
      obtain ⟨live, ran⟩ := run_cons.1 ran
      have step : (h.after i c).shared.poisoned = true ↔ _ := h.shared.poisoned_perform c
      rw [ih ran, step, or_assoc]
      refine or_congr_right ⟨?_, ?_⟩
      · rintro (⟨f, rfl⟩ | ⟨j, f, mem⟩)
        · exact ⟨i, f, List.mem_cons_self⟩
        · exact ⟨j, f, List.mem_cons_of_mem _ mem⟩
      · rintro ⟨j, f, mem⟩
        rcases List.mem_cons.1 mem with same | mem
        · cases same
          exact .inl ⟨f, rfl⟩
        · exact .inr ⟨j, f, mem⟩

/-! ### The protocol -/

/-- What a batch call gives back, and the engine that it leaves: the next batch of the engine if the flag
is up and the lock is not poisoned, and else nothing that has touched the engine. -/
structure BatchCall (s : SharedEngine) (clock : Clock)
    (result : Except MachineError (Option BatchResult)) (e' : Engine) : Prop where
  runs : (∃ r, result = .ok (some r)) ↔ s.running = true ∧ s.poisoned = false
  ran : ∀ r, result = .ok (some r) → s.engine.runBatch clock = (r, e')
  idle : (∀ r, result ≠ .ok (some r)) → e' = s.engine
  stopped : s.running = false → result = .ok none

theorem batchCall (s : SharedEngine) (clock : Clock) :
    BatchCall s clock (s.runBatchReport clock).1 (s.runBatchReport clock).2.engine where
  runs := s.batch_runs_iff clock
  ran r result := by
    obtain ⟨running, sound⟩ := (s.batch_runs_iff clock).1 ⟨r, result⟩
    rw [SharedEngine.runBatchReport_of_running running sound] at result ⊢
    cases result
    rfl
  idle none := by
    cases running : s.running with
    | false => rw [SharedEngine.runBatchReport_of_stopped running]
    | true =>
        cases poisoned : s.poisoned with
        | true => rw [SharedEngine.runBatchReport_of_poisoned running poisoned]
        | false =>
            obtain ⟨r, result⟩ := (s.batch_runs_iff clock).2 ⟨running, poisoned⟩
            exact absurd result (none r)
  stopped running := by rw [SharedEngine.runBatchReport_of_stopped running]

/-- What the calls through handles do after a history that began with a first handle to an engine. -/
structure KeepsProtocol (e : Engine) (past : List (Nat × SharedCall α)) (h : SharedHandles) :
    Prop where
  /-- The flag is up after a start with no later stop and no later batch that does not continue. -/
  flag : h.shared.running = true ↔ (ofEngine e).LastingStart past
  /-- The lock is poisoned once a closure has failed. -/
  poison : h.shared.poisoned = true ↔ ∃ i f, (i, .fail f) ∈ past
  /-- It does not matter which handle a call goes through. -/
  same : ∀ i ∈ h.live, ∀ j ∈ h.live, ∀ c : SharedCall α, ∃ answer h₁ h₂,
    h.call i c = some (answer, h₁) ∧ h.call j c = some (answer, h₂) ∧ h₁.shared = h₂.shared
  /-- Every handle shows the flag, and the engine to closures. -/
  seen : ∀ i ∈ h.live,
    h.call i (.isRunning : SharedCall α) = some (.running h.shared.running, h) ∧
    (h.shared.poisoned = false → ∀ f : Engine → α × Engine, ∃ h',
      h.call i (.use f) = some (.used (.ok (f h.shared.engine).1), h') ∧
      h'.shared.engine = (f h.shared.engine).2)
  batches : ∀ i ∈ h.live, ∀ clock, ∃ result h₁ h₂,
    h.call i (.runBatchReport clock : SharedCall α) = some (.report result, h₁) ∧
    h.call i (.runBatch clock : SharedCall α) =
      some (.goOn (result.map fun r => (r.map fun r => r.report.outcome.shouldContinue).getD false), h₂) ∧
    h₂.shared = h₁.shared ∧ BatchCall h.shared clock result h₁.shared.engine
  /-- A poisoned lock refuses whoever needs it, and keeps the engine. -/
  refused : h.shared.poisoned = true → ∀ i ∈ h.live, ∀ c : SharedCall α, ∃ answer h',
    h.call i c = some (answer, h') ∧ h'.shared.engine = h.shared.engine ∧
    (h.shared.NeedsLock c → answer.Refused)
  /-- The engine goes to the last handle, unless the lock is poisoned. -/
  taken : ∀ i ∈ h.live, ∃ result h',
    h.call i (.intoEngine : SharedCall α) = some (.taken result, h') ∧ i ∉ h'.live ∧
    ((∃ e', result = .ok e') ↔ (∀ j ∈ h.live, j = i) ∧ h.shared.poisoned = false) ∧
    (∀ e', result = .ok e' → e' = h.shared.engine) ∧
    ((∃ j ∈ h.live, j ≠ i) ↔ result = .error (.notReady .shared))

/-- **The protocol of shared handles** holds after every history of calls through handles that are there.
-/
theorem run_keeps_protocol (e : Engine) {past : List (Nat × SharedCall α)} {h : SharedHandles}
    (ran : (ofEngine e).run past = some h) : KeepsProtocol e past h := by
  have numbered := (wellNumbered_ofEngine e).run ran
  have called {i : Nat} (live : i ∈ h.live) (c : SharedCall α) :
      h.call i c = some ((h.shared.perform c).1, h.after i c) := if_pos live
  constructor
  case flag =>
      rw [running_run ran, or_iff_right (fun up => nomatch up.1)]
  case poison =>
      rw [poisoned_run ran, or_iff_right (by nofun)]
  case same =>
      exact fun i live j live' c => ⟨_, _, _, called live c, called live' c, rfl⟩
  case seen =>
      refine fun i live => ⟨called live .isRunning, fun sound f => ?_⟩
      refine ⟨h.after i (.use f), (called live (.use f)).trans ?_, ?_⟩
      · rw [SharedEngine.perform, SharedEngine.withEngine_of_sound sound]
      · show (h.shared.withEngine f).2.engine = _
        rw [SharedEngine.withEngine_of_sound sound]
  case batches =>
      exact fun i live clock => ⟨_, _, _, called live (.runBatchReport clock),
        called live (.runBatch clock), rfl, batchCall h.shared clock⟩
  case refused =>
      intro poisoned i live c
      obtain ⟨engine, refused⟩ := h.shared.perform_of_poisoned poisoned c
      exact ⟨_, _, called live c, engine, refused⟩
  case taken =>
      intro i live
      have last := numbered.last_iff live
      refine ⟨_, _, called live .intoEngine, fun mem => ?_, ?_⟩
      · exact (numbered.nodup.mem_erase_iff.1 mem).1 rfl
      · have others : (∃ j ∈ h.live, j ≠ i) ↔ ¬∀ j ∈ h.live, j = i := by simp
        rw [others, ← last]
        exact h.shared.intoEngine_answer

/-- A second handle starts the engine, a closure fails, and a batch is refused through the first handle.
-/
def poisoningCalls : List (Nat × SharedCall Unit) :=
  [(0, .clone), (1, .start), (1, .fail id), (0, .runBatch (0 : UInt64)), (0, .drop)]

theorem poisoningCalls_kept :
    ∃ e h, Engine.new {} = .ok e ∧ (ofEngine e).run poisoningCalls = some h ∧ h.live = [1] ∧
      KeepsProtocol e poisoningCalls h := by
  have built : (Engine.new {}).isOk = true := by rfl
  cases new : Engine.new {} with
  | error error =>
      rw [new] at built
      cases built
  | ok e => exact ⟨e, _, rfl, rfl, rfl, run_keeps_protocol e rfl⟩

end SharedHandles

end BankedZ80
