import BankedZ80.Engine

/-!
# What sequences of calls leave alone

`EngineCalls.Keeps` says that a sequence of host calls leaves a part of the engine as it was, whether
or not it ends early. It is shown along the text of the calls: one rule for each way to put them
together.
-/

namespace BankedZ80

namespace EngineCalls

variable {α β γ : Type} {part : Engine → γ}

/-- Calls that leave a part of the engine alone, whether or not they end early. -/
def Keeps (part : Engine → γ) (calls : EngineCalls α) : Prop := ∀ e, part (calls.runOn e).2 = part e

theorem Keeps.pure (a : α) : Keeps part (Pure.pure a : EngineCalls α) := fun _ => rfl

theorem Keeps.attempt {call : Engine → Except MachineError Engine}
    (h : ∀ e e', call e = .ok e' → part e' = part e) : Keeps part (attempt call) := by
  intro e
  rw [runOn_attempt]
  cases hc : call e with
  | ok e' => exact h e e' hc
  | error error => rfl

theorem Keeps.bind {calls : EngineCalls α} {rest : α → EngineCalls β} (first : Keeps part calls)
    (second : ∀ a, Keeps part (rest a)) : Keeps part (calls >>= rest) := by
  intro e
  have before := first e
  rw [runOn_bind]
  generalize calls.runOn e = r at before
  obtain ⟨result, e'⟩ := r
  cases result with
  | ok a => exact (second a e').trans before
  | error error => exact before

theorem Keeps.forIn {call : α → EngineCalls PUnit} (h : ∀ a, Keeps part (call a)) (as : List α) :
    Keeps part (ForIn.forIn as PUnit.unit fun a _ => call a >>= fun _ =>
      Pure.pure (ForInStep.yield PUnit.unit)) := by
  induction as with
  | nil => exact .pure _
  | cons a rest ih =>
      rw [List.forIn_cons, bind_assoc]
      exact (h a).bind fun _ => ih

end EngineCalls

end BankedZ80
