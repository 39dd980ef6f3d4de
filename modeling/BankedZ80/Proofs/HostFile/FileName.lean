import BankedZ80.Proofs.HostFile.Collection
import BankedZ80.Proofs.HostFile.Event

/-!
# The name under which a file is opened

The guest types the name of a file and opens it. The name is meant to be what was typed since the last
command. But only an open that is accepted uses the typed name, and only the command for it drops it:
after an open that was refused, and after closing a file, what was typed before stays and the guest goes
on typing at its end.

* `typedName` is the name in these terms: typed since the last event that used or dropped one. An open
  takes it (`HostFile.opensUnder_typedName`).
* `nameSinceCommand` is the name as it is meant to be. It is the same as long as no command that keeps
  the name comes after a character of it (`typedName_eq`).
-/

namespace BankedZ80

open HostFileAction

namespace HostFileEvent

/-! ### The name since the last command -/

/-- The guest wrote one of the five commands, whatever became of it, or the device was reset. -/
def isCommand : HostFileEvent → Bool
  | openedRead | openedWrite | refused | closedRead | closedWrite | closedNothing => true
  | clearedName | reset => true
  | _ => false

/-- The characters of a name that were typed since the last command. -/
def nameSinceCommand (log : List HostFileEvent) : List UInt8 :=
  (characters (since isCommand log)).take HostFile.maxNameLength

/-- No command has come after a character of the name that is being typed. -/
def NameUndisturbed (log : List HostFileEvent) : Prop :=
  (since endsName log).Pairwise fun e later => e.character? = none ∨ later.isCommand = false

instance (log : List HostFileEvent) : Decidable (NameUndisturbed log) :=
  inferInstanceAs (Decidable (List.Pairwise _ _))

theorem isCommand_of_endsName {e : HostFileEvent} (ends : e.endsName = true) :
    e.isCommand = true := by
  cases e <;> first | rfl | cases ends

/-- By induction on the log, whose last event ends the name, or disturbs it, or does neither. -/
theorem characters_since_eq {log : List HostFileEvent} (undisturbed : NameUndisturbed log) :
    characters (since endsName log) = characters (since isCommand log) := by
  induction log using List.reverseRecOn with
  | nil => rfl
  | append_singleton log e ih =>
      unfold NameUndisturbed at undisturbed
      rw [since_concat] at undisturbed ⊢
      rw [since_concat]
      cases ends : e.endsName with
      | true => rw [isCommand_of_endsName ends, if_pos rfl, if_pos rfl]
      | false =>
          rw [ends, if_neg Bool.false_ne_true, List.pairwise_append] at undisturbed
          obtain ⟨before, -, across⟩ := undisturbed
          rw [if_neg Bool.false_ne_true]
          cases command : e.isCommand with
          | true =>
              have none (x : HostFileEvent) (hx : x ∈ since endsName log ++ [e]) :
                  x.character? = none := by
                rcases List.mem_append.1 hx with earlier | last
                · exact (across x earlier e (List.mem_singleton_self e)).resolve_right
                    (by simp [command])
                · rw [List.mem_singleton.1 last]
                  cases e <;> first | rfl | cases command
              exact List.filterMap_eq_nil_iff.2 none
          | false =>
              rw [if_neg Bool.false_ne_true, characters, characters, List.filterMap_append,
                List.filterMap_append]
              exact congrArg (· ++ _) (ih before)

/-- **An undisturbed name** is what was typed since the last command. -/
theorem typedName_eq {log : List HostFileEvent} (undisturbed : NameUndisturbed log) :
    typedName log = nameSinceCommand log :=
  congrArg (List.take HostFile.maxNameLength) (characters_since_eq undisturbed)

end HostFileEvent

open HostFileEvent

namespace HostFile

/-! ### Opening a file -/

/-- Opens that are accepted are for a file of this name: the host is asked for it, or collects what was
written under it, or under `download.bin` when it is empty. -/
structure OpensUnder (h : HostFile) (name : List UInt8) : Prop where
  read : h.accepts 1 = true → (h.after (.write 0 1)).requestedName = some (nameText name)
  write : h.accepts 2 = true →
    ∀ actions, (h.after (.write 0 2)).keepsWriting actions = true → close ∈ actions →
      (actions.foldl after (h.after (.write 0 2))).finishedName =
        some (nameText (if name = [] then defaultWriteName else name))

theorem opensUnder_typed (h : HostFile) : h.OpensUnder h.typed where
  read accepted := by
    have free : ¬h.busy = true := by
      intro busy
      rw [show h.accepts 1 = !h.openRead.failed from rfl, openRead_of_busy busy] at accepted
      cases accepted
    rw [show h.after (.write 0 1) = h.openRead from rfl, openRead, if_neg free]
    rfl
  write accepted actions go closed := by
    have carries := (carries_of_accepts accepted).run go
    rw [WriteSession.foldl_after actions rfl, List.nil_append] at carries
    exact (carries.collected.finished closed).2.1

/-- **A file is opened under the name that was typed** since a name was last used or dropped. Unless a
command that keeps the name came after a character of it, this is what was typed since the last command.
-/
theorem open_takes_typed_name (past : List HostFileAction) :
    let h := past.foldl after {}
    let log := events {} past
    h.OpensUnder (typedName log) ∧ (NameUndisturbed log → h.OpensUnder (nameSinceCommand log)) := by
  intro h log
  have opens : h.OpensUnder (typedName log) := by
    rw [← (recalls_of_reachable past).typed]
    exact opensUnder_typed h
  refine ⟨opens, fun undisturbed => ?_⟩
  rw [← typedName_eq undisturbed]
  exact opens

/-- The guest has read one file. Then it typed a name and dropped it, and typed another with a zero and
something that is not ASCII in it. -/
def typedAnew : List HostFileAction :=
  [.write 1 0x41, .write 0 1, .provide [], .write 1 0x42, .write 0 5,
    .write 1 0x43, .write 1 0x00, .write 1 0xC4, .write 1 0x44]

theorem typedAnew_opened :
    let h := typedAnew.foldl after {}
    NameUndisturbed (events {} typedAnew) ∧ h.accepts 1 = true ∧
      nameSinceCommand (events {} typedAnew) = [0x43, 0x44] ∧
      h.OpensUnder (nameSinceCommand (events {} typedAnew)) := by
  have undisturbed : NameUndisturbed (events {} typedAnew) := by decide
  exact ⟨undisturbed, rfl, by decide, (open_takes_typed_name typedAnew).2 undisturbed⟩

/-- The guest asks for a file, is refused another one, and when the first is cancelled types a new
name. -/
def retyped : List HostFileAction :=
  [.write 1 0x41, .write 0 1, .write 1 0x42, .write 0 1, .cancel, .write 1 0x43]

/-- The new name is `C`, but the file asked for is `BC`. -/
theorem retyped_keeps_refused_name :
    let h := retyped.foldl after {}
    h.accepts 1 = true ∧ nameSinceCommand (events {} retyped) = [0x43] ∧
      (h.after (.write 0 1)).requestedName = some (nameText [0x42, 0x43]) ∧
      ¬h.OpensUnder (nameSinceCommand (events {} retyped)) := by
  have name : nameSinceCommand (events {} retyped) = [0x43] := by decide
  refine ⟨rfl, name, rfl, fun opens => ?_⟩
  have asked := opens.read rfl
  rw [name] at asked
  exact absurd asked (by decide)

end HostFile

end BankedZ80
