import BankedZ80.Proofs.HostFile.Delivery
import Mathlib.Data.List.DropRight
import Mathlib.Data.List.Induction

/-!
# The history of the transfer device

What an action of guest or host amounts to depends on the device that it meets: an open may be accepted
or refused, a close may find nothing to close, and the host may call out of place.
`HostFile.event` says which of these it is, and `HostFile.events` keeps a log of them.

* `HostFileEvent.Leads` says what one event does to the state of the session, to the bytes that are
  left, to the two flags and to the typed name, and `HostFile.leads_after` that the device does this.
* `HostFileEvent.since` is the part of a log after the last event of some kind. Each flag of the device
  says whether something happened since something else, so that it can be read off the log
  (`any_since_concat`).
-/

namespace BankedZ80

/-- What an action of the guest or the host amounts to. -/
inductive HostFileEvent where
  /-- The guest typed a character of a file name, which may not be one. -/
  | typed (v : UInt8)
  | openedRead
  | openedWrite
  /-- An open for reading or writing was refused. -/
  | refused
  | closedRead
  | closedWrite
  /-- The guest closed a written file when none was being written. -/
  | closedNothing
  | clearedName
  /-- The guest read the data register. -/
  | tookData
  | provided (bytes : List UInt8)
  | cancelled
  | acknowledged
  | reset
  /-- Anything else: what the guest writes to a file, what it looks at, and calls out of place. -/
  | nothing
deriving DecidableEq

namespace HostFile

/-- What a command of the guest amounts to. -/
def commandEvent (h : HostFile) (command : UInt8) : HostFileEvent :=
  match command.toNat with
  | 1 => if h.busy then .refused else .openedRead
  | 2 => if h.busy then .refused else .openedWrite
  | 3 => .closedRead
  | 4 => if h.state = .writing then .closedWrite else .closedNothing
  | 5 => .clearedName
  | _ => .nothing

/-- What an action amounts to. -/
def event (h : HostFile) : HostFileAction → HostFileEvent
  | .read register => if register = 2 then .tookData else .nothing
  | .write register v =>
    if register = 0 then h.commandEvent v else if register = 1 then .typed v else .nothing
  | .provide bytes => if h.state = .waitingRead then .provided bytes else .nothing
  | .cancel => if h.state = .waitingRead then .cancelled else .nothing
  | .acknowledge => if h.state = .writeReady then .acknowledged else .nothing
  | .reset => .reset

/-- What a list of actions amounts to, one after another. -/
def events (h : HostFile) : List HostFileAction → List HostFileEvent
  | [] => []
  | a :: rest => h.event a :: (h.after a).events rest

theorem events_concat (h : HostFile) (actions : List HostFileAction) (a : HostFileAction) :
    h.events (actions ++ [a]) = h.events actions ++ [(actions.foldl after h).event a] := by
  induction actions generalizing h with
  | nil => rfl
  | cons first rest ih => exact congrArg (h.event first :: ·) (ih (h.after first))

end HostFile

namespace HostFileEvent

/-! ### What one event does -/

/-- The moves of the session, as the host sees it. -/
def next : TransferState → HostFileEvent → TransferState
  | .idle, openedRead => .waitingRead
  | .idle, openedWrite => .writing
  | .waitingRead, provided _ => .idle
  | .waitingRead, cancelled => .idle
  | .waitingRead, closedRead => .idle
  | .writing, closedWrite => .writeReady
  | .writeReady, acknowledged => .idle
  | _, reset => .idle
  | s, _ => s

/-- The delivered bytes that are left. -/
def left (bytes : List UInt8) : HostFileEvent → List UInt8
  | provided delivered => delivered
  | tookData => bytes.tail
  | closedRead | reset => []
  | _ => bytes

/-- The host has delivered a file. -/
@[simp] def delivers : HostFileEvent → Bool
  | provided _ => true
  | _ => false

/-- An earlier delivery no longer counts. -/
@[simp] def forgetsDelivery : HostFileEvent → Bool
  | openedRead | closedRead | reset => true
  | _ => false

/-- The guest's request failed. -/
@[simp] def fails : HostFileEvent → Bool
  | refused | cancelled => true
  | _ => false

/-- An earlier failure no longer counts. -/
@[simp] def forgetsFailure : HostFileEvent → Bool
  | openedRead | openedWrite | reset => true
  | _ => false

/-- The typed name is used or dropped. -/
def endsName : HostFileEvent → Bool
  | openedRead | openedWrite | clearedName | reset => true
  | _ => false

/-- The character of a name that was typed, if it can be one. -/
def character? : HostFileEvent → Option UInt8
  | typed v => if v ≠ 0 ∧ v < 0x80 then some v else none
  | _ => none

/-- The typed name, as long as it may get. -/
def name (typed : List UInt8) (e : HostFileEvent) : List UInt8 :=
  if e.endsName then [] else (typed ++ e.character?.toList).take HostFile.maxNameLength

/-- An event that has nothing to do with the name leaves it. -/
theorem name_eq_self {typed : List UInt8} {e : HostFileEvent} (keeps : e.endsName = false)
    (other : e.character? = none) (short : typed.length ≤ HostFile.maxNameLength) :
    name typed e = typed := by
  rw [name, keeps, other, if_neg Bool.false_ne_true, Option.toList_none, List.append_nil,
    List.take_of_length_le short]

/-- An event leads from one device to another. -/
structure Leads (e : HostFileEvent) (h h' : HostFile) : Prop where
  state : h'.state = next h.state e
  inbox : h'.inbox = left h.inbox e
  delivered : h'.delivered = (e.delivers || (h.delivered && !e.forgetsDelivery))
  failed : h'.failed = (e.fails || (h.failed && !e.forgetsFailure))
  typed : h.typed.length ≤ HostFile.maxNameLength → h'.typed = name h.typed e

end HostFileEvent

namespace HostFile

open HostFileEvent

variable (h : HostFile)

theorem leads_nothing : Leads .nothing h h where
  state := by cases h.state <;> rfl
  inbox := rfl
  delivered := by simp
  failed := by simp
  typed short := (name_eq_self rfl rfl short).symm

/-- An open is refused by a busy device and accepted by any other. -/
theorem leads_refused : Leads .refused h { h with failed := true } where
  state := by cases h.state <;> rfl
  inbox := rfl
  delivered := by simp
  failed := rfl
  typed short := (name_eq_self rfl rfl short).symm

theorem leads_openRead : Leads (if h.busy then .refused else .openedRead) h h.openRead := by
  unfold openRead
  split
  case isTrue => exact leads_refused h
  case isFalse free =>
      have idle := (busy_eq_false.1 (eq_false_of_ne_true free)).1
      exact ⟨by rw [idle]; rfl, rfl, by simp, by simp, fun _ => rfl⟩

theorem leads_openWrite : Leads (if h.busy then .refused else .openedWrite) h h.openWrite := by
  unfold openWrite
  split
  case isTrue => exact leads_refused h
  case isFalse free =>
      have idle := (busy_eq_false.1 (eq_false_of_ne_true free)).1
      exact ⟨by rw [idle]; rfl, rfl, by simp, by simp, fun _ => rfl⟩

theorem leads_closeRead : Leads .closedRead h h.closeRead := by
  have typed (short : h.typed.length ≤ maxNameLength) : h.typed = name h.typed .closedRead :=
    (name_eq_self rfl rfl short).symm
  unfold closeRead
  dsimp only
  split
  case isTrue waiting =>
      exact ⟨by rw [waiting]; rfl, rfl, by simp, by simp, typed⟩
  case isFalse other =>
      exact ⟨by cases state : h.state <;> first | rfl | exact absurd state other,
        rfl, by simp, by simp, typed⟩

theorem leads_closeWrite :
    Leads (if h.state = .writing then .closedWrite else .closedNothing) h h.closeWrite := by
  unfold closeWrite
  split
  case isTrue writing =>
      exact ⟨by rw [writing]; rfl, rfl, by simp, by simp,
        fun short => (name_eq_self rfl rfl short).symm⟩
  case isFalse =>
      exact ⟨by cases h.state <;> rfl, rfl, by simp, by simp,
        fun short => (name_eq_self rfl rfl short).symm⟩

theorem leads_command (v : UInt8) : (h.commandEvent v).Leads h (h.command v) := by
  unfold commandEvent command
  match v.toNat with
  | 0 => exact leads_nothing h
  | 1 => exact leads_openRead h
  | 2 => exact leads_openWrite h
  | 3 => exact leads_closeRead h
  | 4 => exact leads_closeWrite h
  | 5 => exact ⟨by cases h.state <;> rfl, rfl, by simp, by simp, fun _ => rfl⟩
  | n + 6 => exact leads_nothing h

theorem leads_typeName (v : UInt8) : Leads (.typed v) h (h.typeName v) where
  state := by unfold typeName; split <;> cases h.state <;> rfl
  inbox := by unfold typeName; split <;> rfl
  delivered := by unfold typeName; split <;> simp
  failed := by unfold typeName; split <;> simp
  typed short := by
    unfold typeName
    by_cases legal : v ≠ 0 ∧ v < 0x80
    · have typed : name h.typed (.typed v) = (h.typed ++ [v]).take maxNameLength := by
        simp [name, endsName, character?, legal]
      rw [typed]
      split
      · next room => rw [List.take_of_length_le (by simpa using Nat.succ_le_of_lt room.2.2)]
      · next full =>
          have full : h.typed.length = maxNameLength := by
            refine Nat.le_antisymm short (Nat.le_of_not_lt fun room => ?_)
            exact full ⟨legal.1, legal.2, room⟩
          rw [← full, List.take_left]
    · rw [if_neg fun all => legal ⟨all.1, all.2.1⟩]
      have other : character? (.typed v) = none := if_neg legal
      exact (name_eq_self rfl other short).symm

theorem leads_writeRegister (register v : UInt8) :
    (h.event (.write register v)).Leads h (h.writeRegister register v) := by
  unfold event writeRegister
  by_cases zero : register = 0
  · subst zero
    exact leads_command h v
  · by_cases one : register = 1
    · subst one
      exact leads_typeName h v
    · dsimp only
      rw [if_neg zero, if_neg one]
      split
      case h_1 n => exact absurd (UInt8.toNat_inj.1 n) zero
      case h_2 n => exact absurd (UInt8.toNat_inj.1 n) one
      case h_3 =>
          have kept := leads_nothing h
          split
          · exact ⟨kept.state, kept.inbox, kept.delivered, kept.failed, kept.typed⟩
          · exact kept
      case h_4 => exact leads_nothing h

/-- Reading the data register takes the first byte that is left. -/
theorem readRegister_data : (h.readRegister 2).2 = { h with inbox := h.inbox.tail } := by
  obtain ⟨state, typed, readName, inbox, delivered, writeName, outbox, failed⟩ := h
  cases inbox <;> rfl

theorem leads_readRegister (register : UInt8) :
    (h.event (.read register)).Leads h (h.readRegister register).2 := by
  unfold event
  dsimp only
  split
  case isTrue data =>
      rw [data, readRegister_data]
      exact ⟨by cases h.state <;> rfl, rfl, by simp, by simp,
        fun short => (name_eq_self rfl rfl short).symm⟩
  case isFalse other =>
      rw [Delivering.readOther other]
      exact leads_nothing h

theorem leads_provide (bytes : List UInt8) :
    Leads (if h.state = .waitingRead then .provided bytes else .nothing) h
      ((h.provide bytes).getD h) := by
  unfold provide
  split
  case isTrue waiting =>
      exact ⟨by rw [waiting]; rfl, rfl, rfl, by simp, fun short => (name_eq_self rfl rfl short).symm⟩
  case isFalse => exact leads_nothing h

theorem leads_cancel :
    Leads (if h.state = .waitingRead then .cancelled else .nothing) h (h.cancel.getD h) := by
  unfold cancel
  split
  case isTrue waiting =>
      exact ⟨by rw [waiting]; rfl, rfl, by simp, rfl, fun short => (name_eq_self rfl rfl short).symm⟩
  case isFalse => exact leads_nothing h

theorem leads_acknowledge :
    Leads (if h.state = .writeReady then .acknowledged else .nothing) h
      (h.acknowledge.getD h) := by
  unfold acknowledge
  split
  case isTrue ready =>
      exact ⟨by rw [ready]; rfl, rfl, by simp, by simp,
        fun short => (name_eq_self rfl rfl short).symm⟩
  case isFalse => exact leads_nothing h

theorem leads_reset : Leads .reset h {} where
  state := by cases h.state <;> rfl
  inbox := rfl
  delivered := by simp
  failed := by simp
  typed _ := rfl

/-- **What an action amounts to is what the device does.** -/
theorem leads_after (a : HostFileAction) : (h.event a).Leads h (h.after a) := by
  cases a with
  | read register => exact leads_readRegister h register
  | write register v => exact leads_writeRegister h register v
  | provide bytes => exact leads_provide h bytes
  | cancel => exact leads_cancel h
  | acknowledge => exact leads_acknowledge h
  | reset => exact leads_reset h

end HostFile

/-! ### What a log tells -/

namespace HostFileEvent

/-- The part of a log after the last event of some kind, or all of it when there was none. -/
def since (ends : HostFileEvent → Bool) (log : List HostFileEvent) : List HostFileEvent :=
  log.rtakeWhile fun e => !ends e

theorem since_concat (ends : HostFileEvent → Bool) (log : List HostFileEvent) (e : HostFileEvent) :
    since ends (log ++ [e]) = if ends e then [] else since ends log ++ [e] := by
  rw [since, List.rtakeWhile_concat]
  cases ends e <;> rfl

/-- Something has happened since something else: it happens now, or it had happened and the other does
not happen now. -/
theorem any_since_concat {sets forgets : HostFileEvent → Bool} {e : HostFileEvent}
    (apart : sets e = true → forgets e = false) (log : List HostFileEvent) :
    (since forgets (log ++ [e])).any sets =
      (sets e || ((since forgets log).any sets && !forgets e)) := by
  rw [since_concat]
  cases ends : forgets e with
  | true =>
      cases set : sets e with
      | true => exact absurd (apart set) (by simp [ends])
      | false => simp
  | false => simp [Bool.or_comm]

/-- The characters in a part of a log. -/
def characters (log : List HostFileEvent) : List UInt8 := log.filterMap character?

/-- The typed name at the end of a log: what was typed since the name was last used or dropped. -/
def typedName (log : List HostFileEvent) : List UInt8 :=
  (characters (since endsName log)).take HostFile.maxNameLength

theorem typedName_concat (log : List HostFileEvent) (e : HostFileEvent) :
    typedName (log ++ [e]) = name (typedName log) e := by
  unfold typedName name
  rw [since_concat]
  split
  · rfl
  · have added : characters (since endsName log ++ [e]) =
        characters (since endsName log) ++ e.character?.toList := by
      cases typed : e.character? <;> simp [characters, typed]
    rw [added, List.take_append, List.take_append, List.take_take, Nat.min_self, List.length_take]
    congr 2
    omega

end HostFileEvent

namespace HostFile

open HostFileEvent

/-- The device shows what a log tells. -/
structure Recalls (h : HostFile) (log : List HostFileEvent) : Prop where
  state : h.state = log.foldl next .idle
  inbox : h.inbox = log.foldl left []
  delivered : h.delivered = (since forgetsDelivery log).any delivers
  failed : h.failed = (since forgetsFailure log).any fails
  typed : h.typed = typedName log

variable {h : HostFile} {log : List HostFileEvent}

/-- What an action does is added to the log. -/
theorem Recalls.after (recalls : h.Recalls log) (a : HostFileAction) :
    (h.after a).Recalls (log ++ [h.event a]) := by
  have leads := leads_after h a
  have short : h.typed.length ≤ maxNameLength := by
    rw [recalls.typed, typedName, List.length_take]
    exact Nat.min_le_left _ _
  constructor
  case state => rw [leads.state, recalls.state, List.foldl_append, List.foldl_cons, List.foldl_nil]
  case inbox => rw [leads.inbox, recalls.inbox, List.foldl_append, List.foldl_cons, List.foldl_nil]
  case delivered =>
      rw [leads.delivered, recalls.delivered, any_since_concat]
      cases h.event a <;> simp
  case failed =>
      rw [leads.failed, recalls.failed, any_since_concat]
      cases h.event a <;> simp
  case typed => rw [leads.typed short, recalls.typed, typedName_concat]

/-- **The device shows what the log of its past tells**, by induction on what guest and host did. -/
theorem recalls_of_reachable (past : List HostFileAction) :
    (past.foldl after {}).Recalls (events {} past) := by
  induction past using List.reverseRecOn with
  | nil => exact ⟨rfl, rfl, rfl, rfl, rfl⟩
  | append_singleton past a ih =>
      rw [events_concat, List.foldl_append]
      exact ih.after a

end HostFile

end BankedZ80
