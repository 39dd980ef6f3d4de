import BankedZ80.Proofs.HostFile.Delivery

/-!
# Collecting a file of the guest

The guest opens a file for writing, sends its bytes to the data register, and closes it; the host
then collects the file. In between guest and host may do whatever they like: type other names, try
to open or close other sessions, read registers, and offer, cancel or acknowledge files that nobody
waits for. The session is over when the host acknowledges the closed file, or when the device is
reset.

* `HostFileAction.sent` is read off the actions alone: the values written to the data register before
  the file is closed.
* `WriteSession` is all that a session consists of, and `WriteSession.after` all that can happen to
  it. `HostFile.Carries` ties a device to the session on it; `Carries.after` is the step and
  `Carries.run` the run.
* `HostFile.collection_intact` puts them together for a device with any past.
-/

namespace BankedZ80

namespace HostFileAction

/-- The guest closes the file that it writes. -/
def close : HostFileAction := .write 0 4

/-- The value that an action writes to the data register, if it writes that register. -/
def data? : HostFileAction → Option UInt8
  | .write register v => if register = 2 then some v else none
  | _ => none

/-- The values written to the data register before the file is closed. -/
def sent : List HostFileAction → List UInt8
  | [] => []
  | a :: rest => if a = close then [] else a.data?.toList ++ sent rest

end HostFileAction

open HostFileAction

/-! ### Sessions by themselves -/

/-- A file that the guest writes. -/
structure WriteSession where
  name : List UInt8
  bytes : List UInt8 := []
  closed : Bool := false

namespace WriteSession

/-- The session after an action: until it is closed, bytes are added at its end. -/
def after (s : WriteSession) (a : HostFileAction) : WriteSession :=
  if s.closed then s
  else if a = close then { s with closed := true }
  else { s with bytes := s.bytes ++ a.data?.toList }

theorem after_of_closed {s : WriteSession} (closed : s.closed = true) (a : HostFileAction) :
    s.after a = s := if_pos closed

/-- An action that neither closes the file nor writes to the data register is no part of it. -/
theorem after_of_other (s : WriteSession) {a : HostFileAction} (open_ : a ≠ close)
    (none : a.data? = none) : s.after a = s := by
  cases closed : s.closed with
  | true => exact after_of_closed closed a
  | false =>
      rw [after, if_neg (by simp [closed]), if_neg open_, none, Option.toList_none, List.append_nil]

theorem foldl_after_of_closed {s : WriteSession} (closed : s.closed = true)
    (actions : List HostFileAction) : actions.foldl after s = s := by
  induction actions with
  | nil => rfl
  | cons a rest ih => rw [List.foldl_cons, after_of_closed closed, ih]

/-- **A session gathers what is sent.** By induction on the actions; those after the close play no
part. -/
theorem foldl_after (actions : List HostFileAction) {s : WriteSession} (fresh : s.closed = false) :
    actions.foldl after s =
      { name := s.name, bytes := s.bytes ++ sent actions, closed := decide (close ∈ actions) } := by
  induction actions generalizing s with
  | nil =>
      obtain ⟨name, bytes, closed⟩ := s
      cases fresh
      simp [sent]
  | cons a rest ih =>
      have still : ¬s.closed = true := by simp [fresh]
      rw [List.foldl_cons, sent]
      by_cases closes : a = close
      · have now : s.after a = { s with closed := true } := by rw [after, if_neg still, if_pos closes]
        rw [now, foldl_after_of_closed rfl]
        simp [closes]
      · have now : s.after a = { s with bytes := s.bytes ++ a.data?.toList } := by
          rw [after, if_neg still, if_neg closes]
        rw [now, ih (s := { s with bytes := s.bytes ++ a.data?.toList }) fresh]
        simp [closes, Ne.symm closes]

end WriteSession

namespace HostFile

/-! ### What the host sees, and what ends it -/

/-- Is a session of writing over with an action: an acknowledgement that is not refused, or a reset?
-/
def endsWriting (h : HostFile) : HostFileAction → Bool
  | .acknowledge => h.acknowledge.isSome
  | .reset => true
  | _ => false

/-- No action of a list ends a session of writing. -/
def keepsWriting (h : HostFile) : List HostFileAction → Bool
  | [] => true
  | a :: rest => !h.endsWriting a && (h.after a).keepsWriting rest

/-- The name of a file that is opened for writing now. -/
def nameToWrite (h : HostFile) : List UInt8 := if h.typed = [] then defaultWriteName else h.typed

/-- The host sees the name and the contents of a file exactly when there is a finished one. -/
theorem finished_iff (h : HostFile) :
    (h.finishedName.isSome ↔ h.state = .writeReady) ∧
      (h.finishedData.isSome ↔ h.state = .writeReady) := by
  unfold finishedName finishedData
  by_cases ready : h.state = .writeReady <;> simp [ready]

/-! ### Sessions on the device -/

/-- The device carries a session. -/
structure Carries (h : HostFile) (s : WriteSession) : Prop where
  state : h.state = if s.closed then .writeReady else .writing
  name : h.writeName = s.name
  bytes : Bytes.toList h.outbox = s.bytes

variable {h h' : HostFile} {s : WriteSession}

/-- An accepted open starts a session with nothing in it. -/
theorem carries_of_accepts (accepted : h.accepts 2 = true) :
    (h.after (.write 0 2)).Carries { name := h.nameToWrite } := by
  have opened : h.after (.write 0 2) = h.openWrite := rfl
  have free : ¬h.busy = true := by
    intro busy
    have refused : h.accepts 2 = !h.openWrite.failed := rfl
    rw [refused, openWrite_of_busy busy] at accepted
    cases accepted
  rw [opened, openWrite, if_neg free]
  exact ⟨rfl, rfl, rfl⟩

namespace Carries

/-- State, name and outbox are all that matters. -/
theorem congr (carries : h.Carries s) (state : h'.state = h.state)
    (name : h'.writeName = h.writeName) (outbox : h'.outbox = h.outbox) : h'.Carries s :=
  ⟨state.trans carries.state, name.trans carries.name, outbox ▸ carries.bytes⟩

theorem not_idle (carries : h.Carries s) : h.state ≠ .idle ∧ h.state ≠ .waitingRead := by
  rw [carries.state]
  split <;> simp

/-- Nobody else can open a session. -/
theorem busy (carries : h.Carries s) : h.busy = true := by
  have free : ¬h.busy = false := fun free => carries.not_idle.1 (busy_eq_false.1 free).1
  exact eq_true_of_ne_false free

/-- The host has nothing to provide. -/
theorem provide (carries : h.Carries s) (bytes : List UInt8) : h.provide bytes = none :=
  if_neg carries.not_idle.2

theorem cancel (carries : h.Carries s) : h.cancel = none := if_neg carries.not_idle.2

/-- Closing a read has no bearing on the session. -/
theorem closeRead (carries : h.Carries s) : h.closeRead.Carries s := by
  unfold HostFile.closeRead
  dsimp only
  rw [if_neg carries.not_idle.2]
  exact carries.congr rfl rfl rfl

/-- Closing the file closes the session, unless it was closed before. -/
theorem closeWrite (carries : h.Carries s) : h.closeWrite.Carries (s.after close) := by
  unfold HostFile.closeWrite
  have state := carries.state
  cases closed : s.closed with
  | true =>
      rw [closed, if_pos rfl] at state
      rw [WriteSession.after_of_closed closed, state]
      exact carries
  | false =>
      rw [closed, if_neg Bool.false_ne_true] at state
      have now : s.after close = { s with closed := true } := by
        rw [WriteSession.after, if_neg (by simp [closed]), if_pos rfl]
      rw [now, if_pos state]
      exact ⟨rfl, carries.name, carries.bytes⟩

/-- A command of the guest closes the session or leaves it alone. -/
theorem command (carries : h.Carries s) (v : UInt8) :
    (h.command v).Carries (s.after (.write 0 v)) := by
  have other (open_ : v ≠ 4) : s.after (.write 0 v) = s := by
    refine s.after_of_other (fun same => open_ ?_) rfl
    injection same
  unfold HostFile.command
  split
  case h_1 one =>
      rw [other (by rintro rfl; cases one), openRead_of_busy carries.busy]
      exact carries.congr rfl rfl rfl
  case h_2 two =>
      rw [other (by rintro rfl; cases two), openWrite_of_busy carries.busy]
      exact carries.congr rfl rfl rfl
  case h_3 three =>
      rw [other (by rintro rfl; cases three)]
      exact carries.closeRead
  case h_4 four =>
      obtain rfl : v = 4 := UInt8.toNat_inj.1 four
      exact carries.closeWrite
  case h_5 five =>
      rw [other (by rintro rfl; cases five)]
      exact carries.congr rfl rfl rfl
  case h_6 _ _ _ unknown _ =>
      rw [other (by rintro rfl; exact unknown rfl)]
      exact carries

/-- A byte is added to the file until it is closed. -/
theorem send (carries : h.Carries s) (v : UInt8) :
    (if h.state = .writing then { h with outbox := h.outbox.push v } else h).Carries
      (s.after (.write 2 v)) := by
  have state := carries.state
  cases closed : s.closed with
  | true =>
      rw [closed, if_pos rfl] at state
      rw [WriteSession.after_of_closed closed, state]
      exact carries
  | false =>
      rw [closed, if_neg Bool.false_ne_true] at state
      have now : s.after (.write 2 v) = { s with bytes := s.bytes ++ [v] } := by
        rw [WriteSession.after, if_neg (by simp [closed]), if_neg (by simp [close])]
        rfl
      have pushed : Bytes.toList (h.outbox.push v) = Bytes.toList h.outbox ++ [v] := by
        simp [Bytes.toList, ByteArray.data_push]
      rw [now, if_pos state]
      exact ⟨carries.state, carries.name, by rw [pushed, carries.bytes]⟩

theorem writeRegister (carries : h.Carries s) (register v : UInt8) :
    (h.writeRegister register v).Carries (s.after (.write register v)) := by
  have other (command : register ≠ 0) (data : register ≠ 2) : s.after (.write register v) = s := by
    refine s.after_of_other (fun same => command ?_) (if_neg data)
    injection same
  unfold HostFile.writeRegister
  split
  case h_1 zero =>
      obtain rfl : register = 0 := UInt8.toNat_inj.1 zero
      exact carries.command v
  case h_2 one =>
      rw [other (by rintro rfl; cases one) (by rintro rfl; cases one)]
      unfold typeName
      split
      · exact carries.congr rfl rfl rfl
      · exact carries
  case h_3 two =>
      obtain rfl : register = 2 := UInt8.toNat_inj.1 two
      exact carries.send v
  case h_4 command _ data =>
      rw [other (by rintro rfl; exact command rfl) (by rintro rfl; exact data rfl)]
      exact carries

theorem readRegister (carries : h.Carries s) (register : UInt8) :
    (h.readRegister register).2.Carries s := by
  unfold HostFile.readRegister
  split
  case h_3 =>
      split
      · exact carries
      · exact carries.congr rfl rfl rfl
  all_goals exact carries

/-- **A step of a session.** What the device does in any order is what happens to the session. -/
theorem after (carries : h.Carries s) {a : HostFileAction} (go : h.endsWriting a = false) :
    (h.after a).Carries (s.after a) := by
  have other (open_ : a ≠ close) (none : a.data? = none) : s.after a = s :=
    s.after_of_other open_ none
  cases a with
  | read register =>
      rw [other (by simp [close]) rfl]
      exact carries.readRegister register
  | write register v => exact carries.writeRegister register v
  | provide bytes =>
      rw [other (by simp [close]) rfl, HostFile.after, carries.provide]
      exact carries
  | cancel =>
      rw [other (by simp [close]) rfl, HostFile.after, carries.cancel]
      exact carries
  | acknowledge =>
      have refused : h.acknowledge = none :=
        Option.isNone_iff_eq_none.1 (Option.isSome_eq_false_iff.1 go)
      rw [other (by simp [close]) rfl, HostFile.after, refused]
      exact carries
  | reset => cases go

/-- **A run of a session.** -/
theorem run (carries : h.Carries s) {actions : List HostFileAction}
    (go : h.keepsWriting actions = true) :
    (actions.foldl HostFile.after h).Carries (actions.foldl WriteSession.after s) := by
  induction actions generalizing h s with
  | nil => exact carries
  | cons a rest ih =>
      rw [keepsWriting, Bool.and_eq_true, Bool.not_eq_true'] at go
      exact ih (carries.after go.1) go.2

end Carries

/-! ### The whole session -/

/-- What the host sees of a file that was opened under a name, after some actions. -/
structure Collected (name : List UInt8) (actions : List HostFileAction) (h : HostFile) : Prop where
  /-- Until the guest closes the file, there is nothing to collect. -/
  unfinished : close ∉ actions →
    h.state = .writing ∧ h.finishedName = none ∧ h.finishedData = none
  /-- From then on, there are the name that it was opened under and the bytes sent before. -/
  finished : close ∈ actions →
    h.state = .writeReady ∧ h.finishedName = some (nameText name) ∧
      h.finishedData = some (Bytes.ofList (sent actions))

theorem Carries.collected {name : List UInt8} {actions : List HostFileAction}
    (carries : h.Carries { name, bytes := sent actions, closed := decide (close ∈ actions) }) :
    Collected name actions h := by
  obtain ⟨state, named, bytes⟩ := carries
  dsimp only at state named bytes
  constructor
  case unfinished =>
      intro open_
      rw [decide_eq_false open_, if_neg Bool.false_ne_true] at state
      simp [finishedName, finishedData, state]
  case finished =>
      intro closed
      rw [decide_eq_true closed, if_pos rfl] at state
      simp [finishedName, finishedData, state, named, ← bytes]

/-- **What the guest writes reaches the host whole.** Whatever guest and host did before, the host
sees a file exactly when there is a finished one; and from an open for writing that is accepted until
the file is acknowledged, whatever they do, this is the file of that open: under its name, with the
bytes that were sent before it was closed, in order, and nothing else. -/
theorem collection_intact (past : List HostFileAction) :
    let h := past.foldl after {}
    ((h.finishedName.isSome ↔ h.state = .writeReady) ∧
      (h.finishedData.isSome ↔ h.state = .writeReady)) ∧
      (h.accepts 2 = true → ∀ actions, (h.after (.write 0 2)).keepsWriting actions = true →
        Collected h.nameToWrite actions (actions.foldl after (h.after (.write 0 2)))) := by
  intro h
  refine ⟨finished_iff h, fun accepted actions go => ?_⟩
  have carries := (carries_of_accepts accepted).run go
  rw [WriteSession.foldl_after actions rfl, List.nil_append] at carries
  exact carries.collected

/-- The guest has written a file of one byte, which the host has collected, and typed a name. -/
def writtenBefore : List HostFileAction :=
  [.write 0 2, .write 2 0x2A, .write 0 4, .acknowledge, .write 1 0x41]

/-- The guest writes two bytes while it types, opens and closes other files, and one more when the
file is closed; the host calls out of place. -/
def interleaved : List HostFileAction :=
  [.write 2 0x68, .write 0 1, .acknowledge, .write 1 0x42, .write 0 3, .read 2, .provide [0x00],
    .write 2 0x69, .write 0 5, .cancel, .write 0 4, .write 2 0xFF, .write 0 2, .read 0]

theorem interleaved_collected :
    let h := writtenBefore.foldl after {}
    h.accepts 2 = true ∧ (h.after (.write 0 2)).keepsWriting interleaved = true ∧
      sent interleaved = [0x68, 0x69] ∧
      Collected h.nameToWrite interleaved (interleaved.foldl after (h.after (.write 0 2))) :=
  ⟨rfl, rfl, rfl, (collection_intact writtenBefore).2 rfl interleaved rfl⟩

end HostFile

end BankedZ80
