import BankedZ80.HostFile

/-!
# What guest and host do with the transfer device

The guest reads and writes registers, the host provides, cancels and acknowledges, and a reset
empties the device. The two sides take turns in any order, so what both do together is a list of
actions; `HostFile.after` is the effect of a single one, and a refused call of the host has none.

`HostFile.settled_of_reachable` is the invariant behind every delivery: bytes that the guest has not
taken are there only between sessions.
-/

namespace BankedZ80

/-- Something that the guest or the host does with the device. -/
inductive HostFileAction where
  | read (register : UInt8)
  | write (register v : UInt8)
  | provide (bytes : List UInt8)
  | cancel
  | acknowledge
  | reset
deriving DecidableEq

namespace HostFile

/-- The device after an action. -/
def after (h : HostFile) : HostFileAction → HostFile
  | .read register => (h.readRegister register).2
  | .write register v => h.writeRegister register v
  | .provide bytes => (h.provide bytes).getD h
  | .cancel => h.cancel.getD h
  | .acknowledge => h.acknowledge.getD h
  | .reset => {}

/-! ### Sessions and undelivered bytes -/

/-- Undelivered bytes are there only while the host sees no session. -/
def Settled (h : HostFile) : Prop := h.state ≠ .idle → h.inbox = []

variable {h : HostFile}

/-- A device that refuses nobody is between sessions, with everything delivered. -/
theorem busy_eq_false : h.busy = false ↔ h.state = .idle ∧ h.inbox = [] := by
  unfold busy guestState
  by_cases idle : h.state = .idle <;> by_cases empty : h.inbox = [] <;> simp [idle, empty]

theorem Settled.openRead (settled : h.Settled) : h.openRead.Settled := by
  unfold HostFile.openRead
  split
  · exact settled
  · next free =>
      intro _
      exact (busy_eq_false.1 (eq_false_of_ne_true free)).2

theorem Settled.openWrite (settled : h.Settled) : h.openWrite.Settled := by
  unfold HostFile.openWrite
  split
  · exact settled
  · next free =>
      intro _
      exact (busy_eq_false.1 (eq_false_of_ne_true free)).2

theorem settled_closeRead (h : HostFile) : h.closeRead.Settled := by
  intro _
  unfold closeRead
  dsimp only
  split <;> rfl

theorem Settled.closeWrite (settled : h.Settled) : h.closeWrite.Settled := by
  unfold HostFile.closeWrite
  split
  · next writing =>
      intro _
      exact settled (by rw [writing]; decide)
  · exact settled

theorem Settled.command (settled : h.Settled) (v : UInt8) : (h.command v).Settled := by
  unfold HostFile.command
  split
  · exact settled.openRead
  · exact settled.openWrite
  · exact settled_closeRead h
  · exact settled.closeWrite
  · exact settled
  · exact settled

theorem Settled.readRegister (settled : h.Settled) (register : UInt8) :
    (h.readRegister register).2.Settled := by
  unfold HostFile.readRegister
  split
  case h_3 =>
      split
      · exact settled
      · next v rest some =>
          intro session
          have none := settled session
          rw [some] at none
          cases none
  all_goals exact settled

theorem Settled.writeRegister (settled : h.Settled) (register v : UInt8) :
    (h.writeRegister register v).Settled := by
  unfold HostFile.writeRegister
  split
  · exact settled.command v
  · unfold typeName
    split <;> exact settled
  · split <;> exact settled
  · exact settled

theorem provide_eq_some {h' : HostFile} {bytes : List UInt8} (ok : h.provide bytes = some h') :
    h.state = .waitingRead ∧ h' = { h with inbox := bytes, delivered := true, state := .idle } := by
  unfold HostFile.provide at ok
  split at ok
  · next waiting => exact ⟨waiting, (Option.some.inj ok).symm⟩
  · cases ok

theorem idle_of_cancel {h' : HostFile} (ok : h.cancel = some h') : h'.state = .idle := by
  unfold HostFile.cancel at ok
  split at ok <;> cases ok
  rfl

theorem idle_of_acknowledge {h' : HostFile} (ok : h.acknowledge = some h') : h'.state = .idle := by
  unfold HostFile.acknowledge at ok
  split at ok <;> cases ok
  rfl

/-- A call of the host that is not refused ends the session. -/
theorem Settled.getD (settled : h.Settled) {result : Option HostFile}
    (idle : ∀ h', result = some h' → h'.state = .idle) : (result.getD h).Settled := by
  cases result with
  | none => exact settled
  | some h' => exact fun session => absurd (idle h' rfl) session

/-- Every action keeps undelivered bytes out of the sessions. -/
theorem Settled.after (settled : h.Settled) (a : HostFileAction) : (h.after a).Settled := by
  cases a with
  | read register => exact settled.readRegister register
  | write register v => exact settled.writeRegister register v
  | provide bytes =>
      refine settled.getD fun h' ok => ?_
      rw [(provide_eq_some ok).2]
  | cancel => exact settled.getD fun h' ok => idle_of_cancel ok
  | acknowledge => exact settled.getD fun h' ok => idle_of_acknowledge ok
  | reset => exact fun session => absurd rfl session

/-- Whatever guest and host did, undelivered bytes are there only between sessions. -/
theorem settled_of_reachable (actions : List HostFileAction) :
    (actions.foldl after {}).Settled := by
  suffices ∀ h : HostFile, h.Settled → (actions.foldl after h).Settled from
    this {} fun session => absurd rfl session
  induction actions with
  | nil => exact fun _ settled => settled
  | cons a rest ih => exact fun h settled => ih (h.after a) (settled.after a)

end HostFile

end BankedZ80
