import BankedZ80.Proofs.HostFile.Event

/-!
# State and status of a transfer

The guest reads in the status register how its transfer stands: whether bytes are left, whether the file
was delivered and is at its end, whether a request failed, and whether the host is to act. The device
keeps this in its state, its inbox and two flags, which many commands and calls change one by one.

* `HostFile.status_bits` takes the register apart.
* `HostFile.StatusTells` reads every bit off the log of what guest and host did, and
  `HostFile.status_tells_history` says that this is so after any past, together with the moves that the
  session can make.
-/

namespace BankedZ80

open HostFileEvent

namespace HostFileEvent

/-- No event makes the host see a session as being read. -/
theorem next_ne_reading {s : TransferState} (h : s ≠ .reading) (e : HostFileEvent) :
    next s e ≠ .reading := by
  cases s <;> cases e <;> first | exact h | nofun

theorem foldl_next_ne_reading (log : List HostFileEvent) {s : TransferState} (h : s ≠ .reading) :
    log.foldl next s ≠ .reading := by
  induction log generalizing s with
  | nil => exact h
  | cons e rest ih => exact ih (next_ne_reading h e)

end HostFileEvent

namespace HostFile

/-! ### The bits of the status register -/

/-- Each bit of the status register stands for itself, and there are no others. -/
theorem status_bits (h : HostFile) :
    (h.status &&& 0x01 ≠ 0 ↔ h.inbox ≠ []) ∧
      (h.status &&& 0x02 ≠ 0 ↔ h.inbox = [] ∧ h.delivered = true) ∧
      (h.status &&& 0x04 ≠ 0 ↔ h.failed = true) ∧
      (h.status &&& 0x80 ≠ 0 ↔ h.state = .waitingRead ∨ h.state = .writeReady) ∧
      h.status &&& 0x78 = 0 := by
  unfold status
  by_cases left : h.inbox = [] <;> cases delivered : h.delivered <;> cases failed : h.failed <;>
    by_cases waiting : h.state = .waitingRead ∨ h.state = .writeReady <;>
    simp only [left, waiting, ne_eq, not_true_eq_false, not_false_eq_true, if_true, if_false,
      and_true, and_false, iff_true, iff_false, Bool.false_eq_true] <;>
    decide

/-! ### The bits and the log -/

/-- What the status register tells of what guest and host did. -/
structure StatusTells (h : HostFile) (log : List HostFileEvent) : Prop where
  /-- Bit 0: bytes of the last delivery are left. -/
  dataAvailable : (h.readRegister 3).1 &&& 0x01 ≠ 0 ↔ log.foldl left [] ≠ []
  /-- Bit 1: no bytes are left, and a file was delivered since the last open or close for reading. -/
  endOfData : (h.readRegister 3).1 &&& 0x02 ≠ 0 ↔
    log.foldl left [] = [] ∧ ∃ e ∈ since forgetsDelivery log, e.delivers = true
  /-- Bit 2: an open was refused or a request cancelled since the last open that was accepted. -/
  failed : (h.readRegister 3).1 &&& 0x04 ≠ 0 ↔ ∃ e ∈ since forgetsFailure log, e.fails = true
  /-- Bit 7: the host is to provide a file or to collect one. -/
  waiting : (h.readRegister 3).1 &&& 0x80 ≠ 0 ↔ h.state = .waitingRead ∨ h.state = .writeReady
  others : (h.readRegister 3).1 &&& 0x78 = 0

theorem Recalls.statusTells {h : HostFile} {log : List HostFileEvent} (recalls : h.Recalls log) :
    h.StatusTells log := by
  obtain ⟨available, exhausted, failed, waiting, others⟩ := h.status_bits
  rw [recalls.inbox] at available exhausted
  rw [recalls.delivered, List.any_eq_true] at exhausted
  rw [recalls.failed, List.any_eq_true] at failed
  exact ⟨available, exhausted, failed, waiting, others⟩

/-- **State and status tell what happened.** Whatever guest and host did, the host never sees a session
being read; the session moves with the next action as `HostFileEvent.next` has it and not otherwise;
and every bit of the status register says of the past what it is there to say. -/
theorem status_tells_history (past : List HostFileAction) :
    let h := past.foldl after {}
    let log := events {} past
    h.state ≠ .reading ∧ (∀ a, (h.after a).state = next h.state (h.event a)) ∧
      h.StatusTells log := by
  intro h log
  have recalls : h.Recalls log := recalls_of_reachable past
  refine ⟨?_, fun a => (leads_after h a).state, recalls.statusTells⟩
  rw [recalls.state]
  exact foldl_next_ne_reading log nofun

/-- A file of one byte that was delivered and taken, with an open refused in between, reads as over and
failed. -/
example :
    let past : List HostFileAction := [.write 0 1, .provide [0x2A], .write 0 2, .read 2]
    events {} past = [.openedRead, .provided [0x2A], .refused, .tookData] ∧
      ((past.foldl after {}).readRegister 3).1 = 0x06 := by
  decide

end HostFile

end BankedZ80
