import BankedZ80.Proofs.Console.Effect
import BankedZ80.Proofs.History.DiskLog

/-!
# Firmware calls that are refused

`refusal?` tells from the registers and the disks whether a call is refused, and why:

* The number in B is that of no function, or the number in C that of nothing which the function knows.
* The number in C is that of no console, or of no disk unit.
* The disk unit is empty.

A refused call ends at once with its reason (`call_of_refusal`).
-/

namespace BankedZ80

namespace Hbios

/-! ### What a call asks for -/

/-- Does B hold the number of the function? -/
def Asks (s : HbiosState) (f : HbiosFunction) : Prop := HbiosFunction.ofCode? s.core.b = some f

instance (s : HbiosState) (f : HbiosFunction) : Decidable (Asks s f) :=
  inferInstanceAs (Decidable (HbiosFunction.ofCode? s.core.b = some f))

/-- Are sectors to be moved? -/
def AsksTransfer (s : HbiosState) : Prop := Asks s .diskRead ∨ Asks s .diskWrite

instance (s : HbiosState) : Decidable (AsksTransfer s) :=
  inferInstanceAs (Decidable (_ ∨ _))

theorem asks_unique {s : HbiosState} {f g : HbiosFunction} (hf : Asks s f) (hg : Asks s g) : f = g :=
  Option.some.inj (hf.symm.trans hg)

theorem asksTransfer {s : HbiosState} {write : Bool}
    (function : Asks s (if write then .diskWrite else .diskRead)) : AsksTransfer s := by
  cases write with
  | false => exact .inl function
  | true => exact .inr function

/-- No other function keeps a count in E. -/
theorem no_count {s : HbiosState} {f : HbiosFunction} (function : Asks s f)
    (other : f ∉ [.diskMedia, .diskRead, .diskWrite]) : ¬(Asks s .diskMedia ∨ AsksTransfer s) := by
  rintro (asked | asked | asked) <;> cases asks_unique function asked <;> exact other (by decide)

/-- Console input is asked for, and there is none. -/
def Blocks (s : HbiosState) : Prop :=
  Asks s .charInput ∧ isConsole s.core.c = true ∧ s.board.devices.uart.input = []

instance (s : HbiosState) : Decidable (Blocks s) := inferInstanceAs (Decidable (_ ∧ _ ∧ _))

/-- A warm or a cold restart is asked for. -/
def Restarts (s : HbiosState) : Prop := Asks s .systemReset ∧ (s.core.c = 1 ∨ s.core.c = 2)

instance (s : HbiosState) : Decidable (Restarts s) := inferInstanceAs (Decidable (_ ∧ _))

/-! ### Refusals -/

/-- What is wrong with a disk unit, if anything. -/
def missing? (disks : DiskController) (n : Nat) : Option HbiosResult :=
  if maxUnits ≤ n then some .noUnit
  else if disks.isLoaded n then none
  else some .noMedia

/-- Why a call is refused, if it is. A transfer of no sectors does not look at its unit. -/
def refusal? (s : HbiosState) : Option HbiosResult :=
  match HbiosFunction.ofCode? s.core.b with
  | none => some .noFunction
  | some .charInput | some .charOutput | some .charInputStatus | some .charOutputStatus =>
    if s.core.c = 0x00 ∨ s.core.c = 0x80 then none else some .noUnit
  | some .diskRead | some .diskWrite =>
    if s.core.e = 0 then none else missing? s.board.devices.disks s.core.c.toNat
  | some .diskStatus | some .diskSeek | some .diskMedia | some .diskCapacity =>
    missing? s.board.devices.disks s.core.c.toNat
  | some .systemReset => if s.core.c = 1 ∨ s.core.c = 2 then none else some .noFunction
  | some .systemGet =>
    if s.core.c = 0x00 ∨ s.core.c = 0x10 ∨ s.core.c = 0x20 then none else some .noFunction
  | some .clockRead | some .systemVersion | some .systemSetBank | some .systemGetBank => none

/-- What a refused call leaves apart from its reason: where E holds a count, it is zero. -/
def refused (s : HbiosState) : HbiosState :=
  if Asks s .diskMedia ∨ AsksTransfer s then { s with core := { s.core with e := 0 } } else s

theorem isConsole_iff (unit : UInt8) : isConsole unit = true ↔ unit = 0x00 ∨ unit = 0x80 := by
  rw [isConsole, Bool.or_eq_true, beq_iff_eq, beq_iff_eq]

variable {s : HbiosState} {n : Nat}

/-- A unit is looked up in vain exactly for what is wrong with it. -/
theorem missing?_eq (disks : DiskController) (n : Nat) :
    missing? disks n =
      match disks.unit n with
      | .ok _ => none
      | .error e => some (resultOf e) := by
  rw [disks.unit_eq, missing?, DiskController.isLoaded]
  by_cases there : n < maxUnits
  · rw [if_pos there, if_neg (Nat.not_le_of_lt there)]
    cases disks.unit? n <;> rfl
  · rw [if_neg there, if_pos (Nat.le_of_not_lt there)]
    rfl

theorem unit_of_missing {disks : DiskController} {reason : HbiosResult}
    (h : missing? disks n = some reason) : ∃ e, disks.unit n = .error e ∧ resultOf e = reason := by
  rw [missing?_eq] at h
  cases found : disks.unit n with
  | ok d =>
      rw [found] at h
      cases h
  | error e =>
      rw [found] at h
      exact ⟨e, rfl, Option.some.inj h⟩

theorem refused_of_other {f : HbiosFunction} (function : Asks s f)
    (other : f ∉ [.diskMedia, .diskRead, .diskWrite]) : refused s = s :=
  if_neg (no_count function other)

theorem consoleCall_of_refusal (f : HbiosFunction) (other : ¬(s.core.c = 0x00 ∨ s.core.c = 0x80)) :
    consoleCall s f = finish s .noUnit := by
  have console : isConsole s.core.c = false := by
    rw [Bool.eq_false_iff, ne_eq, isConsole_iff]
    exact other
  unfold consoleCall
  rw [console]
  rfl

theorem diskCall_of_refusal {f : HbiosFunction} {reason : HbiosResult} (media : f ≠ .diskMedia)
    (h : missing? s.board.devices.disks s.core.c.toNat = some reason) :
    diskCall s f = finish s reason := by
  obtain ⟨e, failed, rfl⟩ := unit_of_missing h
  unfold diskCall
  dsimp only
  rw [failed]
  cases f <;> first | rfl | exact absurd rfl media

/-- A transfer of some sectors whose unit is not there moves none. -/
theorem transfer_of_refusal {reason : HbiosResult} (some_sectors : s.core.e ≠ 0)
    (h : missing? s.board.devices.disks s.core.c.toNat = some reason) (write : Bool) :
    transfer s write = finish { s with core := { s.core with e := 0 } } reason := by
  obtain ⟨e, failed, rfl⟩ := unit_of_missing h
  have checked : (Transfer.ofCall s).check write s.core.c.toNat = .error e := by
    rw [Transfer.check, Transfer.ofCall, failed]
    rfl
  have stopped : (Transfer.ofCall s).moveMany write s.core.c.toNat s.core.e.toNat =
      (resultOf e, Transfer.ofCall s) := by
    cases sectors : s.core.e.toNat with
    | zero => exact absurd (UInt8.toNat_inj.1 sectors) some_sectors
    | succ count => rw [Transfer.moveMany, checked]
  unfold Transfer.ofCall at stopped
  rw [transfer, stopped]

theorem systemReset_of_refusal (other : ¬(s.core.c = 1 ∨ s.core.c = 2)) :
    systemCall s .systemReset = finish s .noFunction := by
  obtain ⟨warm, cold⟩ := not_or.1 other
  rw [systemCall, if_neg warm, if_neg cold]

/-- The queries that a system query knows. -/
theorem systemCount?_isSome_iff (disks : DiskController) (query : UInt8) :
    (systemCount? disks query).isSome ↔ query = 0x00 ∨ query = 0x10 ∨ query = 0x20 := by
  unfold systemCount?
  split
  · next console => exact iff_of_true rfl (.inl (UInt8.toNat_inj.1 console))
  · next disks => exact iff_of_true rfl (.inr (.inl (UInt8.toNat_inj.1 disks)))
  · next drives => exact iff_of_true rfl (.inr (.inr (UInt8.toNat_inj.1 drives)))
  · next no_console no_disks no_drives =>
      refine iff_of_false nofun ?_
      rintro (rfl | rfl | rfl)
      · exact no_console rfl
      · exact no_disks rfl
      · exact no_drives rfl

theorem systemGet_of_refusal
    (other : ¬(s.core.c = 0x00 ∨ s.core.c = 0x10 ∨ s.core.c = 0x20)) :
    systemCall s .systemGet = finish s .noFunction := by
  have unknown : systemCount? s.board.devices.disks s.core.c = none := by
    rw [← systemCount?_isSome_iff s.board.devices.disks, Option.not_isSome_iff_eq_none] at other
    exact other
  rw [systemCall, unknown]
  all_goals nofun

theorem diskMedia_of_refusal {reason : HbiosResult}
    (h : missing? s.board.devices.disks s.core.c.toNat = some reason) :
    diskCall s .diskMedia = finish { s with core := { s.core with e := 0 } } reason := by
  obtain ⟨e, failed, rfl⟩ := unit_of_missing h
  unfold diskCall
  dsimp only
  rw [failed]

/-- **A refused call** ends at once with its reason. By cases on the function. -/
theorem call_of_refusal {reason : HbiosResult} (h : refusal? s = some reason) (now : UInt64) :
    call now s = finish (refused s) reason := by
  unfold refusal? at h
  cases function : HbiosFunction.ofCode? s.core.b with
  | none =>
      have plain : refused s = s := by
        refine if_neg ?_
        rintro (asked | asked | asked) <;> cases function.symm.trans asked
      rw [function] at h
      rw [call, function, plain, Option.some.inj h]
  | some f =>
      have plain := refused_of_other function
      rw [function] at h
      rw [call, function]
      cases f with
      | charInput | charOutput | charInputStatus | charOutputStatus =>
          obtain ⟨other, same⟩ := Option.ite_none_left_eq_some.1 h
          cases same
          rw [plain (by decide)]
          exact consoleCall_of_refusal _ other
      | diskRead =>
          obtain ⟨some_sectors, missing⟩ := Option.ite_none_left_eq_some.1 h
          rw [refused, if_pos (.inr (.inl function))]
          exact transfer_of_refusal some_sectors missing false
      | diskWrite =>
          obtain ⟨some_sectors, missing⟩ := Option.ite_none_left_eq_some.1 h
          rw [refused, if_pos (.inr (.inr function))]
          exact transfer_of_refusal some_sectors missing true
      | diskStatus | diskSeek | diskCapacity =>
          rw [plain (by decide)]
          exact diskCall_of_refusal (by decide) h
      | diskMedia =>
          rw [refused, if_pos (.inl function)]
          exact diskMedia_of_refusal h
      | systemReset =>
          obtain ⟨other, same⟩ := Option.ite_none_left_eq_some.1 h
          cases same
          rw [plain (by decide)]
          exact systemReset_of_refusal other
      | systemGet =>
          obtain ⟨other, same⟩ := Option.ite_none_left_eq_some.1 h
          cases same
          rw [plain (by decide)]
          exact systemGet_of_refusal other
      | clockRead | systemVersion | systemSetBank | systemGetBank => cases h

end Hbios

end BankedZ80
