import BankedZ80.Proofs.Hbios.Frame
import BankedZ80.Proofs.Hbios.Run

/-!
# Firmware transfers

A call that moves sectors moves as many as are there, from the seek position of its unit on.

* `sectorsMoved` and `transferResult` say how many that are and with which result the call ends, told
  from the registers and the disks before it.
* `TransferDone` says what the call leaves: which bytes it has copied, and what has not changed.
* `RestOf` says that a transfer which goes on where a complete one ended is the rest of one transfer.
-/

namespace BankedZ80

theorem HbiosResult.code_inj {r r' : HbiosResult} : r.code = r'.code ↔ r = r' := by
  cases r <;> cases r' <;> decide

namespace Hbios

/-! ### Calls -/

/-- How many sectors there are from the seek position of the unit in C on. -/
def sectorsAhead (s : HbiosState) : Nat :=
  ((s.board.devices.disks.unit? s.core.c.toNat).map fun d => d.sectorsFrom d.seek).getD 0

/-- How many sectors a transfer moves. The unit counts its sectors in 32 bits (`DiskUnit.totalSectors`),
so of an image of 2^32 sectors or more only the remainder is ahead. -/
def sectorsMoved (s : HbiosState) : Nat := min s.core.e.toNat (sectorsAhead s)

/-- How a transfer goes. -/
def transferResult (s : HbiosState) : HbiosResult :=
  if sectorsMoved s = s.core.e.toNat then .success
  else (missing? s.board.devices.disks s.core.c.toNat).getD .outOfRange

/-- The board of a call, with what a transfer has changed. -/
def boardWith (s : HbiosState) (t : Transfer) : Board :=
  { memory := t.memory, devices := { s.board.devices with disks := t.disks } }

variable {s : HbiosState} (write : Bool)

theorem call_eq_transfer (asked : Asks s (if write then .diskWrite else .diskRead)) (now : UInt64) :
    call now s = transfer s write := by
  have function : HbiosFunction.ofCode? s.core.b = some (if write then .diskWrite else .diskRead) :=
    asked
  rw [call, function]
  cases write <;> rfl

section

variable {d : DiskUnit} (there : s.board.devices.disks.unit? s.core.c.toNat = some d)
include there

theorem sectorsMoved_of_unit? : sectorsMoved s = min s.core.e.toNat (d.sectorsFrom d.seek) := by
  rw [sectorsMoved, sectorsAhead, there]
  rfl

theorem transferResult_of_unit? :
    transferResult s =
      if s.core.e.toNat ≤ d.sectorsFrom d.seek then .success else .outOfRange := by
  have found : missing? s.board.devices.disks s.core.c.toNat = none := by
    rw [missing?_eq, s.board.devices.disks.unit_of_unit? s.core.c.toNat there]
  have enough : min s.core.e.toNat (d.sectorsFrom d.seek) = s.core.e.toNat ↔
      s.core.e.toNat ≤ d.sectorsFrom d.seek := by
    omega
  rw [transferResult, sectorsMoved_of_unit? there, found]
  simp only [enough, Option.getD_none]

/-- A transfer moves a run between the seek position and the memory at HL. -/
theorem transfer_of_unit? (matched : s.board.devices.disks.Matched s.core.c.toNat) :
    transfer s write =
      finish
        { core := { s.core with e := (sectorsMoved s).toUInt8 }
          board :=
            boardWith s ((Transfer.ofCall s).moveRun write s.core.c.toNat d (sectorsMoved s)) }
        (transferResult s) := by
  have run := Transfer.moveMany_eq (t := Transfer.ofCall s) write matched there s.core.e.toNat
  rw [← transferResult_of_unit? there, ← sectorsMoved_of_unit? there] at run
  have count : (0 : UInt8) + (sectorsMoved s).toUInt8 = (sectorsMoved s).toUInt8 := UInt8.zero_add _
  unfold Transfer.ofCall at run
  rw [transfer, run, ← count]
  rfl

end

section

variable (absent : s.board.devices.disks.unit? s.core.c.toNat = none)
include absent

theorem sectorsMoved_of_absent : sectorsMoved s = 0 := by
  rw [sectorsMoved, sectorsAhead, absent]
  exact Nat.min_zero _

/-- A transfer without a unit leaves the board alone. -/
theorem transfer_of_absent :
    transfer s write = finish { s with core := { s.core with e := 0 } } (transferResult s) := by
  obtain ⟨e, missing⟩ : ∃ e, s.board.devices.disks.unit s.core.c.toNat = .error e := by
    cases found : s.board.devices.disks.unit s.core.c.toNat with
    | error e => exact ⟨e, rfl⟩
    | ok d =>
        rw [s.board.devices.disks.unit?_of_unit _ found] at absent
        cases absent
  have result : transferResult s = if s.core.e.toNat = 0 then .success else resultOf e := by
    rw [transferResult, sectorsMoved_of_absent absent, missing?_eq, missing]
    simp only [eq_comm, Option.getD_some]
  have run := Transfer.moveMany_of_missing (t := Transfer.ofCall s) write missing s.core.e.toNat
  rw [← result] at run
  unfold Transfer.ofCall at run
  rw [transfer, run]

end

/-- What a transfer of E sectors leaves. -/
structure TransferDone (write : Bool) (s : HbiosState) (r : HbiosState × HbiosAction) : Prop where
  action : r.2 = .proceed
  /-- E is left with the number of sectors moved, and A with the result. -/
  registers : r.1.core =
    { s.core with a := (transferResult s).code, e := (sectorsMoved s).toUInt8 }
  count : r.1.core.e.toNat = sectorsMoved s
  /-- Sectors are counted up to the end of the image, if it has fewer than 2^32. A longer one ends
  where the unit's own 32-bit count of its sectors ends (`sectorsMoved`). -/
  counted (d : DiskUnit) : s.board.devices.disks.unit? s.core.c.toNat = some d →
    d.image.size / d.sectorSize < 2 ^ 32 →
    r.1.core.e.toNat = min s.core.e.toNat (d.image.size / d.sectorSize - d.seek.toNat)
  complete : r.1.core.a = 0 ↔ r.1.core.e = s.core.e
  cause : r.1.core.a ≠ 0 →
    r.1.core.a = ((missing? s.board.devices.disks s.core.c.toNat).getD .outOfRange).code
  never_failure : r.1.core.a ≠ HbiosResult.failure.code
  absent : s.board.devices.disks.unit? s.core.c.toNat = none → r.1.board = s.board
  /-- The bytes of the sectors are in memory, and no image has changed. -/
  read (d : DiskUnit) : write = false → s.board.devices.disks.unit? s.core.c.toNat = some d →
    r.1.board =
      { memory := s.board.memory.loadAt s.core.hl (Bytes.toList
          (d.image.extract (d.seek.toNat * d.sectorSize)
            ((d.seek.toNat + sectorsMoved s) * d.sectorSize)))
        devices := { s.board.devices with
          disks := { s.board.devices.disks with
            units := s.board.devices.disks.units.setIfInBounds s.core.c.toNat
              (some { d with seek := d.seek + (sectorsMoved s).toUInt32 }) } } }
  /-- The bytes of the sectors are those of the memory, which has not changed. -/
  write (d : DiskUnit) : write = true → s.board.devices.disks.unit? s.core.c.toNat = some d →
    r.1.board =
      { s.board with
        devices := { s.board.devices with
          disks := { s.board.devices.disks with
            units := s.board.devices.disks.units.setIfInBounds s.core.c.toNat (some { d with
              image := d.image.extract 0 (d.seek.toNat * d.sectorSize) ++
                Bytes.ofList (s.board.memory.readBlock s.core.hl (sectorsMoved s * d.sectorSize)) ++
                d.image.extract ((d.seek.toNat + sectorsMoved s) * d.sectorSize) d.image.size
              dirty := d.dirty || decide (0 < sectorsMoved s)
              seek := d.seek + (sectorsMoved s).toUInt32 })
            pendingWarning :=
              if 0 < sectorsMoved s ∧ d.manifest = true ∧
                  s.board.devices.disks.isSilenced s.core.c.toNat = false then
                some s.core.c.toNat
              else s.board.devices.disks.pendingWarning } } }
  /-- The seek position is past the last sector. -/
  seek (d : DiskUnit) : s.board.devices.disks.unit? s.core.c.toNat = some d →
    (r.1.board.devices.disks.seek s.core.c.toNat).toNat = d.seek.toNat + sectorsMoved s

theorem sectorsMoved_le (s : HbiosState) : sectorsMoved s ≤ s.core.e.toNat := Nat.min_le_left _ _

theorem toNat_sectorsMoved (s : HbiosState) : (sectorsMoved s).toUInt8.toNat = sectorsMoved s := by
  have fits := Nat.lt_of_le_of_lt (sectorsMoved_le s) s.core.e.toNat_lt
  rw [Nat.toUInt8_eq, UInt8.toNat_ofNat', Nat.mod_eq_of_lt fits]

/-- The causes for which a transfer stops. -/
theorem missing?_getD (disks : DiskController) (n : Nat) :
    (missing? disks n).getD .outOfRange ∈ [.noUnit, .noMedia, .outOfRange] := by
  unfold missing?
  split
  · decide
  · split <;> decide

theorem transferResult_eq_success_iff (s : HbiosState) :
    transferResult s = .success ↔ sectorsMoved s = s.core.e.toNat := by
  rw [transferResult]
  split
  · next all_moved => exact iff_of_true rfl all_moved
  · next stopped =>
      refine iff_of_false (fun success => ?_) stopped
      have cause := missing?_getD s.board.devices.disks s.core.c.toNat
      rw [success] at cause
      exact absurd cause (by decide)

theorem transferResult_ne_failure (s : HbiosState) : transferResult s ≠ .failure := by
  rw [transferResult]
  split
  · decide
  · intro failure
    have cause := missing?_getD s.board.devices.disks s.core.c.toNat
    rw [failure] at cause
    exact absurd cause (by decide)

section

variable (asked : Asks s (if write then .diskWrite else .diskRead))
  (matched : s.board.devices.disks.Matched s.core.c.toNat) (now : UInt64)
include asked matched

/-- What a call leaves apart from the board. -/
theorem call_transfer_eq :
    call now s =
      ({ core := { s.core with a := (transferResult s).code, e := (sectorsMoved s).toUInt8 }
         board := (call now s).1.board }, .proceed) := by
  rw [call_eq_transfer write asked]
  cases unit : s.board.devices.disks.unit? s.core.c.toNat with
  | none =>
      rw [transfer_of_absent write unit, sectorsMoved_of_absent unit]
      rfl
  | some d =>
      rw [transfer_of_unit? write unit matched]
      rfl

theorem board_call_transfer {d : DiskUnit}
    (there : s.board.devices.disks.unit? s.core.c.toNat = some d) :
    (call now s).1.board =
      boardWith s ((Transfer.ofCall s).moveRun write s.core.c.toNat d (sectorsMoved s)) := by
  rw [call_eq_transfer write asked, transfer_of_unit? write there matched]
  rfl

theorem transferDone : TransferDone write s (call now s) := by
  have core : (call now s).1.core =
      { s.core with a := (transferResult s).code, e := (sectorsMoved s).toUInt8 } :=
    congrArg (·.1.core) (call_transfer_eq write asked matched now)
  have count : (call now s).1.core.e.toNat = sectorsMoved s := by
    rw [core]
    exact toNat_sectorsMoved s
  have result : (call now s).1.core.a = (transferResult s).code := by rw [core]
  have success : (call now s).1.core.a = 0 ↔ sectorsMoved s = s.core.e.toNat := by
    rw [result, ← transferResult_eq_success_iff, ← HbiosResult.code_inj]
    rfl
  constructor
  case action => exact congrArg (·.2) (call_transfer_eq write asked matched now)
  case registers => exact core
  case count => exact count
  case counted =>
    intro d there small
    rw [count, sectorsMoved_of_unit? there, d.sectorsFrom_eq d.seek small]
  case complete => rw [success, ← count, UInt8.toNat_inj]
  case cause =>
    intro failed
    rw [result, transferResult, if_neg fun all_moved => failed (success.2 all_moved)]
  case never_failure =>
    rw [result, ne_eq, HbiosResult.code_inj]
    exact transferResult_ne_failure s
  case absent =>
    intro absent
    rw [call_eq_transfer write asked, transfer_of_absent write absent]
    rfl
  case read =>
    rintro d rfl there
    rw [board_call_transfer false asked matched now there, Transfer.moveRun_read]
    rfl
  case write =>
    rintro d rfl there
    rw [board_call_transfer true asked matched now there, Transfer.moveRun_write there]
    rfl
  case seek =>
    intro d there
    have inside : sectorsMoved s ≤ d.sectorsFrom d.seek := by
      rw [sectorsMoved_of_unit? there]
      exact Nat.min_le_right _ _
    rw [board_call_transfer write asked matched now there, DiskController.seek, boardWith]
    dsimp only
    rw [Transfer.unit?_moveRun (t := Transfer.ofCall s) write there]
    exact d.toNat_add_of_le_sectorsFrom inside

end

/-! ### Transfers that go on -/

/-- The address past the E sectors at HL. -/
def addressPast (s : HbiosState) : UInt16 :=
  s.core.hl + (s.core.e.toNat * s.board.devices.disks.sectorSize).toUInt16

/-- The request for some sectors. -/
def asking (s : HbiosState) (sectors : UInt8) : HbiosState :=
  { s with core := { s.core with e := sectors } }

/-- The request for some more sectors, to be made after another one. -/
def goingOn (s : HbiosState) (sectors : UInt8) (after : HbiosState) : HbiosState :=
  asking { after with core := after.core.setHL (addressPast s) } sectors

/-- Such a request, told from the one before, its result and the board that it left. -/
def requestPast (s : HbiosState) (result sectors : UInt8) (b : Board) : HbiosState :=
  ⟨{ s.core.setHL (addressPast s) with a := result, e := sectors }, b⟩

/-- What a transfer that goes on where another ended leaves, and what one in their place leaves. -/
structure RestOf (s whole rest : HbiosState) : Prop where
  board : rest.board = whole.board
  count : s.core.e.toNat + rest.core.e.toNat = whole.core.e.toNat
  registers : rest.core = { whole.core.setHL (addressPast s) with e := rest.core.e }

theorem missing?_of_unit? {disks : DiskController} {n : Nat} {d : DiskUnit}
    (there : disks.unit? n = some d) : missing? disks n = none := by
  rw [missing?_eq, disks.unit_of_unit? n there]

/-- A transfer that goes on starts where the run before it ends. -/
theorem ofCall_requestPast {d : DiskUnit} (size : d.sectorSize = s.board.devices.disks.sectorSize)
    (result sectors : UInt8) :
    Transfer.ofCall (requestPast s result sectors (boardWith s
        ((Transfer.ofCall s).moveRun write s.core.c.toNat d s.core.e.toNat))) =
      { (Transfer.ofCall s).moveRun write s.core.c.toNat d s.core.e.toNat with moved := 0 } := by
  have address : ((Transfer.ofCall s).moveRun write s.core.c.toNat d s.core.e.toNat).address =
      addressPast s := by
    rw [addressPast, ← size]
    rfl
  have hl : (s.core.setHL (addressPast s)).hl = addressPast s := word_highByte_lowByte _
  apply Transfer.ext
  case address => exact hl.trans address.symm
  all_goals rfl

section

variable (asked : Asks s (if write then .diskWrite else .diskRead))
  (matched : s.board.devices.disks.Matched s.core.c.toNat)
  {sectors : UInt8} (fits : s.core.e.toNat + sectors.toNat ≤ 255)
include asked matched fits

/-- The registers after the two transfers, when the first has moved all its sectors, and the second
finds the others still there. -/
theorem restOf_of_board (all_moved : sectorsMoved s = s.core.e.toNat) {result : UInt8} {b : Board}
    (matched' : b.devices.disks.Matched s.core.c.toNat)
    (missing : missing? b.devices.disks s.core.c.toNat =
      missing? s.board.devices.disks s.core.c.toNat)
    (moved : s.core.e.toNat + sectorsMoved (requestPast s result sectors b) =
      sectorsMoved (asking s (s.core.e + sectors)))
    (later whole : UInt64)
    (board : (call later (requestPast s result sectors b)).1.board =
      (call whole (asking s (s.core.e + sectors))).1.board) :
    RestOf s (call whole (asking s (s.core.e + sectors))).1
      (call later (requestPast s result sectors b)).1 := by
  have total : (s.core.e + sectors).toNat = s.core.e.toNat + sectors.toNat := by
    rw [UInt8.toNat_add]
    omega
  have results : transferResult (requestPast s result sectors b) =
      transferResult (asking s (s.core.e + sectors)) := by
    have both : sectorsMoved (requestPast s result sectors b) = sectors.toNat ↔
        sectorsMoved (asking s (s.core.e + sectors)) = (s.core.e + sectors).toNat := by omega
    show (if sectorsMoved (requestPast s result sectors b) = sectors.toNat then .success
      else (missing? b.devices.disks s.core.c.toNat).getD .outOfRange) = transferResult _
    rw [transferResult, missing]
    simp only [both]
    rfl
  have rest := transferDone (s := requestPast s result sectors b) write asked matched' later
  have one := transferDone (s := asking s (s.core.e + sectors)) write asked matched whole
  constructor
  case board => exact board
  case count => rw [rest.count, one.count, moved]
  case registers =>
    rw [rest.registers, one.registers, results]
    rfl

/-- Without a unit a complete transfer is one of no sectors. -/
theorem restOf_of_absent (absent : s.board.devices.disks.unit? s.core.c.toNat = none)
    (all_moved : sectorsMoved s = s.core.e.toNat) (result : UInt8) (later whole : UInt64) :
    RestOf s (call whole (asking s (s.core.e + sectors))).1
      (call later (requestPast s result sectors s.board)).1 := by
  have none_moved : s.core.e.toNat = 0 := all_moved.symm.trans (sectorsMoved_of_absent absent)
  have rest := transferDone (s := requestPast s result sectors s.board) write asked matched
    later
  have one := transferDone (s := asking s (s.core.e + sectors)) write asked matched whole
  refine restOf_of_board write asked matched fits all_moved matched rfl ?_ later whole ?_
  · rw [none_moved, sectorsMoved_of_absent (s := requestPast s result sectors s.board) absent,
      sectorsMoved_of_absent (s := asking s (s.core.e + sectors)) absent]
  · rw [rest.absent absent, one.absent absent]
    rfl

theorem restOf_of_unit? {d : DiskUnit}
    (there : s.board.devices.disks.unit? s.core.c.toNat = some d)
    (all_moved : sectorsMoved s = s.core.e.toNat) (result : UInt8) (later whole : UInt64) :
    RestOf s (call whole (asking s (s.core.e + sectors))).1
      (call later (requestPast s result sectors (boardWith s
        ((Transfer.ofCall s).moveRun write s.core.c.toNat d s.core.e.toNat)))).1 := by
  obtain ⟨b, run⟩ : ∃ b, b = boardWith s
      ((Transfer.ofCall s).moveRun write s.core.c.toNat d s.core.e.toNat) := ⟨_, rfl⟩
  have inside : s.core.e.toNat ≤ d.sectorsFrom d.seek := by
    rw [sectorsMoved_of_unit? there] at all_moved
    omega
  have there' : b.devices.disks.unit? s.core.c.toNat =
      some ((Transfer.ofCall s).unitAfter write d s.core.e.toNat) := by
    rw [run]
    exact Transfer.unit?_moveRun write there s.core.e.toNat
  have matched' : b.devices.disks.Matched s.core.c.toNat := by
    rw [run]
    exact Transfer.matched_moveRun write matched there s.core.e.toNat
  have rest_moved : sectorsMoved (requestPast s result sectors b) =
      min sectors.toNat (d.sectorsFrom d.seek - s.core.e.toNat) := by
    rw [sectorsMoved_of_unit? (s := requestPast s result sectors b) there',
      Transfer.sectorsFrom_unitAfter _ write inside]
    rfl
  have moved : s.core.e.toNat + sectorsMoved (requestPast s result sectors b) =
      sectorsMoved (asking s (s.core.e + sectors)) := by
    have total : (asking s (s.core.e + sectors)).core.e.toNat = s.core.e.toNat + sectors.toNat := by
      show (s.core.e + sectors).toNat = _
      rw [UInt8.toNat_add]
      omega
    rw [sectorsMoved_of_unit? (s := asking s (s.core.e + sectors)) there, rest_moved, total]
    omega
  have start := ofCall_requestPast write (matched.unit? there) result sectors
  have together : s.core.e.toNat + sectorsMoved (requestPast s result sectors b) ≤
      d.sectorsFrom d.seek := by omega
  have pieces := Transfer.moveRun_add (t := Transfer.ofCall s) write there together
  rw [← run] at start ⊢
  refine restOf_of_board write asked matched fits all_moved matched' ?_ moved later whole ?_
  · rw [missing?_of_unit? there', missing?_of_unit? there]
  · rw [board_call_transfer (s := requestPast s result sectors b) write asked matched' later there',
      board_call_transfer (s := asking s (s.core.e + sectors)) write asked matched whole there,
      ← moved, start]
    show boardWith _ _ = boardWith _ ((Transfer.ofCall s).moveRun write s.core.c.toNat d _)
    rw [← pieces, run]
    rfl

/-- **A transfer that goes on** where a complete one ended is the rest of one transfer. -/
theorem restOf_transfer (now later whole : UInt64) (complete : (call now s).1.core.a = 0) :
    RestOf s (call whole (asking s (s.core.e + sectors))).1
      (call later (goingOn s sectors (call now s).1)).1 := by
  have first := transferDone write asked matched now
  have all_moved : sectorsMoved s = s.core.e.toNat := by
    rw [← first.count, first.complete.1 complete]
  have next : goingOn s sectors (call now s).1 =
      requestPast s (transferResult s).code sectors (call now s).1.board := by
    rw [call_transfer_eq write asked matched]
    rfl
  rw [next]
  cases unit : s.board.devices.disks.unit? s.core.c.toNat with
  | none =>
      rw [first.absent unit]
      exact restOf_of_absent write asked matched fits unit all_moved _ later whole
  | some d =>
      rw [board_call_transfer write asked matched now unit, all_moved]
      exact restOf_of_unit? write asked matched fits unit all_moved _ later whole

end

/-- **A transfer moves in one piece the sectors that are there**, and may be made in pieces. -/
theorem transfers_in_one_piece (asked : Asks s (if write then .diskWrite else .diskRead))
    (matched : s.board.devices.disks.Matched s.core.c.toNat) :
    (∀ now, TransferDone write s (call now s)) ∧
      ∀ now later whole sectors, s.core.e.toNat + sectors.toNat ≤ 255 → (call now s).1.core.a = 0 →
        RestOf s (call whole (asking s (s.core.e + sectors))).1
          (call later (goingOn s sectors (call now s).1)).1 :=
  ⟨transferDone write asked matched, fun now later whole _ fits complete =>
    restOf_transfer write asked matched fits now later whole complete⟩

/-- One sector that is there is written, and of two more only one. -/
theorem twoSectorBoard_transfers :
    TransferDone true ⟨transferCore {} true 3 0xFFFE 1, twoSectorBoard⟩
        (call 0 ⟨transferCore {} true 3 0xFFFE 1, twoSectorBoard⟩) ∧
      RestOf ⟨transferCore {} true 3 0xFFFE 1, twoSectorBoard⟩
        (call 0 ⟨transferCore {} true 3 0xFFFE 3, twoSectorBoard⟩).1
        (call 0 (goingOn ⟨transferCore {} true 3 0xFFFE 1, twoSectorBoard⟩ 2
          (call 0 ⟨transferCore {} true 3 0xFFFE 1, twoSectorBoard⟩).1)).1 := by
  have asked : Asks ⟨transferCore {} true 3 0xFFFE 1, twoSectorBoard⟩ .diskWrite := by decide
  have matched : twoSectorBoard.devices.disks.Matched 3 := by
    intro d there
    cases there
    rfl
  have run := transfers_in_one_piece (s := ⟨transferCore {} true 3 0xFFFE 1, twoSectorBoard⟩) true asked
    matched
  exact ⟨run.1 0, run.2 0 0 0 2 (by decide) (((run.1 0).complete).2 rfl)⟩

end Hbios

end BankedZ80
