import BankedZ80.Bytes

/-!
# Host file transfer

A device through which the guest reads a file of the host, or writes one, one session at a time.

```text
idle --guest opens for reading--> waitingRead --host provides or cancels--> idle
idle --guest opens for writing--> writing --guest closes--> writeReady --host acknowledges--> idle
```

When the host has provided a file its part is done: the session is idle for the host, while the
guest goes on taking the delivered bytes and sees `reading` until none are left. Until then the guest
cannot open another session, so nothing delivered is ever discarded by a new one.

Registers: 0 command, or state; 1 a character of the file name, or its length; 2 a data byte;
3 status.
-/

namespace BankedZ80

/-- Where a transfer stands. -/
inductive TransferState where
  | idle
  | waitingRead
  | reading
  | writing
  | writeReady
deriving DecidableEq, Repr

namespace TransferState

/-- The number by which guest and host know a state. -/
def code : TransferState → UInt8
  | idle => 0
  | waitingRead => 1
  | reading => 2
  | writing => 3
  | writeReady => 4

/-- The state with a number. -/
def ofCode? (n : UInt8) : Option TransferState :=
  match n.toNat with
  | 0 => some idle
  | 1 => some waitingRead
  | 2 => some reading
  | 3 => some writing
  | 4 => some writeReady
  | _ => none

/-- The name of a state. -/
def text : TransferState → String
  | idle => "idle"
  | waitingRead => "waiting-read"
  | reading => "reading"
  | writing => "writing"
  | writeReady => "write-ready"

@[simp] theorem ofCode?_code (s : TransferState) : ofCode? s.code = some s := by
  cases s <;> rfl

end TransferState

/-- The transfer device. -/
@[ext] structure HostFile where
  /-- State of the session as the host sees it. -/
  state : TransferState := .idle
  /-- Characters of a file name that the guest has written and not yet used. -/
  typed : List UInt8 := []
  readName : List UInt8 := []
  /-- Delivered bytes that the guest has not yet taken. -/
  inbox : List UInt8 := []
  /-- Was a file delivered since the last open or close for reading? -/
  delivered : Bool := false
  writeName : List UInt8 := []
  outbox : ByteArray := .empty
  /-- Was the last open refused, or the last read cancelled? -/
  failed : Bool := false
deriving DecidableEq

namespace HostFile

/-- A file name of ASCII characters as a text. -/
def nameText (name : List UInt8) : String := String.ofList (name.map fun b => Char.ofNat b.toNat)

/-- The name of a written file that the guest did not name: `download.bin`. -/
def defaultWriteName : List UInt8 :=
  [0x64, 0x6F, 0x77, 0x6E, 0x6C, 0x6F, 0x61, 0x64, 0x2E, 0x62, 0x69, 0x6E]

/-- The byte read when none are left, the end-of-file mark of CP/M. -/
def endOfFile : UInt8 := 0x1A

/-- Most characters that a file name keeps. -/
def maxNameLength : Nat := 255

/-- State of the session as the guest sees it. -/
def guestState (h : HostFile) : TransferState :=
  if h.state = .idle ∧ h.inbox ≠ [] then .reading else h.state

/-! ### The host's side -/

/-- The file that the guest asks for, while it waits. -/
def requestedName (h : HostFile) : Option String :=
  if h.state = .waitingRead then some (nameText h.readName) else none

/-- Deliver the requested file; refused unless the guest waits for one. -/
def provide (h : HostFile) (bytes : List UInt8) : Option HostFile :=
  if h.state = .waitingRead then some { h with inbox := bytes, delivered := true, state := .idle }
  else none

/-- Refuse the requested file; refused itself unless the guest waits for one. -/
def cancel (h : HostFile) : Option HostFile :=
  if h.state = .waitingRead then some { h with readName := [], failed := true, state := .idle }
  else none

/-- The name of a finished file of the guest. -/
def finishedName (h : HostFile) : Option String :=
  if h.state = .writeReady then some (nameText h.writeName) else none

/-- The contents of a finished file of the guest. -/
def finishedData (h : HostFile) : Option ByteArray :=
  if h.state = .writeReady then some h.outbox else none

/-- Acknowledge a finished file; refused unless there is one. -/
def acknowledge (h : HostFile) : Option HostFile :=
  if h.state = .writeReady then some { h with writeName := [], outbox := .empty, state := .idle }
  else none

/-! ### The guest's side -/

/-- Is a session under way, or a delivery not yet taken? -/
def busy (h : HostFile) : Bool := h.guestState != .idle

/-- Open for reading the file whose name was typed. -/
def openRead (h : HostFile) : HostFile :=
  if h.busy then { h with failed := true }
  else
    { h with
      readName := h.typed, typed := [], delivered := false, failed := false, state := .waitingRead }

/-- Open for writing the file whose name was typed. -/
def openWrite (h : HostFile) : HostFile :=
  if h.busy then { h with failed := true }
  else
    { h with
      writeName := if h.typed = [] then defaultWriteName else h.typed
      typed := [], outbox := .empty, failed := false, state := .writing }

/-- Drop what was delivered, and a request that was not yet met. -/
def closeRead (h : HostFile) : HostFile :=
  let h := { h with inbox := [], delivered := false }
  if h.state = .waitingRead then { h with readName := [], state := .idle } else h

/-- Finish the file being written. -/
def closeWrite (h : HostFile) : HostFile :=
  if h.state = .writing then { h with state := .writeReady } else h

/-- Carry out a command of register 0. -/
def command (h : HostFile) (command : UInt8) : HostFile :=
  match command.toNat with
  | 1 => h.openRead
  | 2 => h.openWrite
  | 3 => h.closeRead
  | 4 => h.closeWrite
  | 5 => { h with typed := [] }
  | _ => h

/-- The status register: data waiting, end of data, failure, and waiting for the host. -/
def status (h : HostFile) : UInt8 :=
  (if h.inbox ≠ [] then 0x01 else if h.delivered then 0x02 else 0)
    ||| (if h.failed then 0x04 else 0)
    ||| (if h.state = .waitingRead ∨ h.state = .writeReady then 0x80 else 0)

/-- Guest read of a register; reading register 2 takes a delivered byte. -/
def readRegister (h : HostFile) (register : UInt8) : UInt8 × HostFile :=
  match register.toNat with
  | 0 => (h.guestState.code, h)
  | 1 => (h.typed.length.toUInt8, h)
  | 2 =>
    match h.inbox with
    | [] => (endOfFile, h)
    | v :: rest => (v, { h with inbox := rest })
  | 3 => (h.status, h)
  | _ => (0xFF, h)

/-- Type a character of a file name; zero, anything but ASCII and what is too long is ignored. -/
def typeName (h : HostFile) (v : UInt8) : HostFile :=
  if v ≠ 0 ∧ v < 0x80 ∧ h.typed.length < maxNameLength then { h with typed := h.typed ++ [v] }
  else h

/-- Guest write of a register; data bytes count only while a file is being written. -/
def writeRegister (h : HostFile) (register v : UInt8) : HostFile :=
  match register.toNat with
  | 0 => h.command v
  | 1 => h.typeName v
  | 2 => if h.state = .writing then { h with outbox := h.outbox.push v } else h
  | _ => h

end HostFile

end BankedZ80
