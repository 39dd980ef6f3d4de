import BankedZ80.Proofs.HostFile.Action

/-!
# Delivering a file of the host

When the host has provided a file, the guest takes its bytes one by one from the data register.
Meanwhile it may look at other registers, type names and try to open other sessions, and the host
may call whatever it likes. The delivery is over when the guest closes it, when an open is accepted,
or when the device is reset.

* `HostFile.Delivering` is what holds in between: the host sees no session, and so many bytes are
  left.
* `Delivering.after` is the step and `Delivering.run` the run.
* `HostFile.delivery_intact` puts them together for a device with any past.
-/

namespace BankedZ80.HostFile

/-! ### What the guest sees, and what ends it -/

/-- Does the device accept a command to open a session? The failed bit tells afterwards. -/
def accepts (h : HostFile) (command : UInt8) : Bool :=
  (command == 1 || command == 2) && !(h.command command).failed

theorem openRead_of_busy {h : HostFile} (busy : h.busy = true) :
    h.openRead = { h with failed := true } := if_pos busy

theorem openWrite_of_busy {h : HostFile} (busy : h.busy = true) :
    h.openWrite = { h with failed := true } := if_pos busy

/-- Only a busy device refuses an open. -/
theorem busy_of_refused {h : HostFile} {command : UInt8} (opens : command = 1 ∨ command = 2)
    (refused : h.accepts command = false) : h.busy = true := by
  rcases Bool.eq_false_or_eq_true h.busy with busy | free
  · exact busy
  · obtain rfl | rfl := opens
    · have accepted : h.openRead.failed = false := by rw [openRead, if_neg (by rw [free]; decide)]
      rw [show h.accepts 1 = !h.openRead.failed from rfl, accepted] at refused
      cases refused
    · have accepted : h.openWrite.failed = false := by rw [openWrite, if_neg (by rw [free]; decide)]
      rw [show h.accepts 2 = !h.openWrite.failed from rfl, accepted] at refused
      cases refused

/-- Is a delivery over with an action: closing it, an accepted open, or a reset? -/
def endsDelivery (h : HostFile) : HostFileAction → Bool
  | .write register v => register == 0 && (v == 3 || h.accepts v)
  | .reset => true
  | _ => false

/-- No action of a list ends a delivery. -/
def uninterrupted (h : HostFile) : List HostFileAction → Bool
  | [] => true
  | a :: rest => !h.endsDelivery a && (h.after a).uninterrupted rest

/-- The byte that an action takes from the data register, if it reads that register. -/
def taken? (h : HostFile) : HostFileAction → Option UInt8
  | .read register => if register = 2 then some (h.readRegister register).1 else none
  | _ => none

/-- The bytes that a list of actions takes from the data register. -/
def dataReads (h : HostFile) : List HostFileAction → List UInt8
  | [] => []
  | a :: rest => (h.taken? a).toList ++ (h.after a).dataReads rest

/-! ### A step of a delivery -/

/-- The host sees no session, and these bytes are left. -/
structure Delivering (rest : List UInt8) (h : HostFile) : Prop where
  idle : h.state = .idle
  left : h.inbox = rest

namespace Delivering

variable {h : HostFile} {rest : List UInt8}

/-- What an action neither takes nor touches is left. -/
theorem congr (delivering : Delivering rest h) {h' : HostFile} (state : h'.state = h.state)
    (inbox : h'.inbox = h.inbox) : Delivering rest h' :=
  ⟨state.trans delivering.idle, inbox.trans delivering.left⟩

/-- The host has nothing to answer. -/
theorem provide (delivering : Delivering rest h) (bytes : List UInt8) : h.provide bytes = none := by
  rw [HostFile.provide, delivering.idle]
  rfl

theorem cancel (delivering : Delivering rest h) : h.cancel = none := by
  rw [HostFile.cancel, delivering.idle]
  rfl

theorem acknowledge (delivering : Delivering rest h) : h.acknowledge = none := by
  rw [HostFile.acknowledge, delivering.idle]
  rfl

/-- A command that ends no delivery takes nothing. -/
theorem command (delivering : Delivering rest h) {v : UInt8} (close : v ≠ 3)
    (refused : h.accepts v = false) : Delivering rest (h.command v) := by
  unfold HostFile.command
  split
  case h_1 one =>
      have v_eq : v = 1 := UInt8.toNat_inj.1 one
      subst v_eq
      rw [openRead_of_busy (busy_of_refused (.inl rfl) refused)]
      exact delivering.congr rfl rfl
  case h_2 two =>
      have v_eq : v = 2 := UInt8.toNat_inj.1 two
      subst v_eq
      rw [openWrite_of_busy (busy_of_refused (.inr rfl) refused)]
      exact delivering.congr rfl rfl
  case h_3 three => exact absurd (UInt8.toNat_inj.1 three) close
  case h_4 =>
      rw [closeWrite, delivering.idle]
      exact delivering
  case h_5 => exact delivering.congr rfl rfl
  case h_6 => exact delivering

theorem writeRegister (delivering : Delivering rest h) {register v : UInt8}
    (go : h.endsDelivery (.write register v) = false) :
    Delivering rest (h.writeRegister register v) := by
  unfold HostFile.writeRegister
  split
  case h_1 zero =>
      have register_eq : register = 0 := UInt8.toNat_inj.1 zero
      subst register_eq
      have both : (v == 3 || h.accepts v) = false := go
      rw [Bool.or_eq_false_iff, beq_eq_false_iff_ne] at both
      exact delivering.command both.1 both.2
  case h_2 =>
      unfold typeName
      split
      · exact delivering.congr rfl rfl
      · exact delivering
  case h_3 =>
      rw [delivering.idle]
      exact delivering
  case h_4 => exact delivering

/-- The data register gives the first byte that is left, and the end-of-file mark when there is
none. -/
theorem readData (delivering : Delivering rest h) :
    (h.readRegister 2).1 = rest.headD endOfFile ∧ Delivering rest.tail (h.readRegister 2).2 := by
  obtain ⟨idle, left⟩ := delivering
  subst left
  unfold HostFile.readRegister
  cases inbox : h.inbox with
  | nil => exact ⟨rfl, idle, inbox⟩
  | cons v rest => exact ⟨rfl, idle, rfl⟩

/-- Reading any other register takes nothing. -/
theorem readOther {register : UInt8} (other : register ≠ 2) : (h.readRegister register).2 = h := by
  unfold readRegister
  split
  case h_3 two => exact absurd (UInt8.toNat_inj.1 two) other
  all_goals rfl

/-- **A step of a delivery** takes the first byte that is left, or takes nothing. -/
theorem after (delivering : Delivering rest h) {a : HostFileAction} (go : h.endsDelivery a = false) :
    (h.taken? a = some (rest.headD endOfFile) ∧ Delivering rest.tail (h.after a)) ∨
      (h.taken? a = none ∧ Delivering rest (h.after a)) := by
  cases a with
  | read register =>
      by_cases data : register = 2
      · subst data
        obtain ⟨value, left⟩ := delivering.readData
        exact .inl ⟨congrArg some value, left⟩
      · have same : h.after (.read register) = h := readOther data
        rw [same]
        exact .inr ⟨if_neg data, delivering⟩
  | write register v => exact .inr ⟨rfl, delivering.writeRegister go⟩
  | provide bytes =>
      rw [HostFile.after, delivering.provide]
      exact .inr ⟨rfl, delivering⟩
  | cancel =>
      rw [HostFile.after, delivering.cancel]
      exact .inr ⟨rfl, delivering⟩
  | acknowledge =>
      rw [HostFile.after, delivering.acknowledge]
      exact .inr ⟨rfl, delivering⟩
  | reset => cases go

/-! ### A run of a delivery -/

/-- The bytes that a number of reads give, when these are left. -/
def reads (rest : List UInt8) (count : Nat) : List UInt8 :=
  (List.range count).map fun k => rest.getD k endOfFile

theorem reads_succ (rest : List UInt8) (count : Nat) :
    reads rest (count + 1) = rest.headD endOfFile :: reads rest.tail count := by
  unfold reads
  rw [List.range_succ_eq_map, List.map_cons, List.map_map]
  cases rest with
  | nil => rfl
  | cons v rest => rfl

/-- **A run of a delivery.** The bytes come in order, and as many fewer are left. By induction on
the actions, each of which takes one byte or none. -/
theorem run (delivering : Delivering rest h) {actions : List HostFileAction}
    (go : h.uninterrupted actions = true) :
    h.dataReads actions = reads rest (h.dataReads actions).length ∧
      Delivering (rest.drop (h.dataReads actions).length) (actions.foldl HostFile.after h) := by
  induction actions generalizing h rest with
  | nil => exact ⟨rfl, delivering⟩
  | cons a later ih =>
      rw [uninterrupted, Bool.and_eq_true, Bool.not_eq_true'] at go
      rw [dataReads, List.foldl_cons]
      obtain ⟨value, left⟩ | ⟨nothing, left⟩ := delivering.after go.1
      · obtain ⟨values, still⟩ := ih left go.2
        rw [value, Option.toList_some, List.singleton_append, List.length_cons, reads_succ, ← values]
        rw [List.drop_tail] at still
        exact ⟨rfl, still⟩
      · rw [nothing, Option.toList_none, List.nil_append]
        exact ih left go.2

end Delivering

/-! ### The whole delivery -/

/-- What the guest got of a file, and how the device stands, after some reads of the data register.
-/
structure Delivered (file reads : List UInt8) (h : HostFile) : Prop where
  /-- Each read gave the next byte of the file, and the end-of-file mark when there was none. -/
  values : ∀ k v, reads[k]? = some v → v = file.getD k endOfFile
  /-- As long as bytes are left, the device reads as reading, with data available. -/
  reading : reads.length < file.length →
    (h.readRegister 0).1 = TransferState.reading.code ∧ (h.readRegister 3).1 &&& 0x01 = 0x01
  /-- As long as bytes are left, no session can be opened: the attempt sets the failed bit and has
  no other effect. -/
  refuses : reads.length < file.length → ∀ command : UInt8, command = 1 ∨ command = 2 →
    h.writeRegister 0 command = { h with failed := true }

theorem Delivering.delivered {h : HostFile} {file reads : List UInt8}
    (delivering : Delivering (file.drop reads.length) h)
    (values : reads = Delivering.reads file reads.length) : Delivered file reads h := by
  have left (more : reads.length < file.length) : h.inbox ≠ [] := by
    rw [delivering.left, ne_eq, List.drop_eq_nil_iff]
    omega
  constructor
  case values =>
      intro k v hk
      have short := (List.getElem?_eq_some_iff.1 hk).1
      rw [values, Delivering.reads, List.getElem?_map, List.getElem?_range short] at hk
      exact (Option.some.inj hk).symm
  case reading =>
      intro more
      have guest : h.guestState = .reading := if_pos ⟨delivering.idle, left more⟩
      refine ⟨congrArg TransferState.code guest, ?_⟩
      show h.status &&& 0x01 = 0x01
      rw [status, if_pos (left more)]
      split <;> split <;> rfl
  case refuses =>
      intro more command opens
      have busy : h.busy = true := by
        rw [HostFile.busy, guestState, if_pos ⟨delivering.idle, left more⟩]
        rfl
      obtain rfl | rfl := opens
      · exact openRead_of_busy busy
      · exact openWrite_of_busy busy

/-- **What the host provides reaches the guest.** Whatever guest and host did before, undelivered
bytes are there only between sessions, so that providing a file discards none; and from then on,
whatever they do short of ending the delivery, the guest reads the bytes of the file in order, then
the end-of-file mark. -/
theorem delivery_intact (past : List HostFileAction) :
    let h := past.foldl after {}
    (h.state ≠ .idle → h.inbox = []) ∧
      ∀ file h', h.provide file = some h' → h.inbox = [] ∧
        ∀ actions, h'.uninterrupted actions = true →
          Delivered file (h'.dataReads actions) (actions.foldl after h') := by
  intro h
  have settled : h.Settled := settled_of_reachable past
  refine ⟨settled, fun file h' provided => ?_⟩
  obtain ⟨waiting, start⟩ := provide_eq_some provided
  refine ⟨settled (by rw [waiting]; decide), fun actions go => ?_⟩
  have delivering : Delivering file h' := by
    rw [start]
    exact ⟨rfl, rfl⟩
  obtain ⟨values, left⟩ := delivering.run go
  exact left.delivered values

/-- A guest asks for a file without naming it. -/
def request : List HostFileAction := [.write 0 1]

/-- A file of two bytes. -/
def shortFile : List UInt8 := [0x68, 0x69]

/-- The guest reads the data register three times and meanwhile tries to open another session, while
the host offers another file, cancels and acknowledges. -/
def meddling : List HostFileAction :=
  [.read 0, .read 2, .write 0 2, .provide [0x00], .cancel, .read 3, .read 2, .acknowledge, .read 2]

theorem shortFile_delivered :
    ∃ h, (request.foldl after {}).provide shortFile = some h ∧ h.uninterrupted meddling = true ∧
      h.dataReads meddling = [0x68, 0x69, endOfFile] ∧
      Delivered shortFile (h.dataReads meddling) (meddling.foldl after h) :=
  ⟨_, rfl, rfl, rfl, ((delivery_intact request).2 shortFile _ rfl).2 meddling rfl⟩

end BankedZ80.HostFile
