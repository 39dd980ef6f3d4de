/-!
# What a processor asks of its bus

A `BusProgram α` is a finite tree of bus accesses that ends in a value: it reads and writes memory
bytes and reads and writes input/output ports, and it may choose what to do next by the bytes it
has read. One instruction of the processor is such a tree, so whatever holds of the four kinds of
access holds of every instruction, by one induction.

* `BusProgram.bind` runs one program after another; `bind_assoc` and its companions are the monad
  laws.
* `BusProgram.run` interprets a program against any bus that can answer the four accesses.
* `BusProgram.Ends` speaks of the value of a program under all answers (`Ends.run`), and
  `BusProgram.Bus.Related` of two buses that a program cannot tell apart (`Bus.Related.run`).
* `BusProgram.accesses` are the accesses that a run makes, and the run leaves the bus as these
  accesses do, one after another (`run_eq_foldl_accesses`).
-/

namespace BankedZ80

/-- A finite sequence of bus accesses, each chosen by the answers before it, and a final value. -/
inductive BusProgram (α : Type) : Type where
  /-- No further access. -/
  | done (value : α)
  /-- Read the memory byte at an address. -/
  | read (address : UInt16) (next : UInt8 → BusProgram α)
  /-- Write a memory byte. -/
  | write (address : UInt16) (byte : UInt8) (next : Unit → BusProgram α)
  /-- Read an input port. -/
  | input (port : UInt16) (next : UInt8 → BusProgram α)
  /-- Write an output port. -/
  | output (port : UInt16) (byte : UInt8) (next : Unit → BusProgram α)

namespace BusProgram

variable {α β γ : Type}

/-- Run `p`, then the program that its value selects. -/
def bind (p : BusProgram α) (f : α → BusProgram β) : BusProgram β :=
  match p with
  | done a => f a
  | read address next => read address fun v => (next v).bind f
  | write address byte next => write address byte fun u => (next u).bind f
  | input port next => input port fun v => (next v).bind f
  | output port byte next => output port byte fun u => (next u).bind f

instance : Monad BusProgram where
  pure := done
  bind := bind

@[simp] theorem pure_eq (a : α) : (pure a : BusProgram α) = done a := rfl

@[simp] theorem bind_eq (p : BusProgram α) (f : α → BusProgram β) : p >>= f = p.bind f := rfl

@[simp] theorem done_bind (a : α) (f : α → BusProgram β) : (done a).bind f = f a := rfl

@[simp] theorem bind_done (p : BusProgram α) : p.bind done = p := by
  induction p <;> simp_all [bind]

theorem bind_assoc (p : BusProgram α) (f : α → BusProgram β) (g : β → BusProgram γ) :
    (p.bind f).bind g = p.bind fun a => (f a).bind g := by
  induction p <;> simp_all [bind]

/-- One memory read. -/
def readByte (address : UInt16) : BusProgram UInt8 := read address done

/-- One memory write. -/
def writeByte (address : UInt16) (byte : UInt8) : BusProgram Unit := write address byte done

/-- One port read. -/
def readPort (port : UInt16) : BusProgram UInt8 := input port done

/-- One port write. -/
def writePort (port : UInt16) (byte : UInt8) : BusProgram Unit := output port byte done

/-- A bus with state `σ`: how it answers each kind of access. -/
structure Bus (σ : Type) where
  read : UInt16 → σ → UInt8
  write : UInt16 → UInt8 → σ → σ
  input : UInt16 → σ → UInt8 × σ
  output : UInt16 → UInt8 → σ → σ

/-- Carry the accesses out on a bus. -/
def run {σ : Type} (bus : Bus σ) : BusProgram α → σ → α × σ
  | done a, s => (a, s)
  | read address next, s => (next (bus.read address s)).run bus s
  | write address byte next, s => (next ()).run bus (bus.write address byte s)
  | input port next, s =>
    let (v, s) := bus.input port s
    (next v).run bus s
  | output port byte next, s => (next ()).run bus (bus.output port byte s)

theorem run_bind {σ : Type} (bus : Bus σ) (p : BusProgram α) (f : α → BusProgram β) (s : σ) :
    (p.bind f).run bus s = (f (p.run bus s).1).run bus (p.run bus s).2 := by
  induction p generalizing s <;> simp_all [bind, run]

/-! ### The value of a program -/

/-- Whatever the bus answers, the program ends in a value with the property. -/
def Ends (P : α → Prop) : BusProgram α → Prop
  | done a => P a
  | read _ next => ∀ v, (next v).Ends P
  | write _ _ next => (next ()).Ends P
  | input _ next => ∀ v, (next v).Ends P
  | output _ _ next => (next ()).Ends P

@[simp] theorem ends_done {P : α → Prop} {a : α} : (done a).Ends P ↔ P a := Iff.rfl

@[simp] theorem ends_read {P : α → Prop} {address : UInt16} {next : UInt8 → BusProgram α} :
    (read address next).Ends P ↔ ∀ v, (next v).Ends P := Iff.rfl

@[simp] theorem ends_write {P : α → Prop} {address : UInt16} {byte : UInt8}
    {next : Unit → BusProgram α} : (write address byte next).Ends P ↔ (next ()).Ends P := Iff.rfl

@[simp] theorem ends_input {P : α → Prop} {port : UInt16} {next : UInt8 → BusProgram α} :
    (input port next).Ends P ↔ ∀ v, (next v).Ends P := Iff.rfl

@[simp] theorem ends_output {P : α → Prop} {port : UInt16} {byte : UInt8}
    {next : Unit → BusProgram α} : (output port byte next).Ends P ↔ (next ()).Ends P := Iff.rfl

@[simp] theorem ends_bind {P : β → Prop} {p : BusProgram α} {f : α → BusProgram β} :
    (p.bind f).Ends P ↔ p.Ends fun a => (f a).Ends P := by
  induction p with
  | done a => rfl
  | read _ _ ih => exact forall_congr' ih
  | write _ _ _ ih => exact ih ()
  | input _ _ ih => exact forall_congr' ih
  | output _ _ _ ih => exact ih ()

theorem ends_true {P : α → Prop} (h : ∀ a, P a) (p : BusProgram α) : p.Ends P := by
  induction p with
  | done a => exact h a
  | read _ _ ih => exact ih
  | write _ _ _ ih => exact ih ()
  | input _ _ ih => exact ih
  | output _ _ _ ih => exact ih ()

theorem Ends.run {σ : Type} {P : α → Prop} {p : BusProgram α} (h : p.Ends P) (bus : Bus σ)
    (s : σ) : P (p.run bus s).1 := by
  induction p generalizing s with
  | done a => exact h
  | read _ _ ih => exact ih _ (h _) s
  | write _ _ _ ih => exact ih () h _
  | input _ _ ih => exact ih _ (h _) _
  | output _ _ _ ih => exact ih () h _

/-! ### Two buses at once -/

/-- Two buses answer alike in related states, and every access leaves the states related. -/
structure Bus.Related {σ τ : Type} (bus : Bus σ) (bus' : Bus τ) (R : σ → τ → Prop) : Prop where
  read {s : σ} {t : τ} : R s t → ∀ a, bus.read a s = bus'.read a t
  write {s : σ} {t : τ} : R s t → ∀ a v, R (bus.write a v s) (bus'.write a v t)
  input_value {s : σ} {t : τ} : R s t → ∀ p, (bus.input p s).1 = (bus'.input p t).1
  input {s : σ} {t : τ} : R s t → ∀ p, R (bus.input p s).2 (bus'.input p t).2
  output {s : σ} {t : τ} : R s t → ∀ p v, R (bus.output p v s) (bus'.output p v t)

/-- No program can tell two related buses apart. -/
theorem Bus.Related.run {σ τ : Type} {bus : Bus σ} {bus' : Bus τ} {R : σ → τ → Prop}
    (h : bus.Related bus' R) (p : BusProgram α) {s : σ} {t : τ} (hst : R s t) :
    (p.run bus s).1 = (p.run bus' t).1 ∧ R (p.run bus s).2 (p.run bus' t).2 := by
  induction p generalizing s t with
  | done a => exact ⟨rfl, hst⟩
  | read address next ih =>
      simp only [BusProgram.run, h.read hst address]
      exact ih _ hst
  | write address byte next ih => exact ih () (h.write hst address byte)
  | input port next ih =>
      simp only [BusProgram.run, h.input_value hst port]
      exact ih _ (h.input hst port)
  | output port byte next ih => exact ih () (h.output hst port byte)

/-! ### The accesses of a run -/

/-- An access that can change the state of a bus. -/
inductive Access where
  | write (address : UInt16) (byte : UInt8)
  | input (port : UInt16)
  | output (port : UInt16) (byte : UInt8)
deriving DecidableEq, Repr

/-- The state of a bus after an access. -/
def Bus.after {σ : Type} (bus : Bus σ) (s : σ) : Access → σ
  | .write address byte => bus.write address byte s
  | .input port => (bus.input port s).2
  | .output port byte => bus.output port byte s

/-- The accesses other than memory reads that a program makes on a bus, in order. -/
def accesses {σ : Type} (bus : Bus σ) : BusProgram α → σ → List Access
  | done _, _ => []
  | read address next, s => (next (bus.read address s)).accesses bus s
  | write address byte next, s =>
    .write address byte :: (next ()).accesses bus (bus.write address byte s)
  | input port next, s =>
    .input port :: (next (bus.input port s).1).accesses bus (bus.input port s).2
  | output port byte next, s =>
    .output port byte :: (next ()).accesses bus (bus.output port byte s)

/-- A run leaves the bus as its accesses do, one after another. -/
theorem run_eq_foldl_accesses {σ : Type} (bus : Bus σ) (p : BusProgram α) (s : σ) :
    (p.run bus s).2 = (p.accesses bus s).foldl bus.after s := by
  induction p generalizing s with
  | done a => rfl
  | read address next ih => exact ih _ s
  | write address byte next ih => exact ih () _
  | input port next ih => exact ih _ _
  | output port byte next ih => exact ih () _

end BusProgram

end BankedZ80
