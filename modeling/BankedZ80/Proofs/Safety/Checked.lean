import BankedZ80.Bytes
import BankedZ80.Error

/-!
# Programs that can crash

The definitions of the machine are total: past the end of an array there is a byte to be read, a
division by zero has a value, and numbers are as large as they have to be. A `Checked` program knows
better. It crashes at an access past the end of an array, at a division by zero, at a number that
does not fit its type and in a loop that takes too long; and it may be refused, as a call of the host
may be.

The modules beside this one write the programs of the machine anew as checked ones. For a program `x`
the checked one is `xM`, and a theorem `xM_eq` says that it computes `x`, where the invariants of the
machine hold; so it does not crash.
-/

namespace BankedZ80

/-- Why a program crashes. -/
inductive Crash where
  /-- An index past the end of an array, with the length of the array. -/
  | index (i size : Nat)
  | division
  | overflow
  /-- A loop takes more turns than its counts allow. -/
  | endless
deriving DecidableEq, Repr

/-- Why a program ends early. -/
inductive Stop where
  | crash (c : Crash)
  | refusal (e : MachineError)
deriving DecidableEq

/-- A program in which every access and every calculation is checked. -/
abbrev Checked (α : Type) := Except Stop α

namespace Checked

variable {α β : Type}

/-- A crash. -/
def crash (c : Crash) : Checked α := .error (.crash c)

/-- A call that may be refused, but does not crash. -/
def refusable : Except MachineError α → Checked α
  | .ok a => .ok a
  | .error e => .error (.refusal e)

/-- Find out whether a program is refused; a crash remains one. -/
def attempt : Checked α → Checked (Except MachineError α)
  | .ok a => .ok (.ok a)
  | .error (.refusal e) => .ok (.error e)
  | .error (.crash c) => crash c

@[simp] theorem ok_bind (a : α) (f : α → Checked β) : (Except.ok a >>= f : Checked β) = f a := rfl

@[simp] theorem refusable_ok (a : α) : refusable (.ok a) = .ok a := rfl

theorem refusable_bind (r : Except MachineError α) (f : α → Except MachineError β) :
    refusable (r >>= f) = refusable r >>= fun a => refusable (f a) := by
  cases r <;> rfl

@[simp] theorem attempt_refusable (r : Except MachineError α) : attempt (refusable r) = .ok r := by
  cases r <;> rfl

/-- Programs one after another, none of which ends early. -/
theorem mapM_eq {f : α → Checked β} {g : α → β} {xs : List α} (h : ∀ a ∈ xs, f a = .ok (g a)) :
    xs.mapM f = .ok (xs.map g) := by
  induction xs with
  | nil => rfl
  | cons a rest ih =>
      obtain ⟨first, others⟩ := List.forall_mem_cons.1 h
      rw [List.mapM_cons, first, ok_bind, ih others]
      rfl

/-- Programs one after another, the first of which to be refused ends them all. -/
theorem foldlM_eq {f : α → β → Checked α} {g : α → β → Except MachineError α}
    (h : ∀ a b, f a b = refusable (g a b)) (a : α) (bs : List β) :
    bs.foldlM f a = refusable (bs.foldlM g a) := by
  induction bs generalizing a with
  | nil => rfl
  | cons b rest ih =>
      rw [List.foldlM_cons, List.foldlM_cons, h, refusable_bind]
      exact bind_congr ih

/-! ### Calculations -/

def div (a b : Nat) : Checked Nat := if b = 0 then crash .division else .ok (a / b)

def mod (a b : Nat) : Checked Nat := if b = 0 then crash .division else .ok (a % b)

/-- A sum in so many bits. -/
def add (bits a b : Nat) : Checked Nat := if a + b < 2 ^ bits then .ok (a + b) else crash .overflow

/-- A product in so many bits. -/
def mul (bits a b : Nat) : Checked Nat := if a * b < 2 ^ bits then .ok (a * b) else crash .overflow

def sub (a b : Nat) : Checked Nat := if b ≤ a then .ok (a - b) else crash .overflow

section

variable {bits a b : Nat}

theorem div_eq (h : 0 < b) : div a b = .ok (a / b) := if_neg (Nat.ne_of_gt h)

theorem mod_eq (h : 0 < b) : mod a b = .ok (a % b) := if_neg (Nat.ne_of_gt h)

theorem add_eq (h : a + b < 2 ^ bits) : add bits a b = .ok (a + b) := if_pos h

theorem mul_eq (h : a * b < 2 ^ bits) : mul bits a b = .ok (a * b) := if_pos h

theorem sub_eq (h : b ≤ a) : sub a b = .ok (a - b) := if_pos h

end

/-! ### Accesses -/

/-- The byte at an index. -/
def get (b : ByteArray) (i : Nat) : Checked UInt8 :=
  if h : i < b.size then .ok b[i] else crash (.index i b.size)

/-- Replace the byte at an index. -/
def put (b : ByteArray) (i : Nat) (v : UInt8) : Checked ByteArray :=
  if h : i < b.size then .ok (b.set i v h) else crash (.index i b.size)

/-- The entry at an index. -/
def slot {n : Nat} (v : Vector α n) (i : Nat) : Checked α :=
  if h : i < n then .ok v[i] else crash (.index i n)

/-- Replace the entry at an index. -/
def setSlot {n : Nat} (v : Vector α n) (i : Nat) (a : α) : Checked (Vector α n) :=
  if h : i < n then .ok (v.set i a) else crash (.index i n)

/-- The bytes from one index up to another. -/
def slice (b : ByteArray) (start stop : Nat) : Checked ByteArray :=
  if start ≤ stop ∧ stop ≤ b.size then .ok (b.extract start stop) else crash (.index stop b.size)

/-- Replace the bytes from one index up to another by as many. -/
def fill (b : ByteArray) (start stop : Nat) (new : ByteArray) : Checked ByteArray :=
  if start ≤ stop ∧ stop ≤ b.size ∧ stop - start = new.size then
    .ok (Bytes.overwrite b start new)
  else crash (.index stop b.size)

section

variable {b new : ByteArray} {i n start stop : Nat}

theorem get_eq (h : i < b.size) : get b i = .ok (Bytes.get b i) := by
  rw [get, Bytes.get, dif_pos h, dif_pos h]

theorem put_eq (h : i < b.size) (v : UInt8) : put b i v = .ok (Bytes.put b i v) := by
  rw [put, Bytes.put, dif_pos h, dif_pos h]

theorem slot_eq {v : Vector α n} (h : i < n) : slot v i = .ok v[i] := dif_pos h

theorem setSlot_eq {v : Vector α n} (h : i < n) (a : α) : setSlot v i a = .ok (v.set i a) := dif_pos h

theorem slice_eq (h : start ≤ stop) (fits : stop ≤ b.size) :
    slice b start stop = .ok (b.extract start stop) := if_pos ⟨h, fits⟩

theorem fill_eq (fits : start + new.size ≤ b.size) :
    fill b start (start + new.size) new = .ok (Bytes.overwrite b start new) :=
  if_pos ⟨Nat.le_add_right start new.size, fits, Nat.add_sub_cancel_left start new.size⟩

end

end Checked

end BankedZ80
