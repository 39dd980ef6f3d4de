import BankedZ80.Host.Clock

/-!
# What the command line asks of the host

A `HostProgram α` is a finite tree of requests that ends in a value: reading, writing and listing
files, the standard output, remarks to the user, and the clock. The logic of the command line is
written as such programs, so it can be carried out by the operating system as well as on a file tree
that is a plain value.

* `HostProgram.bind` runs one program after another.
* `HostProgram.run` interprets a program on any host that answers the requests.
-/

namespace BankedZ80

/-- Why a file could not be read. -/
inductive FileFault where
  /-- There is nothing at the path. -/
  | missing
  /-- There is a directory at the path. -/
  | directory
  /-- Any other reason. -/
  | failed
deriving DecidableEq, Repr

/-- A finite sequence of requests, each chosen by the answers before it, and a final value. -/
inductive HostProgram (α : Type) : Type where
  /-- No further request. -/
  | done (value : α)
  /-- The contents of a file. -/
  | readFile (path : String) (next : Except FileFault ByteArray → HostProgram α)
  /-- Write a file, in place of any other at its path; was that possible? -/
  | writeFile (path : String) (contents : ByteArray) (next : Bool → HostProgram α)
  /-- The names of the files directly inside a directory, in any order. -/
  | listFiles (directory : String) (next : Option (List String) → HostProgram α)
  /-- Write to the standard output. -/
  | emit (bytes : ByteArray) (next : Unit → HostProgram α)
  /-- Tell the user something, apart from the output. -/
  | remark (text : String) (next : Unit → HostProgram α)
  /-- The clock during the batch that begins. -/
  | clock (next : Clock → HostProgram α)

namespace HostProgram

variable {α β γ : Type}

/-- Run `p`, then the program that its value selects. -/
def bind (p : HostProgram α) (f : α → HostProgram β) : HostProgram β :=
  match p with
  | done a => f a
  | readFile path next => readFile path fun r => (next r).bind f
  | writeFile path contents next => writeFile path contents fun r => (next r).bind f
  | listFiles directory next => listFiles directory fun r => (next r).bind f
  | emit bytes next => emit bytes fun r => (next r).bind f
  | remark text next => remark text fun r => (next r).bind f
  | clock next => clock fun r => (next r).bind f

instance : Monad HostProgram where
  pure := done
  bind := bind

@[simp] theorem pure_eq (a : α) : (pure a : HostProgram α) = done a := rfl

@[simp] theorem bind_eq (p : HostProgram α) (f : α → HostProgram β) : p >>= f = p.bind f := rfl

@[simp] theorem done_bind (a : α) (f : α → HostProgram β) : (done a).bind f = f a := rfl

@[simp] theorem bind_done (p : HostProgram α) : p.bind done = p := by
  induction p <;> simp_all [bind, -Bool.forall_bool]

theorem bind_assoc (p : HostProgram α) (f : α → HostProgram β) (g : β → HostProgram γ) :
    (p.bind f).bind g = p.bind fun a => (f a).bind g := by
  induction p <;> simp_all [bind, -Bool.forall_bool]

/-! ### Single requests -/

def askFile (path : String) : HostProgram (Except FileFault ByteArray) := readFile path done

def putFile (path : String) (contents : ByteArray) : HostProgram Bool := writeFile path contents done

def askFiles (directory : String) : HostProgram (Option (List String)) := listFiles directory done

def say (text : String) : HostProgram Unit := remark text done

def write (bytes : ByteArray) : HostProgram Unit := emit bytes done

def askClock : HostProgram Clock := clock done

/-! ### Hosts -/

/-- A host with state `σ`: how it answers each request, and what a write, output and the time that a
batch takes make of its state. -/
structure Host (σ : Type) where
  readFile : String → σ → Except FileFault ByteArray
  writeFile : String → ByteArray → σ → Bool × σ
  listFiles : String → σ → Option (List String)
  emit : ByteArray → σ → σ
  clock : σ → Clock × σ

/-- Carry the requests out on a host; remarks leave no trace. -/
def run {σ : Type} (host : Host σ) : HostProgram α → σ → α × σ
  | done a, s => (a, s)
  | readFile path next, s => (next (host.readFile path s)).run host s
  | writeFile path contents next, s =>
    let (written, s) := host.writeFile path contents s
    (next written).run host s
  | listFiles directory next, s => (next (host.listFiles directory s)).run host s
  | emit bytes next, s => (next ()).run host (host.emit bytes s)
  | remark _ next, s => (next ()).run host s
  | clock next, s =>
    let (now, s) := host.clock s
    (next now).run host s

theorem run_bind {σ : Type} (host : Host σ) (p : HostProgram α) (f : α → HostProgram β) (s : σ) :
    (p.bind f).run host s = (f (p.run host s).1).run host (p.run host s).2 := by
  induction p generalizing s <;> simp_all [bind, run, -Bool.forall_bool]

end HostProgram

end BankedZ80
