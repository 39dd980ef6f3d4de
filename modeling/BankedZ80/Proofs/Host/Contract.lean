import BankedZ80.Host.Program

/-!
# What programs of requests do on any host

`HostProgram.Obeys allowed post` says of a program, whatever host carries it out: it writes to allowed
paths only, and what it returns satisfies `post`. Programs are put together with `Obeys.bind`, so
contracts are proved along the text of a program, without a state; a run keeps the contract of its
program (`Obeys.run`).

`HostProgram.accesses` lists what a run does with files, with the success of each write, and
`HostProgram.Asks` says of a run that it only reads.
-/

namespace BankedZ80

/-- What a run does with a file. -/
inductive FileAccess where
  | read (path : String)
  /-- A write, and whether it was possible. -/
  | write (path : String) (written : Bool)
deriving DecidableEq

namespace FileAccess

def readPath? : FileAccess → Option String
  | read path => some path
  | write .. => none

def writtenPath? : FileAccess → Option String
  | read _ => none
  | write path _ => some path

def refusedPath? : FileAccess → Option String
  | write path false => some path
  | _ => none

end FileAccess

namespace HostProgram

variable {α β : Type}

instance : LawfulMonad HostProgram :=
  LawfulMonad.mk' HostProgram (fun p => bind_done p) (fun a f => done_bind a f)
    (fun p f g => bind_assoc p f g)

/-! ### What a run does with files -/

section Accesses

variable {σ : Type} (host : Host σ)

/-- The accesses of a run, in order. -/
def accesses : HostProgram α → σ → List FileAccess
  | done _, _ => []
  | readFile path next, s => .read path :: (next (host.readFile path s)).accesses s
  | writeFile path contents next, s =>
    let (written, s) := host.writeFile path contents s
    .write path written :: (next written).accesses s
  | listFiles directory next, s => (next (host.listFiles directory s)).accesses s
  | emit bytes next, s => (next ()).accesses (host.emit bytes s)
  | remark _ next, s => (next ()).accesses s
  | clock next, s =>
    let (now, s) := host.clock s
    (next now).accesses s

/-- A program in two parts does what the first part does, then what the second does. -/
theorem accesses_bind (p : HostProgram α) (f : α → HostProgram β) (s : σ) :
    (p.bind f).accesses host s =
      p.accesses host s ++ (f (p.run host s).1).accesses host (p.run host s).2 := by
  induction p generalizing s with
  | done a => rfl
  | readFile path next ih => exact congrArg (FileAccess.read path :: ·) (ih _ s)
  | writeFile path contents next ih => exact congrArg (FileAccess.write path _ :: ·) (ih _ _)
  | listFiles directory next ih => exact ih _ s
  | emit bytes next ih => exact ih _ _
  | remark text next ih => exact ih _ s
  | clock next ih => exact ih _ _

/-- The paths that a run reads, whether or not there is a file. -/
def readPaths (p : HostProgram α) (s : σ) : List String :=
  (p.accesses host s).filterMap FileAccess.readPath?

/-- The paths that a run writes to, whether or not a write is possible. -/
def writtenPaths (p : HostProgram α) (s : σ) : List String :=
  (p.accesses host s).filterMap FileAccess.writtenPath?

/-- The paths of the writes that fail. -/
def refusedPaths (p : HostProgram α) (s : σ) : List String :=
  (p.accesses host s).filterMap FileAccess.refusedPath?

theorem readPaths_bind (p : HostProgram α) (f : α → HostProgram β) (s : σ) :
    (p.bind f).readPaths host s =
      p.readPaths host s ++ (f (p.run host s).1).readPaths host (p.run host s).2 := by
  rw [readPaths, accesses_bind, List.filterMap_append]
  rfl

theorem writtenPaths_bind (p : HostProgram α) (f : α → HostProgram β) (s : σ) :
    (p.bind f).writtenPaths host s =
      p.writtenPaths host s ++ (f (p.run host s).1).writtenPaths host (p.run host s).2 := by
  rw [writtenPaths, accesses_bind, List.filterMap_append]
  rfl

theorem refusedPaths_bind (p : HostProgram α) (f : α → HostProgram β) (s : σ) :
    (p.bind f).refusedPaths host s =
      p.refusedPaths host s ++ (f (p.run host s).1).refusedPaths host (p.run host s).2 := by
  rw [refusedPaths, accesses_bind, List.filterMap_append]
  rfl

/-- A write fails as its answer says, then the rest of the program follows. -/
theorem refusedPaths_putFile (path : String) (contents : ByteArray) (next : Bool → HostProgram α) (s : σ) :
    ((putFile path contents).bind next).refusedPaths host s =
      (if (host.writeFile path contents s).1 then [] else [path]) ++
        (next (host.writeFile path contents s).1).refusedPaths host (host.writeFile path contents s).2 := by
  rw [refusedPaths_bind]
  congr 1
  show [FileAccess.write path (host.writeFile path contents s).1].filterMap FileAccess.refusedPath? = _
  cases (host.writeFile path contents s).1 <;> rfl

end Accesses

theorem run_putFile {σ : Type} (host : Host σ) (path : String) (contents : ByteArray)
    (next : Bool → HostProgram α) (s : σ) :
    ((putFile path contents).bind next).run host s =
      (next (host.writeFile path contents s).1).run host (host.writeFile path contents s).2 := rfl

/-- A program ends in a value on a host that it only asks: it changes nothing, writes to no path, and
reads these. -/
structure Asks {σ : Type} (host : Host σ) (s : σ) (p : HostProgram α) (a : α)
    (paths : List String) : Prop where
  run : p.run host s = (a, s)
  written : p.writtenPaths host s = []
  read : p.readPaths host s = paths

namespace Asks

variable {σ : Type} {host : Host σ} {s : σ} {p : HostProgram α} {f : α → HostProgram β} {a : α} {b : β}
  {paths more : List String}

theorem done (a : α) : Asks host s (done a) a [] := ⟨rfl, rfl, rfl⟩

theorem askFiles (directory : String) :
    Asks host s (askFiles directory) (host.listFiles directory s) [] := ⟨rfl, rfl, rfl⟩

theorem askFile (path : String) : Asks host s (askFile path) (host.readFile path s) [path] :=
  ⟨rfl, rfl, rfl⟩

theorem bind (first : Asks host s p a paths) (rest : Asks host s (f a) b more) :
    Asks host s (p.bind f) b (paths ++ more) := by
  constructor
  · rw [run_bind, first.run, rest.run]
  · rw [writtenPaths_bind, first.run, first.written, rest.written]
    rfl
  · rw [readPaths_bind, first.run, first.read, rest.read]

end Asks

/-! ### Contracts -/

/-- Writes go to allowed paths and the result satisfies `post`, whatever the answers are. -/
def Obeys (allowed : String → Prop) (post : α → Prop) : HostProgram α → Prop
  | done a => post a
  | readFile _ next => ∀ r, (next r).Obeys allowed post
  | writeFile path _ next => allowed path ∧ ∀ r, (next r).Obeys allowed post
  | listFiles _ next => ∀ r, (next r).Obeys allowed post
  | emit _ next => ∀ r, (next r).Obeys allowed post
  | remark _ next => ∀ r, (next r).Obeys allowed post
  | clock next => ∀ r, (next r).Obeys allowed post

variable {allowed : String → Prop}

theorem Obeys.pure {post : α → Prop} {a : α} (h : post a) :
    (Pure.pure a : HostProgram α).Obeys allowed post := h

theorem Obeys.askFile (path : String) : (askFile path).Obeys allowed fun _ => True :=
  fun _ => trivial

theorem Obeys.putFile {path : String} (h : allowed path) (contents : ByteArray) :
    (putFile path contents).Obeys allowed fun _ => True := ⟨h, fun _ => trivial⟩

theorem Obeys.askFiles (directory : String) : (askFiles directory).Obeys allowed fun _ => True :=
  fun _ => trivial

theorem Obeys.say (text : String) : (say text).Obeys allowed fun _ => True := fun _ => trivial

theorem Obeys.write (bytes : ByteArray) : (write bytes).Obeys allowed fun _ => True :=
  fun _ => trivial

theorem Obeys.askClock : askClock.Obeys allowed fun _ => True := fun _ => trivial

/-- **Contracts compose.** By induction on the first program. -/
theorem Obeys.bind {p : HostProgram α} {f : α → HostProgram β} {mid : α → Prop} {post : β → Prop}
    (first : p.Obeys allowed mid) (rest : ∀ a, mid a → (f a).Obeys allowed post) :
    (p.bind f).Obeys allowed post := by
  induction p with
  | done a => exact rest a first
  | readFile path next ih => exact fun r => ih r (first r)
  | writeFile path contents next ih => exact ⟨first.1, fun r => ih r (first.2 r)⟩
  | listFiles directory next ih => exact fun r => ih r (first r)
  | emit bytes next ih => exact fun r => ih r (first r)
  | remark text next ih => exact fun r => ih r (first r)
  | clock next ih => exact fun r => ih r (first r)

theorem Obeys.mono {p : HostProgram α} {post post' : α → Prop} (h : p.Obeys allowed post)
    (weaker : ∀ a, post a → post' a) : p.Obeys allowed post' := by
  rw [← bind_done p]
  exact h.bind fun a ok => .pure (weaker a ok)

/-- **A run keeps the contract** of its program. -/
theorem Obeys.run {σ : Type} (host : Host σ) {p : HostProgram α} {post : α → Prop} (s : σ)
    (h : p.Obeys allowed post) :
    post (p.run host s).1 ∧ ∀ path ∈ p.writtenPaths host s, allowed path := by
  induction p generalizing s with
  | done a => exact ⟨h, nofun⟩
  | readFile path next ih => exact ih _ s (h _)
  | writeFile path contents next ih =>
      obtain ⟨result, paths⟩ := ih _ (host.writeFile path contents s).2 (h.2 _)
      exact ⟨result, List.forall_mem_cons.2 ⟨h.1, paths⟩⟩
  | listFiles directory next ih => exact ih _ s (h _)
  | emit bytes next ih => exact ih _ _ (h _)
  | remark text next ih => exact ih _ s (h _)
  | clock next ih => exact ih _ _ (h _)

end HostProgram

end BankedZ80
