import BankedZ80.Disk.Unit

/-!
# Command line arguments

The grammar of the command line. An option stands before its value or is joined to it by an equals
sign; a single value or flag may be given once; everything after `--` is positional, and there is at
most one positional argument, the bundle.

A disk argument is a path, or a unit number and a path joined by an equals sign. What stands before
the sign counts as a unit only if it is a number that fits 64 bits.
-/

namespace BankedZ80

/-- A disk image to load, into a certain unit or the first free one. -/
structure DiskArgument where
  unit : Option Nat
  path : String
deriving DecidableEq, Repr

/-- What the command line asks for. -/
structure Arguments where
  bundle : Option String := none
  rom : Option String := none
  disks : List DiskArgument := []
  boot : Option String := none
  config : Option String := none
  imports : String := "."
  exports : String := "."
  state : Option String := none
  saveDisks : Bool := false
  quietWrites : Bool := false
  trace : Bool := false
deriving DecidableEq, Repr

/-! ### Disk arguments -/

/-- The value of a number of 64 bits: digits, perhaps after a plus sign. -/
def parseSize? (s : List Char) : Option Nat :=
  let digits := match s with
    | '+' :: rest => rest
    | s => s
  if digits ≠ [] ∧ digits.all Char.isDigit then
    let n := digits.foldl (fun n c => 10 * n + (c.toNat - 48)) 0
    if n < 2 ^ 64 then some n else none
  else none

/-- A disk argument, or the number of a unit that does not exist. -/
def DiskArgument.parse (s : String) : Except Nat DiskArgument :=
  let cs := s.toList
  let whole : DiskArgument := ⟨none, s⟩
  match cs.dropWhile (· ≠ '=') with
  | [] => .ok whole
  | _ :: path =>
    match parseSize? (cs.takeWhile (· ≠ '=')) with
    | none => .ok whole
    | some n => if n < maxUnits then .ok ⟨some n, String.ofList path⟩ else .error n

/-- The wording for a unit that does not exist. -/
def unitRangeMessage (n : Nat) : String := s!"unit {n} out of range (0-{maxUnits - 1})"

/-! ### Options -/

/-- Why the arguments do not lead to a run. -/
inductive ArgumentStop where
  /-- The arguments break the grammar. -/
  | refused
  /-- The user asked for help. -/
  | help
deriving DecidableEq, Repr

/-- Options with a value. -/
inductive ValueOption where
  | rom
  | disk
  | boot
  | config
  | imports
  | exports
  | state
deriving DecidableEq, Repr

/-- Options without a value. -/
inductive FlagOption where
  | saveDisks
  | quietWrites
  | trace
  | help
deriving DecidableEq, Repr

/-- An option by its long name. -/
def longOption? (name : String) : Option (ValueOption ⊕ FlagOption) :=
  match name with
  | "rom" => some (.inl .rom)
  | "disk" => some (.inl .disk)
  | "boot" => some (.inl .boot)
  | "config" => some (.inl .config)
  | "imports" => some (.inl .imports)
  | "exports" => some (.inl .exports)
  | "state" => some (.inl .state)
  | "save-disks" => some (.inr .saveDisks)
  | "quiet-writes" => some (.inr .quietWrites)
  | "trace" => some (.inr .trace)
  | "help" => some (.inr .help)
  | _ => none

/-- A flag by its letter. -/
def shortOption? (c : Char) : Option FlagOption :=
  if c = 't' then some .trace else if c = 'h' then some .help else none

/-- Arguments read so far, and the single options among them that were given. -/
structure ArgumentState where
  args : Arguments := {}
  given : List (ValueOption ⊕ FlagOption) := []
deriving DecidableEq, Repr

namespace ArgumentState

/-- Note an option that may be given once. -/
def once (s : ArgumentState) (option : ValueOption ⊕ FlagOption) :
    Except ArgumentStop ArgumentState :=
  if s.given.contains option then .error .refused else .ok { s with given := option :: s.given }

/-- A path must not be empty. -/
def checkPath (value : String) : Except ArgumentStop Unit :=
  if value = "" then .error .refused else .ok ()

/-- Take an option with its value. -/
def setValue (s : ArgumentState) (option : ValueOption) (value : String) :
    Except ArgumentStop ArgumentState := do
  match option with
  | .disk =>
    match DiskArgument.parse value with
    | .ok d => return { s with args := { s.args with disks := s.args.disks ++ [d] } }
    | .error _ => throw .refused
  | .boot =>
    let s ← s.once (.inl .boot)
    return { s with args := { s.args with boot := some value } }
  | option =>
    let s ← s.once (.inl option)
    checkPath value
    let args := match option with
      | .rom => { s.args with rom := some value }
      | .config => { s.args with config := some value }
      | .imports => { s.args with imports := value }
      | .exports => { s.args with exports := value }
      | _ => { s.args with state := some value }
    return { s with args }

/-- Take a flag. -/
def setFlag (s : ArgumentState) (flag : FlagOption) : Except ArgumentStop ArgumentState := do
  if flag = .help then throw .help
  let s ← s.once (.inr flag)
  let args := match flag with
    | .saveDisks => { s.args with saveDisks := true }
    | .quietWrites => { s.args with quietWrites := true }
    | _ => { s.args with trace := true }
  return { s with args }

/-- Take a positional argument. -/
def setPositional (s : ArgumentState) (value : String) : Except ArgumentStop ArgumentState := do
  if s.args.bundle.isSome then throw .refused
  checkPath value
  return { s with args := { s.args with bundle := some value } }

/-- Take flags by their letters. -/
def setLetters (s : ArgumentState) (letters : List Char) : Except ArgumentStop ArgumentState :=
  letters.foldlM (fun s c =>
    match shortOption? c with
    | some flag => s.setFlag flag
    | none => .error .refused) s

/-- Split a long option from the value joined to it. -/
def splitLong (s : List Char) : String × Option String :=
  (String.ofList (s.takeWhile (· ≠ '=')),
    match s.dropWhile (· ≠ '=') with
    | _ :: value => some (String.ofList value)
    | [] => none)

/-- Does an argument look like an option? -/
def isOption (arg : String) : Bool := arg.startsWith "-" && arg ≠ "-"

/-- Take all arguments. -/
def takeAll (s : ArgumentState) : List String → Except ArgumentStop ArgumentState
  | [] => .ok s
  | arg :: rest =>
    match arg.toList with
    | ['-', '-'] => rest.foldlM setPositional s
    | '-' :: '-' :: long =>
      let (name, joined) := splitLong long
      match longOption? name, joined, rest with
      | some (.inl option), some value, rest => do takeAll (← s.setValue option value) rest
      | some (.inl option), none, value :: rest =>
        if isOption value then .error .refused
        else do takeAll (← s.setValue option value) rest
      | some (.inl _), none, [] => .error .refused
      | some (.inr flag), none, rest => do takeAll (← s.setFlag flag) rest
      | _, _, _ => .error .refused
    | '-' :: c :: letters => do takeAll (← s.setLetters (c :: letters)) rest
    | _ => do takeAll (← s.setPositional arg) rest

end ArgumentState

/-- Read the arguments of the command line. -/
def Arguments.parse (args : List String) : Except ArgumentStop Arguments :=
  (ArgumentState.takeAll {} args).map (·.args)

end BankedZ80
