import BankedZ80.Json.Value

/-!
# Decoding JSON values

Readers of single values, and `Json.fields?` for records. A record is written as an object, in which
unknown keys are skipped and a known key may occur once, or as an array of its fields in order, which
may stop early. A field that is absent gets its default if it has one.
-/

namespace BankedZ80.Json

/-- A natural number below a bound. -/
def below? (bound : Nat) : Json → Option Nat
  | .number (some n) => if n < bound then some n else none
  | _ => none

/-- A number of eight bits. -/
def uint8? (j : Json) : Option UInt8 := (j.below? (2 ^ 8)).map Nat.toUInt8

/-- A number of 32 bits. -/
def uint32? (j : Json) : Option UInt32 := (j.below? (2 ^ 32)).map Nat.toUInt32

/-- A size or index: a number of 64 bits. -/
def size? (j : Json) : Option Nat := j.below? (2 ^ 64)

/-- A truth value. -/
def bool? : Json → Option Bool
  | .bool b => some b
  | _ => none

/-- A text. -/
def text? : Json → Option String
  | .string s => s
  | _ => none

/-- The items of an array, each read alike. -/
def list? {α : Type} (read : Json → Option α) : Json → Option (List α)
  | .array items => items.mapM read
  | _ => none

/-- Absent when the value is null. -/
def nullable? {α : Type} (read : Json → Option α) : Json → Option (Option α)
  | .null => some none
  | j => (read j).map some

/-- One of some names, as a string or as the key of an object with only a null in it. -/
def name? : Json → Option String
  | .string s => s
  | .object [(key, .null)] => key
  | _ => none

/-- The fields of a record that are present, by name. -/
abbrev Fields := String → Option Json

/-- The fields of a record with the given field names. -/
def fields? (names : List String) : Json → Option Fields
  | .object members => do
    let members ← members.mapM fun (key, v) => key.map (·, v)
    let known := (members.map (·.1)).filter names.contains
    if known.Nodup then some fun name => members.lookup name else none
  | .array items =>
    if items.length ≤ names.length then some fun name => (names.zip items).lookup name else none
  | _ => none

/-- A field that must be present. -/
def Fields.required {α : Type} (f : Fields) (name : String) (read : Json → Option α) : Option α := do
  read (← f name)

/-- A field that has a default. -/
def Fields.withDefault {α : Type} (f : Fields) (name : String) (read : Json → Option α)
    (default : α) : Option α :=
  match f name with
  | some j => read j
  | none => some default

end BankedZ80.Json
