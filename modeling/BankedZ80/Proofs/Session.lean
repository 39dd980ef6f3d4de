import BankedZ80.Proofs.Host.Tree
import BankedZ80.Proofs.Json.RoundTrip
import BankedZ80.Session

/-!
# Sessions between runs

A session that is saved is the session that is loaded (`Session.load_of_saved`), whatever its setting
and its units are: the printed form is read back, and reading decodes what printing encodes.

A file need not name everything. `Session.Mentioned` is what a file may say of a session, and
`Session.Tells` when the members of an object tell just that, in any order and among other members;
what is not mentioned gets its default (`Session.ofJson?_of_tells`). The file of a session is the one
that mentions everything.
-/

namespace BankedZ80.Session

open FileTree

/-! ### What a file mentions -/

/-- What a file may say of a session. -/
structure Mentioned where
  setting : Option String := none
  silenceAll : Option Bool := none
  silencedUnits : Option (List Nat) := none

/-- The session with what is mentioned, and the default for what is not. -/
def Mentioned.session (m : Mentioned) : Session where
  setting := m.setting.getD ""
  silenceAll := m.silenceAll.getD false
  silencedUnits := m.silencedUnits.getD []

/-- Everything in a session. -/
def everything (s : Session) : Mentioned where
  setting := s.setting
  silenceAll := s.silenceAll
  silencedUnits := s.silencedUnits

/-- The keys of a session's file. -/
def keys : List String := ["nvram", "suppressAllWarnings", "suppressedUnits"]

/-- Unit numbers as JSON. -/
def unitsJson (units : List Nat) : Json := .array (units.map fun n => .number (some n))

/-- An object with these members. -/
def object (members : List (String × Json)) : Json := .object (members.map fun m => (some m.1, m.2))

/-- The members of an object tell so much of a session, and no key of a session occurs twice. Units
are numbers of 64 bits. -/
structure Tells (members : List (String × Json)) (m : Mentioned) : Prop where
  once : ((members.map Prod.fst).filter keys.contains).Nodup
  setting : members.lookup "nvram" = m.setting.map fun s => .string (some s)
  silenceAll : members.lookup "suppressAllWarnings" = m.silenceAll.map .bool
  silencedUnits : members.lookup "suppressedUnits" = m.silencedUnits.map unitsJson
  units : ∀ units ∈ m.silencedUnits, ∀ n ∈ units, n < 2 ^ 64

section

variable {members : List (String × Json)} {m : Mentioned}

/-! ### Decoding -/

/-- The fields of an object are its members, if no known key is repeated. -/
theorem fields?_object {names : List String}
    (once : ((members.map Prod.fst).filter names.contains).Nodup) :
    (object members).fields? names = some fun name => members.lookup name := by
  have all : (members.map fun m => (some m.1, m.2)).mapM
      (fun m : Option String × Json => m.1.map (·, m.2)) = some members := by
    rw [List.mapM_map]
    exact (List.mapM_pure (f := id)).trans (congrArg some (List.map_id members))
  rw [object, Json.fields?]
  simp only [bind, all, Option.bind_some]
  exact if_pos once

theorem list?_unitsJson {units : List Nat} (h : ∀ n ∈ units, n < 2 ^ 64) :
    Json.list? Json.size? (unitsJson units) = some units := by
  show (units.map fun n => Json.number (some n)).mapM Json.size? = some units
  induction units with
  | nil => rfl
  | cons n rest ih =>
      have size : Json.size? (.number (some n)) = some n := if_pos (h n List.mem_cons_self)
      rw [List.map_cons, List.mapM_cons, size, ih fun n mem => h n (List.mem_cons_of_mem _ mem)]
      rfl

/-- **What is mentioned is decoded**, and what is not gets its default. -/
theorem ofJson?_of_tells (h : Tells members m) : ofJson? (object members) = some m.session := by
  have setting : Json.Fields.withDefault (fun name => members.lookup name) "nvram" Json.text? "" =
      some (m.setting.getD "") := by
    rw [Json.Fields.withDefault, h.setting]
    cases m.setting <;> rfl
  have silenceAll : Json.Fields.withDefault (fun name => members.lookup name) "suppressAllWarnings" Json.bool? false =
      some (m.silenceAll.getD false) := by
    rw [Json.Fields.withDefault, h.silenceAll]
    cases m.silenceAll <;> rfl
  have silencedUnits : Json.Fields.withDefault (fun name => members.lookup name) "suppressedUnits"
      (Json.list? Json.size?) [] = some (m.silencedUnits.getD []) := by
    rw [Json.Fields.withDefault, h.silencedUnits]
    cases mentioned : m.silencedUnits with
    | none => rfl
    | some units => exact list?_unitsJson (h.units units mentioned)
  have fields : (object members).fields? ["nvram", "suppressAllWarnings", "suppressedUnits"] = _ :=
    fields?_object h.once
  rw [ofJson?, fields]
  simp only [bind, Option.bind_some, setting, silenceAll, silencedUnits]
  rfl

end

/-! ### Encoding -/

/-- The members of a session's own file. -/
def members (s : Session) : List (String × Json) :=
  [("nvram", .string (some s.setting)), ("suppressAllWarnings", .bool s.silenceAll),
    ("suppressedUnits", unitsJson s.silencedUnits)]

variable {s : Session}

theorem toJson_eq (s : Session) : s.toJson = object s.members := rfl

/-- The file of a session mentions everything. -/
theorem tells_members (units : ∀ n ∈ s.silencedUnits, n < 2 ^ 64) : Tells s.members s.everything where
  once := (by decide : (keys.filter keys.contains).Nodup)
  setting := rfl
  silenceAll := rfl
  silencedUnits := rfl
  units := fun _ mem => Option.some.inj mem ▸ units

theorem definite_toJson (s : Session) : s.toJson.Definite := by
  have units : (unitsJson s.silencedUnits).Definite := by
    refine .array fun j mem => ?_
    obtain ⟨n, -, rfl⟩ := List.mem_map.1 mem
    exact .number n
  rw [toJson_eq]
  refine .object ?_ ?_
  · exact List.forall_mem_cons.2 ⟨rfl, List.forall_mem_cons.2 ⟨rfl, List.forall_mem_cons.2 ⟨rfl, nofun⟩⟩⟩
  · exact List.forall_mem_cons.2 ⟨.string _, List.forall_mem_cons.2 ⟨.bool _,
      List.forall_mem_cons.2 ⟨units, nofun⟩⟩⟩

/-- **A session is read back from its text.** -/
theorem ofText?_toText (units : ∀ n ∈ s.silencedUnits, n < 2 ^ 64) : ofText? s.toText = some s := by
  rw [ofText?, toText, Json.parse?_pretty s.definite_toJson, toJson_eq]
  exact ofJson?_of_tells (tells_members units)

/-! ### Files on any host -/

section AnyHost

variable {σ : Type} {host : HostProgram.Host σ} {c : σ} {path : String} {contents : ByteArray}

/-- Loading a session reads its file and does nothing else. -/
theorem load_run (host : HostProgram.Host σ) (path : String) (c : σ) :
    ((Session.load path).run host c).2 = c := by
  simp only [load, HostProgram.bind_eq, HostProgram.askFile, HostProgram.bind, HostProgram.run]
  split
  · rfl
  · rfl
  · split
    · split <;> rfl
    · rfl

/-- A file that holds the text of a session. -/
theorem load_eq (read : host.readFile path c = .ok contents) (valid : contents.validateUTF8 = true)
    (text : ofText? (Bytes.toList contents) = some s) :
    (Session.load path).run host c = (.ok s, c) := by
  simp only [load, HostProgram.bind_eq, HostProgram.askFile, HostProgram.bind, HostProgram.run, read,
    valid, text]
  rfl

/-- A file with what a session is saved as. -/
theorem load_of_saved (units : ∀ n ∈ s.silencedUnits, n < 2 ^ 64)
    (read : host.readFile path c = .ok (Bytes.ofList s.toText)) :
    (Session.load path).run host c = (.ok s, c) := by
  refine load_eq read (Json.encoded_prettyAt s.definite_toJson 0).valid ?_
  rw [Bytes.toList_ofList]
  exact ofText?_toText units

/-- A file with a text that writes an object with these members. -/
theorem load_of_tells {text : String} {members : List (String × Json)} {m : Mentioned}
    (read : host.readFile path c = .ok text.toUTF8)
    (written : Json.parse? (Json.textBytes text) = some (object members)) (tells : Tells members m) :
    (Session.load path).run host c = (.ok m.session, c) := by
  refine load_eq read (ByteArray.validateUTF8_eq_true_iff.2 text.isValidUTF8) ?_
  show ofText? (Json.textBytes text) = some m.session
  rw [ofText?, written]
  exact ofJson?_of_tells tells

end AnyHost

/-! ### Files of a tree -/

theorem save_run {c : Computer} {path : String} {place : Place} (h : c.tree.WritableAt path place) :
    (s.save path).run host c = (true, { c with tree := c.tree.put place (Bytes.ofList s.toText) }) := by
  show ((c.tree.write path _).1, ({ c with tree := (c.tree.write path _).2 } : Computer)) = _
  rw [h.write_eq]

/-- Save a session and load the file again. -/
def saveAndLoad (s : Session) (path : String) : HostProgram (Bool × Except MachineError Session) := do
  let written ← s.save path
  let loaded ← Session.load path
  return (written, loaded)

/-- **A session that is saved is the session that is loaded**, and what a file does not mention is
loaded as its default. The first for all sessions and all paths at which a file may be written; the
second for all files whose text writes an object, with the members in any order and with others
beside them. -/
theorem saved_is_loaded :
    (∀ (s : Session) (c : Computer) (path : String) (place : Place),
      (∀ n ∈ s.silencedUnits, n < 2 ^ 64) → c.tree.WritableAt path place →
        ((s.saveAndLoad path).run host c).1 = (true, .ok s)) ∧
    ∀ (c : Computer) (path text : String) (members : List (String × Json)) (m : Mentioned),
      c.tree.read path = .ok text.toUTF8 →
        Json.parse? (Json.textBytes text) = some (object members) → Tells members m →
          ((Session.load path).run host c).1 = .ok m.session := by
  constructor
  · intro s c path place units writable
    have read : host.readFile path { c with tree := c.tree.put place (Bytes.ofList s.toText) } = _ :=
      writable.read_put (Bytes.ofList s.toText)
    rw [saveAndLoad, HostProgram.bind_eq, HostProgram.run_bind, save_run writable, HostProgram.bind_eq,
      HostProgram.run_bind, load_of_saved units read]
    rfl
  · intro c path text members m read written tells
    have read : host.readFile path c = .ok text.toUTF8 := read
    rw [load_of_tells read written tells]

/-- A session whose setting needs every kind of escape, and the largest unit number. -/
def escapedSession : Session where
  setting := "\"\\/\n\x01\x7f é😀"
  silencedUnits := [3, 2 ^ 64 - 1]

/-- A file that mentions the setting only, after a member that is of no session. -/
def settingOnly : String := "\x7b \"name\": [1.5, null], \"nvram\": \"C\" \x7d"

theorem escapedSession_loaded :
    ((escapedSession.saveAndLoad "s.json").run host { tree := {} }).1 = (true, .ok escapedSession) ∧
      ((Session.load "s.json").run host { tree := { files := [(["s.json".toList], settingOnly.toUTF8)] } }).1 =
        .ok { setting := "C" } := by
  have written : Json.parse? (Json.textBytes settingOnly) =
      some (object [("name", .array [.number none, .null]), ("nvram", .string (some "C"))]) := by
    rfl
  have tells : Tells [("name", .array [.number none, .null]), ("nvram", .string (some "C"))]
      { setting := some "C" } :=
    ⟨by decide, rfl, rfl, rfl, nofun⟩
  have read : FileTree.read { files := [(["s.json".toList], settingOnly.toUTF8)] } "s.json" =
      .ok settingOnly.toUTF8 :=
    read_eq_ok.2 ⟨.inside ["s.json".toList], by decide +kernel, rfl⟩
  exact ⟨saved_is_loaded.1 escapedSession _ "s.json" ["s.json".toList] (by decide)
      ⟨by decide +kernel, by decide, rfl⟩,
    saved_is_loaded.2 _ "s.json" settingOnly _ _ read written tells⟩

end BankedZ80.Session
