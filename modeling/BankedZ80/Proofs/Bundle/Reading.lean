import BankedZ80.Bundle
import BankedZ80.Proofs.Bundle.Assignment
import Mathlib.Data.List.Induction
import Mathlib.Data.List.TakeWhile

/-!
# What a bundle is read from

A bundle names its files, and a name stands for the last file of the archive that has it,
directories and the case of letters aside (`Bundle.Candidate`). The manifest and the ROM are used up
when they are found, and the names that they were found by with them (`Bundle.Unused`).

* `Files.lookup_ofEntries` shows that what is looked up by a base name is the candidate, and
  `Holds.take_cases` follows the files through both takings.
* `Bundle.ofEntries_cases` walks through the steps of reading: either the bundle is put together
  (`AssembledFrom`), or something is missing, and the error says what (`Lacks`).

`Bundle.Picks` puts it together. `LoadedBundle.Assembled` is what the rest of the theory needs of a
bundle that was read: its disks are those of its manifest, in order, each with a unit of its own.
-/

namespace BankedZ80

/-! ### Names -/

/-- In ASCII, lower case is a matter of single letters. -/
theorem Text.lower_of_ascii {s : List Char} (ascii : ∀ c ∈ s, c.toNat < 128) :
    Text.lower s = Text.lowerAscii s := by
  have all : ∀ k : Fin 128, Char.ofNat k ≠ 'Σ' ∧
      Text.lowerChar (Char.ofNat k) = [(Char.ofNat k).toLower] := by
    decide +kernel
  suffices general : ∀ before, Text.lowerAfter before s = s.map Char.toLower from general []
  induction s with
  | nil => exact fun _ => rfl
  | cons c rest ih =>
      intro before
      obtain ⟨other, single⟩ := all ⟨c.toNat, ascii c List.mem_cons_self⟩
      rw [Char.ofNat_toNat] at other single
      rw [Text.lowerAfter, if_neg other, single,
        ih fun d mem => ascii d (List.mem_cons_of_mem c mem)]
      rfl

namespace Bundle

/-- The last part of a path, after all its slashes. -/
structure LastPart (path part : List Char) : Prop where
  no_slash : '/' ∉ part
  rest : path = part ∨ ∃ directory, path = directory ++ '/' :: part

/-- Two paths lead to files of the same name, the case of letters aside: in lower case they are the
same. -/
def SameFile (path path' : String) : Prop :=
  ∃ part part', LastPart path.toList part ∧ LastPart path'.toList part' ∧
    Text.lower part = Text.lower part'

variable {path path' : String}

theorem lastPart_afterLastSlash (path : List Char) : LastPart path (afterLastSlash path) := by
  have whole : path = (path.reverse.dropWhile (· ≠ '/')).reverse ++ afterLastSlash path := by
    rw [afterLastSlash, ← List.reverse_append, List.takeWhile_append_dropWhile,
      List.reverse_reverse]
  constructor
  case no_slash =>
    intro mem
    have passed := List.mem_takeWhile_imp (List.mem_reverse.1 mem)
    simp at passed
  case rest =>
    cases found : path.reverse.dropWhile (· ≠ '/') with
    | nil =>
        rw [found] at whole
        exact .inl whole
    | cons c directory =>
        have slash : c = '/' := by
          have stops := List.head?_dropWhile_not (· ≠ '/') path.reverse
          rw [found] at stops
          simpa using stops
        rw [found, slash, List.reverse_cons, List.append_assoc, List.singleton_append] at whole
        exact .inr ⟨directory.reverse, whole⟩

theorem LastPart.afterLastSlash_eq {path part : List Char} (h : LastPart path part) :
    afterLastSlash path = part := by
  have passed : ∀ c ∈ part.reverse, decide (c ≠ '/') = true := by
    intro c mem
    refine decide_eq_true ?_
    rintro rfl
    exact h.no_slash (List.mem_reverse.1 mem)
  rcases h.rest with rfl | ⟨directory, rfl⟩
  · rw [afterLastSlash, List.takeWhile_eq_self_iff.2 passed, List.reverse_reverse]
  · rw [afterLastSlash, List.reverse_append, List.reverse_cons, List.append_assoc,
      List.takeWhile_append_of_pos passed, List.singleton_append,
      List.takeWhile_cons_of_neg (by simp), List.append_nil, List.reverse_reverse]

theorem LastPart.subset {path part : List Char} (h : LastPart path part) : part ⊆ path := by
  rcases h.rest with rfl | ⟨directory, rfl⟩
  · exact List.Subset.refl path
  · exact fun c mem => List.mem_append_right directory (List.mem_cons_of_mem '/' mem)

/-- A file is found by its name. -/
theorem sameFile_iff : SameFile path path' ↔ baseName path = baseName path' := by
  constructor
  · rintro ⟨part, part', isLast, isLast', same⟩
    rw [baseName, baseName, isLast.afterLastSlash_eq, isLast'.afterLastSlash_eq, same]
  · intro same
    exact ⟨_, _, lastPart_afterLastSlash _, lastPart_afterLastSlash _, same⟩

/-- Among ASCII names, the case of letters is a matter of single letters. -/
theorem sameFile_of_ascii (ascii : ∀ c ∈ path.toList ++ path'.toList, c.toNat < 128) :
    SameFile path path' ↔ ∃ part part', LastPart path.toList part ∧ LastPart path'.toList part' ∧
      part.map Char.toLower = part'.map Char.toLower := by
  rw [List.forall_mem_append] at ascii
  refine exists_congr fun part => exists_congr fun part' => ?_
  refine and_congr_right fun isLast => and_congr_right fun isLast' => ?_
  rw [Text.lower_of_ascii fun c mem => ascii.1 c (isLast.subset mem),
    Text.lower_of_ascii fun c mem => ascii.2 c (isLast'.subset mem)]
  rfl

/-! ### Files of an archive -/

/-- The contents of the last file of an archive that has a name, directories and the case of letters
aside. -/
def Candidate (entries : List Zip.Entry) (name : String) (contents : ByteArray) : Prop :=
  ∃ before entry after, entries = before ++ entry :: after ∧ entry.contents = some contents ∧
    SameFile entry.name name ∧ ∀ later ∈ after, later.contents.isSome → ¬SameFile later.name name

variable {entries : List Zip.Entry} {entry : Zip.Entry} {name other : String}
  {contents : ByteArray} {files rest : Files}

/-- The last entry is the candidate for its name, unless it is a directory. -/
theorem candidate_concat_iff :
    Candidate (entries ++ [entry]) name contents ↔
      (entry.contents = some contents ∧ SameFile entry.name name) ∨
        (¬(entry.contents.isSome ∧ SameFile entry.name name) ∧
          Candidate entries name contents) := by
  constructor
  · rintro ⟨before, found, after, split, holds, same, last⟩
    rcases after.eq_nil_or_concat with rfl | ⟨after, later, rfl⟩
    · obtain ⟨-, eq⟩ := List.append_inj' split rfl
      cases eq
      exact .inl ⟨holds, same⟩
    · rw [List.concat_eq_append, ← List.cons_append, ← List.append_assoc] at split
      obtain ⟨earlier, eq⟩ := List.append_inj' split rfl
      cases eq
      rw [List.concat_eq_append, List.forall_mem_append] at last
      refine .inr ⟨fun both => last.2 entry (List.mem_singleton_self entry) both.1 both.2, ?_⟩
      exact ⟨before, found, after, earlier, holds, same, last.1⟩
  · rintro (⟨holds, same⟩ | ⟨other, before, found, after, rfl, holds, same, last⟩)
    · exact ⟨entries, entry, [], rfl, holds, same, nofun⟩
    · refine ⟨before, found, after ++ [entry], by simp, holds, same, ?_⟩
      rw [List.forall_mem_append, List.forall_mem_singleton]
      exact ⟨last, fun isFile isSame => other ⟨isFile, isSame⟩⟩

theorem lookup_filter_ne (files : Files) (key other : List Char) :
    (files.filter (·.1 ≠ key)).lookup other = if other = key then none else files.lookup other := by
  induction files with
  | nil => split <;> rfl
  | cons file files ih =>
      rw [List.filter_cons, List.lookup_cons]
      by_cases taken : file.1 = key
      · rw [if_neg (by simpa using taken), ih]
        split
        · rfl
        · next differ => rw [beq_false_of_ne (taken ▸ differ)]
      · rw [if_pos (by simpa using taken), List.lookup_cons, ih]
        split
        · next same => rw [if_neg (eq_of_beq same ▸ taken)]
        · rfl

theorem lookup_insert (files : Files) (key other : List Char) (contents : ByteArray) :
    (files.insert key contents).lookup other =
      if other = key then some contents else files.lookup other := by
  rw [Files.insert, List.lookup_cons, lookup_filter_ne]
  by_cases same : other = key
  · rw [beq_iff_eq.2 same, if_pos same, if_pos same]
  · rw [beq_false_of_ne same, if_neg same, if_neg same]

/-- **What is looked up is the candidate.** By induction on the entries, from the last one on. -/
theorem lookup_ofEntries :
    (Files.ofEntries entries).lookup (baseName name) = some contents ↔
      Candidate entries name contents := by
  induction entries using List.reverseRecOn with
  | nil => exact ⟨nofun, fun ⟨before, entry, after, split, _⟩ => by simp at split⟩
  | append_singleton entries entry ih =>
      rw [candidate_concat_iff, ← ih, Files.ofEntries, List.foldl_concat, ← Files.ofEntries]
      cases entry.contents with
      | none => simp
      | some held =>
          simp only [lookup_insert, sameFile_iff]
          by_cases same : baseName name = baseName entry.name
          · simp [same]
          · simp [same, Ne.symm same]

/-! ### Files that are used up -/

/-- A candidate for a name by which no other file was taken before. -/
structure Unused (entries : List Zip.Entry) (used : List String) (name : String)
    (contents : ByteArray) : Prop where
  candidate : Candidate entries name contents
  fresh : ∀ other ∈ used, ¬SameFile name other

/-- Some files are those of an archive, without those that were taken. -/
def Holds (entries : List Zip.Entry) (used : List String) (files : Files) : Prop :=
  ∀ name contents, files.lookup (baseName name) = some contents ↔ Unused entries used name contents

variable {used : List String}

theorem holds_ofEntries : Holds entries [] (Files.ofEntries entries) := fun _ _ =>
  lookup_ofEntries.trans ⟨fun candidate => ⟨candidate, nofun⟩, Unused.candidate⟩

/-- A name that is not used up is not that of a file that was taken before. -/
theorem unused_cons_iff :
    Unused entries (other :: used) name contents ↔
      ¬SameFile name other ∧ Unused entries used name contents := by
  constructor
  · rintro ⟨candidate, fresh⟩
    rw [List.forall_mem_cons] at fresh
    exact ⟨fresh.1, candidate, fresh.2⟩
  · rintro ⟨apart, candidate, fresh⟩
    exact ⟨candidate, List.forall_mem_cons.2 ⟨apart, fresh⟩⟩

namespace Holds

variable (h : Holds entries used files)
include h

/-- **Taking a file**: either there is one, and it is used up with its name, or there is none. -/
theorem take_cases (name : String) :
    (∃ contents rest, files.take? (baseName name) = some (contents, rest) ∧
      Unused entries used name contents ∧ Holds entries (name :: used) rest) ∨
    (files.take? (baseName name) = none ∧ ∀ contents, ¬Unused entries used name contents) := by
  rw [Files.take?]
  cases found : files.lookup (baseName name) with
  | none =>
      refine .inr ⟨rfl, fun contents unused => ?_⟩
      rw [(h name contents).2 unused] at found
      cases found
  | some contents =>
      refine .inl ⟨contents, _, rfl, (h name contents).1 found, fun other image => ?_⟩
      rw [lookup_filter_ne, unused_cons_iff, ← h other image, sameFile_iff]
      split
      · next same => simp [same]
      · next differ => simp [differ]

/-- **Finding the disks**: either there is an image for each, or there is none for the first that
is missing. By induction on the entries, each with its unit. -/
theorem findDisks_cases {units : List Nat} {disks : List DiskEntry}
    (same : units.length = disks.length) :
    (∃ found, ((units.zip disks).mapM fun (unit, entry) => findDisk files unit entry) = .ok found ∧
      found.map (·.unit) = units ∧ found.map (·.entry) = disks ∧
      ∀ d ∈ found, Unused entries used d.entry.file d.image) ∨
    ∃ before entry after, disks = before ++ entry :: after ∧
      (∀ d ∈ before, ∃ image, Unused entries used d.file image) ∧
      (∀ image, ¬Unused entries used entry.file image) ∧
      ((units.zip disks).mapM fun (unit, entry) => findDisk files unit entry) =
        .error (.bundle (.missingDisk entry.file)) := by
  induction units generalizing disks with
  | nil =>
      rw [List.length_eq_zero_iff.1 same.symm]
      exact .inl ⟨[], rfl, rfl, rfl, nofun⟩
  | cons unit units ih =>
      cases disks with
      | nil => cases same
      | cons entry disks =>
          rw [List.zip_cons_cons, List.mapM_cons]
          cases found : files.lookup (baseName entry.file) with
          | none =>
              refine .inr ⟨[], entry, disks, rfl, nofun, fun image unused => ?_, ?_⟩
              · rw [(h entry.file image).2 unused] at found
                cases found
              · dsimp only
                rw [findDisk, found]
                rfl
          | some image =>
              have first : findDisk files unit entry = .ok { unit, entry, image } := by
                rw [findDisk, found]
                rfl
              have unused := (h entry.file image).1 found
              dsimp only
              rw [first]
              rcases ih (Nat.succ.inj same) with
                ⟨later, all, rfl, rfl, images⟩ |
                  ⟨before, missing, after, rfl, held, lacking, failed⟩
              · refine .inl ⟨⟨unit, entry, image⟩ :: later, by rw [all]; rfl, rfl, rfl, ?_⟩
                exact List.forall_mem_cons.2 ⟨unused, images⟩
              · refine .inr ⟨entry :: before, missing, after, rfl, ?_, lacking, by rw [failed]; rfl⟩
                exact List.forall_mem_cons.2 ⟨⟨image, unused⟩, held⟩

end Holds

/-! ### Reading -/

/-- Some entries have a manifest, and it reads like this. -/
def Describes (entries : List Zip.Entry) (manifest : Manifest) : Prop :=
  ∃ text, Candidate entries manifestName text ∧
    Manifest.ofText? (Bytes.toList text) = some manifest

/-- What a bundle that was put together from some entries consists of. -/
structure AssembledFrom (entries : List Zip.Entry) (b : LoadedBundle) : Prop where
  described : Describes entries b.manifest
  rom : Unused entries [manifestName] b.manifest.rom b.rom
  /-- The disks are those of the manifest, in order, -/
  disks : b.disks.map (·.entry) = b.manifest.disks
  /-- with the units that are assigned to them, in order. -/
  units : assignUnits b.manifest.disks = .ok (b.disks.map (·.unit))
  images : ∀ d ∈ b.disks, Unused entries [b.manifest.rom, manifestName] d.entry.file d.image

/-- Some entries have all that a bundle with this manifest needs. -/
structure Complete (entries : List Zip.Entry) (manifest : Manifest) : Prop where
  described : Describes entries manifest
  rom : ∃ rom, Unused entries [manifestName] manifest.rom rom
  units : ∃ units, assignUnits manifest.disks = .ok units
  images : ∀ d ∈ manifest.disks, ∃ image, Unused entries [manifest.rom, manifestName] d.file image

/-- What is missing for a bundle: the first of these things to be missing. -/
inductive Lacks (entries : List Zip.Entry) : MachineError → Prop where
  | manifest (absent : ∀ text, ¬Candidate entries manifestName text) :
      Lacks entries (.bundle (.missingManifest manifestName))
  | reading {text : ByteArray} (found : Candidate entries manifestName text)
      (unread : Manifest.ofText? (Bytes.toList text) = none) : Lacks entries .json
  | rom {manifest : Manifest} (described : Describes entries manifest)
      (absent : ∀ rom, ¬Unused entries [manifestName] manifest.rom rom) :
      Lacks entries (.bundle (.missingRom manifest.rom))
  | units {manifest : Manifest} {error : MachineError} (described : Describes entries manifest)
      (rom : ∃ rom, Unused entries [manifestName] manifest.rom rom)
      (refused : assignUnits manifest.disks = .error error) : Lacks entries error
  | image {manifest : Manifest} {before after : List DiskEntry} {entry : DiskEntry}
      (described : Describes entries manifest)
      (rom : ∃ rom, Unused entries [manifestName] manifest.rom rom)
      (units : ∃ units, assignUnits manifest.disks = .ok units)
      (split : manifest.disks = before ++ entry :: after)
      (images : ∀ d ∈ before, ∃ image, Unused entries [manifest.rom, manifestName] d.file image)
      (absent : ∀ image, ¬Unused entries [manifest.rom, manifestName] entry.file image) :
      Lacks entries (.bundle (.missingDisk entry.file))

theorem baseName_manifestName : baseName manifestName = manifestName.toList := by decide +kernel

/-- **Reading a bundle**, step by step. -/
theorem ofEntries_cases (entries : List Zip.Entry) :
    (∃ b, ofEntries entries = .ok b ∧ AssembledFrom entries b) ∨
      ∃ error, ofEntries entries = .error error ∧ Lacks entries error := by
  have start : Holds entries [] (Files.ofEntries entries) := holds_ofEntries
  simp only [ofEntries, ← baseName_manifestName, bind, Except.bind, orFault]
  rcases start.take_cases manifestName with
    ⟨text, files, taken, ⟨found, -⟩, files_left⟩ | ⟨taken, absent⟩
  · simp only [taken]
    cases read : Manifest.ofText? (Bytes.toList text) with
    | none => exact .inr ⟨.json, rfl, .reading found read⟩
    | some manifest =>
        have described : Describes entries manifest := ⟨text, found, read⟩
        simp only
        rcases files_left.take_cases manifest.rom with
          ⟨rom, files', taken', unused, files_left'⟩ | ⟨taken', absent⟩
        · simp only [taken']
          cases assigned : assignUnits manifest.disks with
          | error error => exact .inr ⟨error, rfl, .units described ⟨rom, unused⟩ assigned⟩
          | ok units =>
              have same := (assigned_of_assignUnits assigned).asked.length_eq.symm
              simp only
              rcases files_left'.findDisks_cases same with
                ⟨disks, all, unit, entry, images⟩ |
                  ⟨before, entry, after, split, images, absent, failed⟩
              · simp only [all]
                rw [← unit] at assigned
                exact .inl ⟨_, rfl, described, unused, entry, assigned, images⟩
              · simp only [failed]
                exact .inr
                  ⟨_, rfl, .image described ⟨rom, unused⟩ ⟨units, assigned⟩ split images absent⟩
        · simp only [taken']
          exact .inr ⟨_, rfl, .rom described absent⟩
  · simp only [taken]
    exact .inr ⟨_, rfl, .manifest fun text found => absent text ⟨found, nofun⟩⟩

/-! ### What is missing -/

theorem Candidate.unique {contents' : ByteArray} (h : Candidate entries name contents)
    (h' : Candidate entries name contents') : contents = contents' :=
  Option.some.inj ((lookup_ofEntries.2 h).symm.trans (lookup_ofEntries.2 h'))

theorem Describes.unique {manifest manifest' : Manifest} (h : Describes entries manifest)
    (h' : Describes entries manifest') : manifest = manifest' := by
  obtain ⟨text, found, read⟩ := h
  obtain ⟨text', found', read'⟩ := h'
  rw [found.unique found', read'] at read
  exact (Option.some.inj read).symm

/-- Entries that have all that is needed lack nothing. -/
theorem Complete.not_lacks {manifest : Manifest} {error : MachineError}
    (h : Complete entries manifest) : ¬Lacks entries error := by
  intro lacks
  obtain ⟨text, found, read⟩ := h.described
  cases lacks with
  | manifest absent => exact absent text found
  | reading found' unread =>
      rw [← found.unique found', read] at unread
      cases unread
  | rom described absent =>
      rw [← h.described.unique described] at absent
      obtain ⟨rom, unused⟩ := h.rom
      exact absent rom unused
  | units described _ refused =>
      rw [← h.described.unique described] at refused
      obtain ⟨units, assigned⟩ := h.units
      exact nomatch assigned.symm.trans refused
  | @image _ _ _ entry described _ _ split _ absent =>
      rw [← h.described.unique described] at split absent
      have listed : entry ∈ manifest.disks := by
        rw [split]
        exact List.mem_append_right _ List.mem_cons_self
      obtain ⟨image, unused⟩ := h.images entry listed
      exact absent image unused

theorem AssembledFrom.complete {b : LoadedBundle} (h : AssembledFrom entries b) :
    Complete entries b.manifest where
  described := h.described
  rom := ⟨b.rom, h.rom⟩
  units := ⟨_, h.units⟩
  images d listed := by
    rw [← h.disks] at listed
    obtain ⟨disk, mem, rfl⟩ := List.mem_map.1 listed
    exact ⟨disk.image, h.images disk mem⟩

theorem exists_ofEntries_iff :
    (∃ b, ofEntries entries = .ok b) ↔ ∃ manifest, Complete entries manifest := by
  constructor
  · rintro ⟨b, ok⟩
    rcases ofEntries_cases entries with ⟨b', ok', assembled⟩ | ⟨error, failed, -⟩
    · exact ⟨b'.manifest, assembled.complete⟩
    · exact nomatch ok.symm.trans failed
  · rintro ⟨manifest, complete⟩
    rcases ofEntries_cases entries with ⟨b, ok, -⟩ | ⟨error, -, lacks⟩
    · exact ⟨b, ok⟩
    · exact absurd lacks complete.not_lacks

theorem assembledFrom_of_ofEntries {b : LoadedBundle} (h : ofEntries entries = .ok b) :
    AssembledFrom entries b := by
  rcases ofEntries_cases entries with ⟨b', ok, assembled⟩ | ⟨error, failed, -⟩
  · rw [h] at ok
    cases ok
    exact assembled
  · exact nomatch h.symm.trans failed

theorem lacks_of_ofEntries {error : MachineError} (h : ofEntries entries = .error error) :
    Lacks entries error := by
  rcases ofEntries_cases entries with ⟨b, ok, -⟩ | ⟨error', failed, lacks⟩
  · exact nomatch h.symm.trans ok
  · rw [h] at failed
    cases failed
    exact lacks

end Bundle

namespace LoadedBundle

/-- What a bundle that was put together from some files consists of. -/
structure Assembled (b : LoadedBundle) (files : Bundle.Files) : Prop where
  /-- The disks are those of the manifest. -/
  entries : b.disks.map (·.entry) = b.manifest.disks
  /-- Every image is the file that its entry names. -/
  images : ∀ d ∈ b.disks, files.lookup (Bundle.baseName d.entry.file) = some d.image
  /-- Every disk has a unit of its own. -/
  nodup : (b.disks.map (·.unit)).Nodup
  /-- Every unit is there. -/
  there : ∀ d ∈ b.disks, d.unit < maxUnits

end LoadedBundle

namespace Bundle

/-- **What a bundle consists of.** -/
theorem assembled_of_load {archive : ByteArray} {b : LoadedBundle} (h : load archive = .ok b) :
    ∃ entries, Zip.entries archive = .ok entries ∧ b.Assembled (Files.ofEntries entries) := by
  obtain ⟨entries, listed, h⟩ := bind_eq_ok.1 h
  have assembled := assembledFrom_of_ofEntries h
  have assigned := assigned_of_assignUnits assembled.units
  exact ⟨entries, listed,
    { entries := assembled.disks
      images := fun d mem => lookup_ofEntries.2 (assembled.images d mem).candidate
      nodup := assigned.nodup
      there := fun d mem => assigned.there d.unit (List.mem_map_of_mem mem) }⟩

/-- What is picked from the entries of an archive. -/
structure Picks (entries : List Zip.Entry) : Prop where
  loads (archive : ByteArray) : Zip.entries archive = .ok entries → load archive = ofEntries entries
  succeeds : (∃ b, ofEntries entries = .ok b) ↔ ∃ manifest, Complete entries manifest
  assembled (b : LoadedBundle) : ofEntries entries = .ok b → AssembledFrom entries b
  /-- A failure names what is missing. -/
  fails (error : MachineError) : ofEntries entries = .error error → Lacks entries error
  /-- Among ASCII names, the case of letters is a matter of single letters. -/
  ascii (path path' : String) : (∀ c ∈ path.toList ++ path'.toList, c.toNat < 128) →
    (SameFile path path' ↔ ∃ part part', LastPart path.toList part ∧ LastPart path'.toList part' ∧
      part.map Char.toLower = part'.map Char.toLower)

/-- **A bundle is read from the right files**, for all entries of an archive. -/
theorem picks_candidates (entries : List Zip.Entry) : Picks entries where
  loads archive listed := by
    rw [load, listed]
    rfl
  succeeds := exists_ofEntries_iff
  assembled _ := assembledFrom_of_ofEntries
  fails _ := lacks_of_ofEntries
  ascii _ _ := sameFile_of_ascii

end Bundle

end BankedZ80
