import BankedZ80.Proofs.Host.Files
import BankedZ80.Proofs.Host.Path

/-!
# A file tree keeps its files

A file is written where a path leads, and a path leads to the same place after the write as before
(`locate_write`): there was a directory at every place on the way, so a new file is none that a path
goes through. So a write changes the contents of one place (`file?_write`), and the host that a tree
makes is one that keeps files (`places_keptBy`).
-/

namespace BankedZ80

namespace FileTree

variable {t t' : FileTree}

/-! ### Directories -/

/-- The directories above a directory are there. -/
theorem isDirectory_of_prefix {p q : Place} (h : t.isDirectory p = true) (above : q <+: p) :
    t.isDirectory q = true := by
  unfold isDirectory at h ⊢
  rw [Bool.or_eq_true, Bool.or_eq_true, decide_eq_true_iff, List.any_eq_true, List.any_eq_true] at h ⊢
  rcases h with (rfl | ⟨d, mem, there⟩) | ⟨f, mem, there⟩
  · exact .inl (.inl (List.prefix_nil.1 above))
  · exact .inl (.inr ⟨d, mem, List.isPrefixOf_iff_prefix.2
      (above.trans (List.isPrefixOf_iff_prefix.1 there))⟩)
  · rw [Bool.and_eq_true, decide_eq_true_iff] at there
    refine .inr ⟨f, mem, ?_⟩
    rw [Bool.and_eq_true, decide_eq_true_iff]
    exact ⟨List.isPrefixOf_iff_prefix.2 (above.trans (List.isPrefixOf_iff_prefix.1 there.1)),
      Nat.lt_of_le_of_lt above.length_le there.2⟩

/-- There is a directory at every place above a spot. -/
def Reached (t : FileTree) : Spot → Prop
  | .inside p => ∀ q, q <+: p → q ≠ p → t.isDirectory q = true
  | _ => True

/-- A directory is below directories. -/
theorem Reached.of_directory {spot : Spot} (h : t.directoryAt spot = true) : t.Reached spot := by
  cases spot with
  | inside p => exact fun q above _ => isDirectory_of_prefix h above
  | above => trivial
  | system p => trivial

theorem Reached.parent {spot : Spot} (h : t.Reached spot) : t.Reached (t.parent spot) := by
  cases spot with
  | inside p =>
      cases p with
      | nil =>
          show t.Reached (if t.workingDirectory.isSome then .inside [] else .above)
          split
          · exact h
          · trivial
      | cons c rest =>
          intro q above ne
          refine h q (above.trans (List.dropLast_prefix _)) fun same => ?_
          have shorter := above.length_le
          rw [same, List.length_dropLast] at shorter
          exact absurd shorter (by simp)
  | above => trivial
  | system p => trivial

theorem Reached.child {p : Place} (name : List Char) (there : t.isDirectory p = true) :
    t.Reached (.inside (p ++ [name])) := by
  intro q above ne
  rcases List.prefix_concat_iff.1 above with same | above
  · exact absurd same ne
  · exact isDirectory_of_prefix there above

/-- Following components goes through directories only. By induction on the components. -/
theorem reached_follow {names : List (List Char)} {start spot : Spot}
    (h : names = [] → t.Reached start) (followed : t.follow start names = .ok spot) :
    t.Reached spot := by
  induction names generalizing start with
  | nil =>
      cases followed
      exact h rfl
  | cons c rest ih =>
      rw [follow] at followed
      split at followed
      · next there =>
          split at followed
          · exact ih (fun _ => .of_directory there) followed
          · split at followed
            · exact ih (fun _ => (Reached.of_directory there).parent) followed
            · split at followed
              · cases followed
              · split at followed
                · next next child =>
                    refine ih (fun _ => ?_) followed
                    cases start with
                    | inside p =>
                        cases child
                        exact Reached.child c there
                    | above => cases child
                    | system p =>
                        cases child
                        trivial
                · cases followed
      · split at followed <;> cases followed

theorem reached_locate {path : String} {spot : Spot} (h : t.locate path = .ok spot) :
    t.Reached spot := by
  unfold locate at h
  split at h
  · cases h
  · split at h
    · cases h
    · obtain ⟨first, more, components⟩ := Path.splitSlash_eq_cons path.toList
      refine reached_follow (fun empty => ?_) h
      cases components.symm.trans empty

/-- Two trees have the same directories, and the same working directory. -/
structure SameDirectories (t t' : FileTree) : Prop where
  isDirectory (p : Place) : t'.isDirectory p = t.isDirectory p
  workingDirectory : t'.workingDirectory = t.workingDirectory

namespace SameDirectories

theorem directoryAt (h : SameDirectories t t') (spot : Spot) :
    t'.directoryAt spot = t.directoryAt spot := by
  cases spot with
  | inside p => exact h.isDirectory p
  | above => rfl
  | system p => cases p with
    | nil => rfl
    | cons c rest => cases rest <;> rfl

theorem parent (h : SameDirectories t t') (spot : Spot) : t'.parent spot = t.parent spot := by
  unfold FileTree.parent
  rw [h.workingDirectory]

theorem origin (h : SameDirectories t t') (fromTop : Bool) : t'.origin fromTop = t.origin fromTop := by
  unfold FileTree.origin
  rw [h.workingDirectory]

/-- Where components lead depends on the directories alone. -/
theorem follow (h : SameDirectories t t') {names : List (List Char)} {start spot : Spot} :
    t'.follow start names = .ok spot ↔ t.follow start names = .ok spot := by
  induction names generalizing start with
  | nil => rfl
  | cons c rest ih =>
      rw [FileTree.follow, FileTree.follow, h.directoryAt, h.parent]
      split
      · split
        · exact ih
        · split
          · exact ih
          · split
            · exact Iff.rfl
            · split
              · exact ih
              · exact Iff.rfl
      · constructor
        · intro h; split at h <;> cases h
        · intro h; split at h <;> cases h

theorem locate (h : SameDirectories t t') {path : String} {spot : Spot} :
    t'.locate path = .ok spot ↔ t.locate path = .ok spot := by
  unfold FileTree.locate
  rw [h.origin]
  split
  · exact Iff.rfl
  · split
    · exact Iff.rfl
    · exact h.follow

end SameDirectories

/-! ### Writes -/

theorem isDirectory_eq (t : FileTree) (q : Place) :
    t.isDirectory q =
      (decide (q = []) || t.directories.any (fun d => q.isPrefixOf d) ||
        (t.files.map Prod.fst).any fun p => q.isPrefixOf p && decide (q.length < p.length)) := by
  rw [List.any_map]
  rfl

theorem map_fst_put {p : Place} {contents : ByteArray} (there : (t.file? p).isSome) :
    (t.put p contents).files.map Prod.fst = t.files.map Prod.fst := by
  rw [put, if_pos there, List.map_map]
  refine List.map_congr_left fun f mem => ?_
  show (if f.1 = p then (p, contents) else f).1 = f.1
  split
  · next same => exact same.symm
  · rfl

/-- A file that is put where a path leads makes no new directory. -/
theorem isDirectory_put {p : Place} (h : t.Reached (.inside p)) (contents : ByteArray) (q : Place) :
    (t.put p contents).isDirectory q = t.isDirectory q := by
  by_cases there : (t.file? p).isSome
  · rw [isDirectory_eq, isDirectory_eq, map_fst_put there, put, if_pos there]
  · -- A new file is a directory at every place above it, and there was one already.
    rw [put, if_neg there, isDirectory_eq, isDirectory_eq t, List.map_append, List.any_append,
      ← Bool.or_assoc, ← isDirectory_eq t]
    by_cases above : q <+: p ∧ q ≠ p
    · rw [h q above.1 above.2, Bool.true_or]
    · have other : ([p].any fun p => q.isPrefixOf p && decide (q.length < p.length)) = false := by
        rw [List.any_cons, List.any_nil, Bool.or_false, Bool.and_eq_false_iff]
        by_cases below : q <+: p
        · refine .inr (decide_eq_false fun shorter => above ⟨below, fun same => ?_⟩)
          rw [same] at shorter
          exact Nat.lt_irrefl _ shorter
        · exact .inl (Bool.eq_false_iff.2 fun is => below (List.isPrefixOf_iff_prefix.1 is))
      show (t.isDirectory q || [p].any _) = t.isDirectory q
      rw [other, Bool.or_false]

theorem lookup_replace (files : List (Place × ByteArray)) (p : Place) (contents : ByteArray)
    (q : Place) :
    (files.map fun f => if f.1 = p then (p, contents) else f).lookup q =
      if q = p then (files.lookup q).map fun _ => contents else files.lookup q := by
  induction files with
  | nil => split <;> rfl
  | cons f rest ih =>
      rw [List.map_cons, List.lookup_cons, List.lookup_cons, ih]
      by_cases hf : f.1 = p
      · rw [if_pos hf, hf]
        by_cases hq : q = p
        · rw [if_pos hq, if_pos hq, beq_iff_eq.2 hq]
          rfl
        · rw [if_neg hq, if_neg hq, beq_false_of_ne hq]
      · rw [if_neg hf]
        by_cases hq : q = f.1
        · have other : ¬q = p := fun same => hf (hq.symm.trans same)
          rw [if_neg other, if_neg other]
        · rw [beq_false_of_ne hq]

/-- What is at a place after a file was put. -/
theorem file?_put (t : FileTree) (p : Place) (contents : ByteArray) (q : Place) :
    (t.put p contents).file? q = if q = p then some contents else t.file? q := by
  unfold put
  split
  · next there =>
      show List.lookup q _ = _
      rw [lookup_replace]
      split
      · next same =>
          obtain ⟨old, found⟩ := Option.isSome_iff_exists.1 there
          rw [same]
          show (t.file? p).map _ = _
          rw [found]
          rfl
      · rfl
  · next absent =>
      show List.lookup q (t.files ++ [(p, contents)]) = _
      rw [List.lookup_append, List.lookup_cons]
      by_cases same : q = p
      · rw [if_pos same, beq_iff_eq.2 same, same]
        show (t.file? p).or _ = _
        rw [Option.not_isSome_iff_eq_none.1 absent]
        rfl
      · rw [if_neg same, beq_false_of_ne same]
        exact Option.or_none

theorem put_bounds (t : FileTree) (p : Place) (contents : ByteArray) :
    (t.put p contents).workingDirectory = t.workingDirectory ∧
      (t.put p contents).maxFileSize = t.maxFileSize := by
  unfold put
  split <;> exact ⟨rfl, rfl⟩

/-- A file with room for the contents gets all of them. -/
theorem portion_of_hasRoomFor {contents : ByteArray} (room : t.hasRoomFor contents.size = true) :
    t.portion contents = contents := by
  unfold hasRoomFor at room
  unfold portion
  cases bound : t.maxFileSize with
  | none => rfl
  | some most =>
      rw [bound, Option.all_some, decide_eq_true_iff] at room
      show contents.extract 0 most = contents
      rw [ByteArray.ext_iff, ByteArray.data_extract]
      exact Array.extract_eq_self_of_le room

/-- What a write leaves: the part that there is room for in the place where the path leads, or the tree
as it was. -/
theorem write_eq (t : FileTree) (path : String) (contents : ByteArray) :
    (∃ p, t.locate path = .ok (.inside p) ∧
      t.write path contents = (t.hasRoomFor contents.size, t.put p (t.portion contents))) ∨
      (t.write path contents).2 = t ∧
        ((t.write path contents).1 = true → ∀ p, t.locate path ≠ .ok (.inside p)) := by
  unfold write
  split
  · next p located =>
      split
      · exact .inr ⟨rfl, nofun⟩
      · exact .inl ⟨p, located, rfl⟩
  · next p located => exact .inr ⟨rfl, fun _ q inside => nomatch located.symm.trans inside⟩
  · next p other => exact .inr ⟨rfl, nofun⟩

/-- A write makes no directory. -/
theorem sameDirectories_write (path : String) (contents : ByteArray) :
    SameDirectories t (t.write path contents).2 := by
  rcases t.write_eq path contents with ⟨p, located, eq⟩ | ⟨same, -⟩
  · rw [eq]
    exact ⟨isDirectory_put (reached_locate located) _, (t.put_bounds p _).1⟩
  · rw [same]
    exact ⟨fun _ => rfl, rfl⟩

/-- **A path leads to the same place after a write as before.** -/
theorem locate_write (path : String) (contents : ByteArray) {other : String} {spot : Spot} :
    (t.write path contents).2.locate other = .ok spot ↔ t.locate other = .ok spot :=
  (sameDirectories_write path contents).locate

/-- **A write changes one place.** -/
theorem file?_write {path : String} {q : Place} (h : t.locate path ≠ .ok (.inside q))
    (contents : ByteArray) : (t.write path contents).2.file? q = t.file? q := by
  rcases t.write_eq path contents with ⟨p, located, eq⟩ | ⟨same, -⟩
  · rw [eq]
    show (t.put p _).file? q = t.file? q
    rw [file?_put, if_neg]
    rintro rfl
    exact h located
  · rw [same]

/-- A file that could be written is there. -/
theorem file?_written {path : String} {q : Place} (h : t.locate path = .ok (.inside q))
    {contents : ByteArray} (written : (t.write path contents).1 = true) :
    (t.write path contents).2.file? q = some contents := by
  rcases t.write_eq path contents with ⟨p, located, eq⟩ | ⟨-, outside⟩
  · cases located.symm.trans h
    rw [eq] at written ⊢
    show (t.put q (t.portion contents)).file? q = some contents
    rw [file?_put, if_pos rfl, portion_of_hasRoomFor written]
  · exact absurd h (outside written q)

/-- A path reads as what is at the spot that it leads to. -/
theorem read_eq_ok {path : String} {contents : ByteArray} :
    t.read path = .ok contents ↔
      ∃ spot, t.locate path = .ok spot ∧ t.contentsAt? spot = some contents := by
  unfold read
  rw [bind_eq_ok]
  refine exists_congr fun spot => and_congr_right fun _ => ?_
  cases t.contentsAt? spot with
  | none => exact ⟨nofun, nofun⟩
  | some old =>
      exact ⟨fun h => congrArg some (Except.ok.inj h), fun h => congrArg _ (Option.some.inj h)⟩

/-- A path leads to a place at which there is a file or may be one, of any size. -/
structure WritableAt (t : FileTree) (path : String) (place : Place) : Prop where
  leads : t.locate path = .ok (.inside place)
  free : t.isDirectory place = false
  unbounded : t.maxFileSize = none

namespace WritableAt

variable {path : String} {place : Place}

theorem write_eq (h : t.WritableAt path place) (contents : ByteArray) :
    t.write path contents = (true, t.put place contents) := by
  rw [write, h.leads]
  dsimp only
  rw [h.free, hasRoomFor, portion, h.unbounded]
  rfl

/-- What is written there is read there. -/
theorem read_put (h : t.WritableAt path place) (contents : ByteArray) :
    (t.put place contents).read path = .ok contents := by
  have there := locate_write path contents (t := t).2 h.leads
  rw [h.write_eq] at there
  refine read_eq_ok.2 ⟨_, there, ?_⟩
  show (t.put place contents).file? place = some contents
  rw [file?_put, if_pos rfl]

end WritableAt

/-! ### The places as files -/

/-- The places of a tree are its files. -/
def places : HostFiles Computer Place where
  leads path s :=
    match s.tree.locate path with
    | .ok (.inside p) => some p
    | _ => none
  contents p s := s.tree.file? p

theorem leads_eq_some {path : String} {s : Computer} {p : Place} :
    places.leads path s = some p ↔ s.tree.locate path = .ok (.inside p) := by
  unfold places
  dsimp only
  split
  · next q located => rw [located, Option.some_inj, Except.ok.injEq, Spot.inside.injEq]
  · next other => exact ⟨nofun, fun inside => absurd inside (other p)⟩

/-- **The host that a tree makes keeps its files.** -/
theorem places_keptBy : places.KeptBy host where
  read leads read := by
    obtain ⟨spot, located, contents⟩ := read_eq_ok.1 read
    cases located.symm.trans (leads_eq_some.1 leads)
    exact contents
  leads_write path bytes s other := by
    ext p
    rw [leads_eq_some, leads_eq_some]
    exact locate_write path bytes
  written leads written := file?_written (leads_eq_some.1 leads) written
  others elsewhere bytes := file?_write (fun located => elsewhere (leads_eq_some.2 located)) bytes
  emit _ _ := ⟨fun _ => rfl, fun _ => rfl⟩
  clock _ := ⟨fun _ => rfl, fun _ => rfl⟩

end FileTree

end BankedZ80
