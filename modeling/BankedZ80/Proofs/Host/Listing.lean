import BankedZ80.Proofs.Host.Tree

/-!
# What is listed of a directory

A listing has the names of the files directly inside the directory (`mem_list_iff`), and no file is
left out whose name and path are short enough (`holdsFile_of_file?`).
-/

namespace BankedZ80

namespace FileTree

variable {t : FileTree} {path name : String} {directory : Place} {contents : ByteArray}

/-- Directly inside the directory at a path there is a file of this name and contents, and its own path
leads to it. -/
def HoldsFile (t : FileTree) (path name : String) (contents : ByteArray) : Prop :=
  ∃ directory, t.locate path = .ok (.inside directory) ∧
    t.locate (Path.join path name) = .ok (.inside (directory ++ [name.toList])) ∧
    t.file? (directory ++ [name.toList]) = some contents

theorem HoldsFile.read (h : t.HoldsFile path name contents) :
    t.read (Path.join path name) = .ok contents := by
  obtain ⟨directory, -, leads, there⟩ := h
  exact read_eq_ok.2 ⟨_, leads, there⟩

theorem leadsTo_iff {place : Place} : t.leadsTo path place = true ↔ t.locate path = .ok (.inside place) := by
  unfold leadsTo
  split
  · next q located =>
      rw [located, decide_eq_true_iff, Except.ok.injEq, Spot.inside.injEq]
  · next other => exact ⟨nofun, fun inside => absurd inside (other _)⟩

theorem exists_file_iff {place : Place} :
    (∃ contents, t.file? place = some contents) ↔ ∃ f ∈ t.files, f.1 = place := by
  rw [← Option.isSome_iff_exists, file?, List.lookup_isSome_iff]
  refine exists_congr fun f => and_congr_right fun _ => ?_
  rw [beq_iff_eq, eq_comm]

/-- **A listing** has the names of the files in the directory. -/
theorem mem_list_iff {names : List String} (listed : t.list path = some names) :
    name ∈ names ↔ ∃ contents, t.HoldsFile path name contents := by
  unfold list at listed
  split at listed
  · next p located =>
      have holds : (∃ contents, t.HoldsFile path name contents) ↔
          t.leadsTo (Path.join path name) (p ++ [name.toList]) = true ∧
            ∃ f ∈ t.files, f.1 = p ++ [name.toList] := by
        rw [leadsTo_iff, ← exists_file_iff]
        constructor
        · rintro ⟨contents, directory, same, leads, there⟩
          cases located.symm.trans same
          exact ⟨leads, contents, there⟩
        · rintro ⟨leads, contents, there⟩
          exact ⟨contents, p, located, leads, there⟩
      split at listed
      · cases listed
        rw [holds, List.mem_filterMap]
        constructor
        · rintro ⟨f, mem, own⟩
          split at own
          · next last _ =>
              split at own
              · next counts =>
                  cases own
                  rw [Bool.and_eq_true, decide_eq_true_iff] at counts
                  rw [String.toList_ofList, ← counts.1]
                  exact ⟨counts.2, f, mem, rfl⟩
              · cases own
          · cases own
        · rintro ⟨leads, f, mem, place⟩
          refine ⟨f, mem, ?_⟩
          rw [place, List.getLast?_concat]
          dsimp only
          rw [String.ofList_toList, leads, decide_eq_true rfl]
          rfl
      · cases listed
  · next spot outside located =>
      split at listed
      · cases listed
        refine ⟨nofun, fun ⟨contents, directory, inside, _⟩ => ?_⟩
        cases located.symm.trans inside
        exact absurd rfl (outside directory)
      · cases listed
  · cases listed

/-! ### Nothing is left out -/

theorem isDirectory_of_file? {component : List Char}
    (there : t.file? (directory ++ [component]) = some contents) : t.isDirectory directory = true := by
  obtain ⟨f, mem, place⟩ := exists_file_iff.1 ⟨contents, there⟩
  unfold isDirectory
  rw [Bool.or_eq_true, List.any_eq_true]
  refine .inr ⟨f, mem, ?_⟩
  rw [place, Bool.and_eq_true, List.isPrefixOf_iff_prefix, decide_eq_true_iff, List.length_append]
  exact ⟨List.prefix_append _ _, Nat.lt_succ_self _⟩

/-- A short name leads from a directory to its place in it. -/
theorem follow_component (component : Path.IsComponent name)
    (short : name.utf8ByteSize ≤ Path.maxNameBytes) (there : t.isDirectory directory = true) :
    t.follow (.inside directory) [name.toList] = .ok (.inside (directory ++ [name.toList])) := by
  have named := component
  rw [← String.ofList_toList (s := name)] at named
  obtain ⟨notHere, -, notAbove⟩ := Path.isComponent_ofList.1 named
  have start : t.directoryAt (.inside directory) = true := there
  rw [follow, if_pos start, notHere, if_neg Bool.false_ne_true, if_neg notAbove, String.ofList_toList,
    if_neg (Nat.not_lt.2 short)]
  rfl

/-- The components of a directory's path lead to it, whether or not the path ends in a slash. -/
theorem exists_components {start : Spot}
    (followed : t.follow start (Path.splitSlash path.toList) = .ok (.inside directory))
    (nonempty : path ≠ "") :
    ∃ above, t.follow start above = .ok (.inside directory) ∧
      ∀ name, '/' ∉ name.toList →
        Path.splitSlash (Path.join path name).toList = above ++ [name.toList] := by
  by_cases ends : path.endsWith "/" = true
  · have slash := ends
    rw [String.endsWith_eq_endsWith_toSlice, String.Slice.endsWith_string_iff] at slash
    obtain ⟨above, whole⟩ := slash
    have text : path.toList = above ++ ['/'] := by simpa using whole.symm
    refine ⟨Path.splitSlash above, ?_, fun name noSlash => ?_⟩
    · -- The empty component after the last slash stays where the others lead to.
      rw [text, Path.splitSlash_append, follow_append, bind_eq_ok] at followed
      obtain ⟨spot, leads, last⟩ := followed
      rw [Path.splitSlash, follow] at last
      split at last
      · rw [leads]
        exact last
      · split at last <;> cases last
    · rw [Path.join, ends, Bool.or_true, if_pos rfl, String.toList_append, text, List.append_assoc,
        List.singleton_append, Path.splitSlash_append, Path.splitSlash_of_noSlash noSlash]
  · refine ⟨_, followed, fun name noSlash => ?_⟩
    have text : (Path.join path name).toList = path.toList ++ '/' :: name.toList := by
      rw [Path.join, decide_eq_false nonempty, Bool.false_or, if_neg ends, String.toList_append,
        String.toList_append, List.append_assoc]
      rfl
    rw [text, Path.splitSlash_append, Path.splitSlash_of_noSlash noSlash]

/-- The path of a name in a directory begins as that of the directory. -/
theorem startsWith_join_self (nonempty : path ≠ "") (name : String) :
    (Path.join path name).startsWith "/" = path.startsWith "/" := by
  have extended : ∃ more, (Path.join path name).toList = path.toList ++ more := by
    unfold Path.join
    split
    · exact ⟨_, String.toList_append⟩
    · exact ⟨_, by rw [String.toList_append, String.toList_append, List.append_assoc]⟩
  obtain ⟨more, text⟩ := extended
  have first : path.toList ≠ [] := fun empty => nonempty (String.toList_inj.1 empty)
  rw [Bool.eq_iff_iff, String.startsWith_string_iff, String.startsWith_string_iff, text]
  cases chars : path.toList with
  | nil => exact absurd chars first
  | cons c rest =>
      have slash : "/".toList = ['/'] := rfl
      rw [slash, List.cons_append, List.cons_prefix_cons, List.cons_prefix_cons]
      exact and_congr_right fun _ => iff_of_true List.nil_prefix List.nil_prefix

/-- **Every file of a directory** is listed, if its name may stand in a path and that path is short
enough. -/
theorem holdsFile_of_file? (located : t.locate path = .ok (.inside directory))
    (there : t.file? (directory ++ [name.toList]) = some contents)
    (component : Path.IsComponent name) (short : name.utf8ByteSize ≤ Path.maxNameBytes)
    (wellFormed : Path.isWellFormed (Path.join path name) = true) :
    t.HoldsFile path name contents := by
  refine ⟨directory, located, ?_, there⟩
  unfold locate at located ⊢
  split at located
  · cases located
  · next nonempty =>
      split at located
      · cases located
      · obtain ⟨above, leads, components⟩ := exists_components located nonempty
        have named := follow_component component short (isDirectory_of_file? there)
        rw [if_neg (Path.join_ne_empty component.nonempty), wellFormed, if_neg (by decide), startsWith_join_self nonempty,
          components name component.noSlash, follow_append, leads]
        exact named

end FileTree

end BankedZ80
