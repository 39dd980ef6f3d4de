import BankedZ80.Error
import BankedZ80.Host.FileTree

/-!
# Names in a directory

The last component of a path is a name without a slash, and neither empty nor `.` or `..`
(`Path.fileName?_eq_some`). So, joined to a directory, it leads to a place directly inside of it, or
nowhere: `FileTree.locate_join`.
-/

namespace BankedZ80

namespace Path

/-! ### Components -/

theorem splitSlash_eq_cons (s : List Char) : ∃ first more, splitSlash s = first :: more := by
  cases s with
  | nil => exact ⟨_, _, rfl⟩
  | cons c rest =>
      unfold splitSlash
      split
      · split <;> exact ⟨_, _, rfl⟩
      · exact ⟨_, _, rfl⟩

theorem splitSlash_slash (rest : List Char) : splitSlash ('/' :: rest) = [] :: splitSlash rest := by
  obtain ⟨first, more, eq⟩ := splitSlash_eq_cons rest
  simp [splitSlash, eq]

theorem splitSlash_cons {c : Char} (plain : c ≠ '/') {rest first : List Char}
    {more : List (List Char)} (eq : splitSlash rest = first :: more) :
    splitSlash (c :: rest) = (c :: first) :: more := by
  simp [splitSlash, eq, plain]

theorem splitSlash_of_noSlash {s : List Char} (h : '/' ∉ s) : splitSlash s = [s] := by
  induction s with
  | nil => rfl
  | cons c rest ih =>
      exact splitSlash_cons (Ne.symm (List.ne_of_not_mem_cons h))
        (ih (List.not_mem_of_not_mem_cons h))

/-- A slash separates the components before it from those after it. -/
theorem splitSlash_append (front back : List Char) :
    splitSlash (front ++ '/' :: back) = splitSlash front ++ splitSlash back := by
  induction front with
  | nil => exact splitSlash_slash back
  | cons c rest ih =>
      by_cases slash : c = '/'
      · rw [slash, List.cons_append, splitSlash_slash, splitSlash_slash, ih]
        rfl
      · obtain ⟨first, more, eq⟩ := splitSlash_eq_cons rest
        rw [eq] at ih
        rw [List.cons_append, splitSlash_cons slash ih, splitSlash_cons slash eq]
        rfl

/-! ### The last component -/

/-- A name that can stand for a file of a directory. -/
structure IsComponent (name : String) : Prop where
  nonempty : name ≠ ""
  noSlash : '/' ∉ name.toList
  notHere : name ≠ "."
  notAbove : name ≠ ".."

theorem isHere_eq_false {component : List Char} :
    isHere component = false ↔ component ≠ [] ∧ component ≠ ['.'] := by
  rw [isHere, Bool.or_eq_false_iff, decide_eq_false_iff_not, decide_eq_false_iff_not]

theorem isComponent_ofList {name : List Char} :
    IsComponent (String.ofList name) ↔ isHere name = false ∧ '/' ∉ name ∧ name ≠ ['.', '.'] := by
  have other (text : String) : String.ofList name ≠ text ↔ name ≠ text.toList :=
    not_congr ⟨fun same => by rw [← same, String.toList_ofList],
      fun same => by rw [same, String.ofList_toList]⟩
  rw [isHere_eq_false]
  constructor
  · rintro ⟨nonempty, noSlash, notHere, notAbove⟩
    rw [String.toList_ofList] at noSlash
    exact ⟨⟨(other "").1 nonempty, (other ".").1 notHere⟩, noSlash, (other "..").1 notAbove⟩
  · rintro ⟨⟨nonempty, notHere⟩, noSlash, notAbove⟩
    refine ⟨(other "").2 nonempty, ?_, (other ".").2 notHere, (other "..").2 notAbove⟩
    rwa [String.toList_ofList]

example : fileName? "/../OUT.TXT/./" = some "OUT.TXT" ∧ fileName? "a/.." = none := by decide

/-! ### Joining -/

/-- Joining puts the same text before every name: nothing, or one that ends in a slash. -/
theorem exists_join (directory : String) :
    ∃ front : String, (front = "" ∨ ∃ above, front = above ++ "/") ∧
      ∀ name, join directory name = front ++ name := by
  unfold join
  by_cases empty : directory = ""
  · refine ⟨directory, .inl empty, fun name => if_pos ?_⟩
    rw [decide_eq_true empty, Bool.true_or]
  · rw [decide_eq_false empty, Bool.false_or]
    by_cases ends : directory.endsWith "/" = true
    · refine ⟨directory, .inr ?_, fun name => if_pos ends⟩
      rw [String.endsWith_eq_endsWith_toSlice, String.Slice.endsWith_string_iff] at ends
      obtain ⟨above, eq⟩ := ends
      refine ⟨String.ofList above, String.toList_inj.1 ?_⟩
      simpa using eq.symm
    · exact ⟨directory ++ "/", .inr ⟨directory, rfl⟩, fun name => if_neg ends⟩

theorem join_ne_empty {directory name : String} (nonempty : name ≠ "") : join directory name ≠ "" := by
  obtain ⟨front, -, joined⟩ := exists_join directory
  rw [joined]
  exact fun empty => nonempty (String.append_eq_empty_iff.1 empty).2

/-- The components of a path of a name in a directory: those of the directory, then the name. -/
theorem exists_splitSlash_join (directory : String) :
    ∃ above, ∀ name, '/' ∉ name.toList →
      splitSlash (join directory name).toList = above ++ [name.toList] := by
  obtain ⟨front, shape, joined⟩ := exists_join directory
  rcases shape with rfl | ⟨above, rfl⟩
  · refine ⟨[], fun name noSlash => ?_⟩
    rw [joined, String.empty_append, splitSlash_of_noSlash noSlash]
    rfl
  · refine ⟨splitSlash above.toList, fun name noSlash => ?_⟩
    have text : (join directory name).toList = above.toList ++ '/' :: name.toList := by
      rw [joined, String.toList_append, String.toList_append, List.append_assoc]
      rfl
    rw [text, splitSlash_append, splitSlash_of_noSlash noSlash]

/-- Whether a path of a name in a directory starts at the top depends on the directory alone. -/
theorem startsWith_join (directory : String) {name other : String} (noSlash : '/' ∉ name.toList)
    (noSlash' : '/' ∉ other.toList) :
    (join directory name).startsWith "/" = (join directory other).startsWith "/" := by
  obtain ⟨front, shape, joined⟩ := exists_join directory
  have starts (name : String) (noSlash : '/' ∉ name.toList) :
      (join directory name).startsWith "/" = true ↔ front.toList.head? = some '/' := by
    rw [String.startsWith_string_iff, joined, String.toList_append]
    cases front.toList with
    | nil => exact ⟨fun start => absurd (start.subset List.mem_cons_self) noSlash, nofun⟩
    | cons c rest =>
        rw [List.cons_append, List.head?_cons, Option.some_inj]
        exact List.cons_prefix_cons.trans ⟨fun h => h.1.symm, fun h => ⟨h.symm, List.nil_prefix⟩⟩
  rw [Bool.eq_iff_iff, starts name noSlash, starts other noSlash']

/-- Where the path of a name in a directory is short enough, the path of the directory itself is. -/
theorem isWellFormed_join {directory name : String} (nonempty : name ≠ "")
    (h : isWellFormed (join directory name) = true) : isWellFormed (join directory ".") = true := by
  obtain ⟨front, -, joined⟩ := exists_join directory
  unfold isWellFormed at h ⊢
  rw [joined, Bool.and_eq_true, decide_eq_true_iff, String.utf8ByteSize_append,
    String.toList_append] at h ⊢
  obtain ⟨short, noNull⟩ := h
  constructor
  · have size : 0 < name.utf8ByteSize :=
      Nat.pos_of_ne_zero fun zero => nonempty (String.utf8ByteSize_eq_zero_iff.1 zero)
    have one : ".".utf8ByteSize = 1 := rfl
    omega
  · rw [Bool.not_eq_true', List.contains_eq_mem, decide_eq_false_iff_not,
      List.mem_append, not_or] at noNull ⊢
    exact ⟨noNull.1, by decide⟩

end Path

namespace FileTree

variable {t : FileTree}

theorem follow_append (start : Spot) (names more : List (List Char)) :
    t.follow start (names ++ more) = t.follow start names >>= fun spot => t.follow spot more := by
  induction names generalizing start with
  | nil => rfl
  | cons c rest ih =>
      rw [List.cons_append, follow, follow]
      split
      · split
        · exact ih start
        · split
          · exact ih (t.parent start)
          · split
            · rfl
            · split
              · exact ih _
              · rfl
      · split <;> rfl

/-- A name leads from a directory to what is directly inside of it. -/
theorem follow_name {start spot : Spot} {name : String} (component : Path.IsComponent name)
    (h : t.follow start [name.toList] = .ok spot) :
    t.directoryAt start = true ∧ start.child? name.toList = some spot := by
  rw [← String.ofList_toList (s := name)] at component
  obtain ⟨named, -, notAbove⟩ := Path.isComponent_ofList.1 component
  rw [follow, named] at h
  by_cases there : t.directoryAt start = true
  · rw [if_pos there, if_neg Bool.false_ne_true, if_neg notAbove] at h
    split at h
    · cases h
    · split at h
      · next q child =>
          cases h
          exact ⟨there, child⟩
      · cases h
  · rw [if_neg there] at h
    split at h <;> cases h

/-- **A name joined to a directory leads directly inside of it**, if it leads anywhere: the path
`.` in the directory leads to the directory itself. -/
theorem locate_join {directory name : String} (component : Path.IsComponent name) {spot : Spot}
    (h : t.locate (Path.join directory name) = .ok spot) :
    ∃ base, t.locate (Path.join directory ".") = .ok base ∧ t.directoryAt base = true ∧
      base.child? name.toList = some spot := by
  obtain ⟨above, components⟩ := Path.exists_splitSlash_join directory
  have here : '/' ∉ ".".toList := by decide
  unfold locate at h ⊢
  split at h
  · cases h
  · split at h
    · cases h
    · next wellFormed =>
        rw [components name component.noSlash, follow_append, bind_eq_ok] at h
        obtain ⟨base, leads, last⟩ := h
        obtain ⟨there, child⟩ := follow_name component last
        have nonempty : Path.join directory "." ≠ "" := Path.join_ne_empty (by decide)
        have short := Path.isWellFormed_join component.nonempty (by simpa using wellFormed)
        refine ⟨base, ?_, there, child⟩
        rw [if_neg nonempty, short, if_neg (by decide), components "." here, follow_append,
          ← Path.startsWith_join directory component.noSlash here, leads]
        show t.follow base [['.']] = .ok base
        rw [follow, if_pos there]
        rfl

end FileTree

end BankedZ80
