import BankedZ80.Proofs.Disk.Slices

/-!
# The order of drive letters

The slices of all units have an order: the units as they are listed, and each with its slices from
the first on (`allSlices`). Letters are given out in this order until there are none left, so a list
of letters is the beginning of that order, with letters from A on (`assignDrives_eq`).

`LettersFollow` is what comes of it: no letter comes after P, no unit with slices is left out while
letters remain, and units that are listed later change nothing.
-/

namespace BankedZ80

/-- The slices of a unit that can have a letter, with their unit. -/
def DriveSource.slices (perSlice : Nat) (s : DriveSource) : List (Nat × Nat) :=
  (List.range (min s.sliceCount (max 1 (s.sectors / max 1 perSlice)))).map fun slice =>
    (s.unit, slice)

/-- The slices of all units, in order. -/
def allSlices (perSlice : Nat) (sources : List DriveSource) : List (Nat × Nat) :=
  sources.flatMap (·.slices perSlice)

/-- Slices with letters, in the order of letters, when the first `used` letters are taken. -/
def letteredFrom (used : Nat) (slices : List (Nat × Nat)) : List Drive :=
  slices.mapIdx fun i slice => ⟨driveLetter (used + i), slice.1, slice.2⟩

variable {perSlice used : Nat} {sources before more : List DriveSource} {s : DriveSource}
  {slices later : List (Nat × Nat)}

/-! ### The enumeration -/

theorem allSlices_cons :
    allSlices perSlice (s :: sources) = s.slices perSlice ++ allSlices perSlice sources :=
  List.flatMap_cons

theorem allSlices_append :
    allSlices perSlice (before ++ sources) =
      allSlices perSlice before ++ allSlices perSlice sources :=
  List.flatMap_append

theorem length_slices : (s.slices perSlice).length = s.usable perSlice := by
  rw [DriveSource.slices, List.length_map, List.length_range]
  rfl

theorem length_letteredFrom : (letteredFrom used slices).length = slices.length :=
  List.length_mapIdx

/-- The letters aside, it is the slices. -/
theorem map_letteredFrom :
    (letteredFrom used slices).map (fun d => (d.unit, d.slice)) = slices := by
  apply List.ext_getElem?
  intro i
  rw [List.getElem?_map, letteredFrom, List.getElem?_mapIdx, Option.map_map]
  exact congrFun Option.map_id slices[i]?

theorem letteredFrom_append :
    letteredFrom used (slices ++ later) =
      letteredFrom used slices ++ letteredFrom (used + slices.length) later := by
  rw [letteredFrom, List.mapIdx_append]
  congr 2
  funext i slice
  rw [Nat.add_assoc, Nat.add_comm i]

/-- The first slices of a unit, with letters. -/
theorem letteredFrom_take_slices {count : Nat} :
    letteredFrom used ((s.slices perSlice).take count) =
      (List.range (min (s.usable perSlice) count)).map fun slice =>
        ⟨driveLetter (used + slice), s.unit, slice⟩ := by
  apply List.ext_getElem
  · rw [length_letteredFrom, List.length_take, length_slices, List.length_map, List.length_range,
      Nat.min_comm]
  · intro i _ _
    simp [letteredFrom, DriveSource.slices]

/-- **Letters follow the enumeration**, also when some of them are taken. By induction on the
units. -/
theorem assignDrivesFrom_eq :
    assignDrivesFrom perSlice used sources =
      letteredFrom used ((allSlices perSlice sources).take (maxDrives - used)) := by
  induction sources generalizing used with
  | nil => rw [assignDrivesFrom, allSlices, List.flatMap_nil, List.take_nil]; rfl
  | cons s rest ih =>
      -- The unit uses the letters up, or all its slices get one.
      have left : maxDrives - (used + min (s.usable perSlice) (maxDrives - used)) =
          maxDrives - used - s.usable perSlice := by omega
      rw [assignDrivesFrom, ih, left, allSlices_cons, List.take_append, letteredFrom_append,
        letteredFrom_take_slices, List.length_take, length_slices, Nat.min_comm]

theorem assignDrives_eq :
    assignDrives perSlice sources = letteredFrom 0 ((allSlices perSlice sources).take maxDrives) :=
  assignDrivesFrom_eq

/-! ### What follows -/

/-- The letter at a place in the list, and the slice behind it. -/
theorem getElem?_assignDrives {i : Nat} :
    (assignDrives perSlice sources)[i]? =
      ((allSlices perSlice sources).take maxDrives)[i]?.map fun slice =>
        ⟨driveLetter (0 + i), slice.1, slice.2⟩ := by
  rw [assignDrives_eq, letteredFrom, List.getElem?_mapIdx]

theorem length_assignDrives :
    (assignDrives perSlice sources).length = min maxDrives (allSlices perSlice sources).length := by
  rw [assignDrives_eq, length_letteredFrom, List.length_take]

theorem toNat_driveLetter {i : Nat} (h : i < maxDrives) :
    (driveLetter i).toNat = 'A'.toNat + i := by
  have all : ∀ i < maxDrives, (driveLetter i).toNat = 'A'.toNat + i := by decide
  exact all i h

theorem letter_of_getElem? {i : Nat} {d : Drive} (h : (assignDrives perSlice sources)[i]? = some d) :
    i < maxDrives ∧ d.letter.toNat = 'A'.toNat + i := by
  have below : i < (assignDrives perSlice sources).length := (List.getElem?_eq_some_iff.1 h).1
  rw [length_assignDrives] at below
  have below : i < maxDrives := Nat.lt_of_lt_of_le below (Nat.min_le_left _ _)
  rw [getElem?_assignDrives] at h
  obtain ⟨slice, -, rfl⟩ := Option.map_eq_some_iff.1 h
  refine ⟨below, ?_⟩
  show (driveLetter (0 + i)).toNat = 'A'.toNat + i
  rw [Nat.zero_add, toNat_driveLetter below]

/-- A unit with slices has one that can have a letter, for a small image counts as a slice. -/
theorem head?_slices (some_slices : 0 < s.sliceCount) :
    (s.slices perSlice)[0]? = some (s.unit, 0) := by
  have usable : 0 < min s.sliceCount (max 1 (s.sectors / max 1 perSlice)) :=
    Nat.lt_min.2 ⟨some_slices, Nat.lt_of_lt_of_le Nat.one_pos (Nat.le_max_left _ _)⟩
  rw [DriveSource.slices, List.getElem?_map, List.getElem?_range usable]
  rfl

/-- The first slice of a unit gets the letter that is next when its turn comes. -/
theorem first_letter (some_slices : 0 < s.sliceCount)
    (left : (assignDrives perSlice before).length < maxDrives) :
    (assignDrives perSlice (before ++ s :: sources))[(assignDrives perSlice before).length]? =
      some ⟨driveLetter (0 + (assignDrives perSlice before).length), s.unit, 0⟩ := by
  -- The units before it got letters for all their slices.
  have all : (assignDrives perSlice before).length = (allSlices perSlice before).length := by
    rw [length_assignDrives] at left ⊢
    omega
  have here : (allSlices perSlice (before ++ s :: sources))[(allSlices perSlice before).length]? =
      some (s.unit, 0) := by
    have slices : 0 < (s.slices perSlice).length :=
      (List.getElem?_eq_some_iff.1 (head?_slices some_slices)).1
    rw [allSlices_append, List.getElem?_append_right (Nat.le_refl _), Nat.sub_self, allSlices_cons,
      List.getElem?_append_left slices, head?_slices some_slices]
  rw [all] at left ⊢
  rw [getElem?_assignDrives, List.getElem?_take_of_lt left, here]
  rfl

/-- What letters of units mean, whatever units are listed. -/
structure LettersFollow (perSlice : Nat) (sources : List DriveSource) : Prop where
  /-- Behind the letters are the first slices of all. -/
  slices : (assignDrives perSlice sources).map (fun d => (d.unit, d.slice)) =
    (allSlices perSlice sources).take maxDrives
  /-- There are as many letters as slices, but sixteen at most. -/
  count : (assignDrives perSlice sources).length = min 16 (allSlices perSlice sources).length
  /-- Letters are consecutive from the letter A on. -/
  consecutive : ∀ i d, (assignDrives perSlice sources)[i]? = some d →
    d.letter.toNat = 'A'.toNat + i
  /-- No letter comes after P. -/
  last : ∀ d ∈ assignDrives perSlice sources, 'A' ≤ d.letter ∧ d.letter ≤ 'P'
  /-- The number of a slice is below the slice count of its unit, and so fits a byte if that does. -/
  slice_lt : ∀ d ∈ assignDrives perSlice sources,
    ∃ s ∈ sources, d.unit = s.unit ∧ d.slice < s.sliceCount
  /-- A unit with slices gets the next letter, if there is one left. -/
  served : ∀ before s after, sources = before ++ s :: after → 0 < s.sliceCount →
    (assignDrives perSlice before).length < maxDrives →
    ∃ d, (assignDrives perSlice sources)[(assignDrives perSlice before).length]? = some d ∧
      d.unit = s.unit ∧ d.slice = 0
  /-- Further units change no letter. -/
  stable : ∀ more, assignDrives perSlice sources <+: assignDrives perSlice (sources ++ more)
  /-- No slice has two letters. -/
  distinct : (sources.map (·.unit)).Nodup →
    ((assignDrives perSlice sources).map fun d => (d.unit, d.slice)).Nodup

/-- **Letters follow the order of slices**, with any units and slices of any size. -/
theorem assignDrives_follow (perSlice : Nat) (sources : List DriveSource) :
    LettersFollow perSlice sources where
  slices := by rw [assignDrives_eq, map_letteredFrom]
  count := length_assignDrives
  consecutive i d h := (letter_of_getElem? h).2
  last d mem := by
    obtain ⟨i, h⟩ := List.mem_iff_getElem?.1 mem
    obtain ⟨below, letter⟩ := letter_of_getElem? h
    rw [maxDrives] at below
    have a : 'A'.toNat = 65 := rfl
    have p : 'P'.toNat = 80 := rfl
    constructor
    · show 'A'.toNat ≤ d.letter.toNat
      omega
    · show d.letter.toNat ≤ 'P'.toNat
      omega
  slice_lt d mem := by
    obtain ⟨s, listed, unit, below⟩ := mem_assignDrivesFrom mem
    exact ⟨s, listed, unit, Nat.lt_of_lt_of_le below (Nat.min_le_left _ _)⟩
  served before s after eq some_slices left := by
    subst eq
    exact ⟨_, first_letter some_slices left, rfl, rfl⟩
  stable more := by
    rw [assignDrives_eq, assignDrives_eq, allSlices_append, List.take_append, letteredFrom_append]
    exact List.prefix_append _ _
  distinct := nodup_assignDrivesFrom

/-- A unit without slices is passed over, and the letters run out within the last one. -/
example :
    (assignDrives 0 [⟨3, 0, 9⟩, ⟨1, 15, 14⟩, ⟨4, 255, 2⟩]).drop 13 =
      [⟨'N', 1, 13⟩, ⟨'O', 4, 0⟩, ⟨'P', 4, 1⟩] := by
  decide

end BankedZ80
