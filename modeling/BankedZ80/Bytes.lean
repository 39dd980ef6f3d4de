/-!
# Byte arrays as images

Total access to byte arrays: reading past the end gives `0xFF` and writing past the end does
nothing, so callers show by their own invariants that they stay inside. `Bytes.overwrite` replaces a
range and leaves every other alone (`extract_overwrite`, `extract_overwrite_of_disjoint`), and
`Bytes.toList` is the view in which copies are described.
-/

namespace BankedZ80

-- A module may import a library with other equalities of byte arrays and other powers of numbers. These
-- two come before those, so that a definition is the same wherever it is read.

instance (priority := 1100) decidableEqBytes : DecidableEq ByteArray := ByteArray.instDecidableEq

instance (priority := 1100) powNumber : Pow Nat Nat := instPowNat

attribute [default_instance 20000] powNumber

namespace Bytes

/-- The byte at an index, `0xFF` past the end. -/
def get (b : ByteArray) (i : Nat) : UInt8 := if h : i < b.size then b[i] else 0xFF

/-- Replace the byte at an index; nothing past the end. -/
def put (b : ByteArray) (i : Nat) (v : UInt8) : ByteArray := if h : i < b.size then b.set i v h else b

/-- That many zero bytes. -/
def zeros (n : Nat) : ByteArray := ⟨Array.replicate n 0⟩

/-- The bytes of a list. -/
def ofList (bytes : List UInt8) : ByteArray := ⟨bytes.toArray⟩

/-- The bytes in order. -/
def toList (b : ByteArray) : List UInt8 := b.data.toList

/-- The number that is written in that many bytes from an index on, low byte first. -/
def number (b : ByteArray) (i : Nat) : Nat → Nat
  | 0 => 0
  | n + 1 => (get b i).toNat + 256 * number b (i + 1) n

/-- Replace the bytes from an index on by those of `new`. -/
def overwrite (b : ByteArray) (start : Nat) (new : ByteArray) : ByteArray :=
  new.copySlice 0 b start new.size

@[simp] theorem size_put (b : ByteArray) (i : Nat) (v : UInt8) : (put b i v).size = b.size := by
  unfold put
  split
  · simp only [← ByteArray.size_data, ByteArray.data_set, Array.size_set]
  · rfl

theorem get_put (b : ByteArray) (i j : Nat) (v : UInt8) :
    get (put b i v) j = if i = j ∧ j < b.size then v else get b j := by
  unfold get
  simp only [size_put]
  by_cases hj : j < b.size
  · simp only [hj, dif_pos, and_true]
    unfold put
    split
    · simp [ByteArray.set, ByteArray.getElem_eq_getElem_data, Array.getElem_set]
    · rename_i hi
      have : i ≠ j := by omega
      simp [this]
  · simp [hj]

@[simp] theorem size_zeros (n : Nat) : (zeros n).size = n := by
  simp [zeros, ← ByteArray.size_data]

@[simp] theorem toList_ofList (bytes : List UInt8) : toList (ofList bytes) = bytes := by
  simp [toList, ofList]

@[simp] theorem ofList_toList (b : ByteArray) : ofList (toList b) = b := by
  simp [toList, ofList]

@[simp] theorem size_ofList (bytes : List UInt8) : (ofList bytes).size = bytes.length := by
  simp [ofList, ← ByteArray.size_data]

@[simp] theorem length_toList (b : ByteArray) : (toList b).length = b.size := by
  simp [toList, ByteArray.size_data]

/-! ### Overwriting a range -/

theorem overwrite_eq (b : ByteArray) (start : Nat) (new : ByteArray) :
    overwrite b start new =
      b.extract 0 start ++ new ++ b.extract (start + new.size) b.size := by
  rw [overwrite, ByteArray.copySlice_eq_append, Nat.zero_add, ByteArray.extract_zero_size,
    Nat.sub_zero]
  simp

section overwrite
variable {b new : ByteArray} {start : Nat} (h : start + new.size ≤ b.size)
include h

theorem size_overwrite : (overwrite b start new).size = b.size := by
  simp only [overwrite_eq, ByteArray.size_append, ByteArray.size_extract]
  omega

/-- Reading back what was written. -/
theorem extract_overwrite : (overwrite b start new).extract start (start + new.size) = new := by
  have before : (b.extract 0 start).size = start := by
    rw [ByteArray.size_extract]
    omega
  rw [overwrite_eq, ByteArray.extract_append, ByteArray.size_append, before,
    ByteArray.extract_append_eq_right before.symm (by rw [before]), Nat.sub_self]
  have rest : (b.extract (start + new.size) b.size).extract (start - (start + new.size)) 0 =
      .empty := by
    rw [ByteArray.extract_eq_empty_iff]
    omega
  rw [rest, ByteArray.append_empty]

/-- A range that was not written to reads as before. -/
theorem extract_overwrite_of_disjoint {i j : Nat} (hij : i ≤ j) (hj : j ≤ b.size)
    (disjoint : j ≤ start ∨ start + new.size ≤ i) :
    (overwrite b start new).extract i j = b.extract i j := by
  have before : (b.extract 0 start).size = start := by
    rw [ByteArray.size_extract]
    omega
  rw [overwrite_eq]
  rcases disjoint with left | right
  · have rest : (new ++ b.extract (start + new.size) b.size).extract (i - start) (j - start) =
        .empty := by
      rw [ByteArray.extract_eq_empty_iff]
      omega
    rw [ByteArray.append_assoc, ByteArray.extract_append, before, rest, ByteArray.append_empty,
      ByteArray.extract_extract, Nat.zero_add, Nat.zero_add, Nat.min_eq_left left]
  · have front : (b.extract 0 start ++ new).extract i j = .empty := by
      rw [ByteArray.extract_eq_empty_iff, ByteArray.size_append, before]
      omega
    rw [ByteArray.extract_append, front, ByteArray.empty_append, ByteArray.size_append, before,
      ByteArray.extract_extract, Nat.add_sub_cancel' right, Nat.add_sub_cancel' (by omega),
      Nat.min_eq_left hj]

end overwrite

end Bytes

end BankedZ80
