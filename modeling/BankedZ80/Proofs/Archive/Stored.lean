import BankedZ80.Archive.Zip

/-!
# Archives in parts

An archive is read in two places. Its directory and its end record are its last bytes, and
`Zip.headers?_append` reads them by themselves: what comes in front is of no concern but for its
length. The contents of an entry stand behind its local header, and `Zip.readEntry_append` finds them
there when they are stored as they are. So a large archive is known from its small parts; the check of a
large file of zeros is known from its first bytes (`Crc32.compute_ones_zeros`).
-/

namespace BankedZ80

/-! ### Bytes in two parts -/

namespace Bytes

variable (a b : ByteArray)

theorem get_append_left {i : Nat} (h : i < a.size) : get (a ++ b) i = get a i := by
  have within : i < (a ++ b).size := by
    rw [ByteArray.size_append]
    omega
  rw [get, get, dif_pos h, dif_pos within, ByteArray.getElem_append_left h]

theorem get_append_right (i : Nat) : get (a ++ b) (a.size + i) = get b i := by
  have size := ByteArray.size_append (a := a) (b := b)
  unfold get
  by_cases h : i < b.size
  · rw [dif_pos h, dif_pos (by omega), ByteArray.getElem_append_right (by omega)]
    simp only [Nat.add_sub_cancel_left]
  · rw [dif_neg h, dif_neg (by omega)]

theorem number_append_left {i n : Nat} (h : i + n ≤ a.size) :
    number (a ++ b) i n = number a i n := by
  induction n generalizing i with
  | zero => rfl
  | succ n ih => rw [number, number, get_append_left a b (by omega), ih (by omega)]

theorem number_append_right (i n : Nat) : number (a ++ b) (a.size + i) n = number b i n := by
  induction n generalizing i with
  | zero => rfl
  | succ n ih => rw [number, number, get_append_right, Nat.add_assoc, ih]

end Bytes

/-! ### Checks -/

/-- A fold over bytes is one over their list. By induction on the bytes that are left. -/
theorem Bytes.foldl_eq {α : Type} (f : α → UInt8 → α) (a : α) (b : ByteArray) :
    b.foldl f a = (toList b).foldl f a := by
  have loop (left i : Nat) (a : α) (all : i + left = b.size) :
      (ByteArray.foldlM.loop (m := Id) (fun a v => pure (f a v)) b b.size (Nat.le_refl _) left i a).run =
        ((toList b).drop i).foldl f a := by
    induction left generalizing i a with
    | zero =>
        have ended : (toList b).drop i = [] := List.drop_eq_nil_of_le (by rw [length_toList]; omega)
        rw [ended, ByteArray.foldlM.loop, dif_neg (by omega)]
        rfl
    | succ left ih =>
        have inside : i < (toList b).length := by
          rw [length_toList]
          omega
        rw [List.drop_eq_getElem_cons inside, List.foldl_cons, ByteArray.foldlM.loop,
          dif_pos (by omega)]
        exact ih (i + 1) _ (by omega)
  rw [ByteArray.foldl, ByteArray.foldlM, dif_pos (Nat.le_refl _)]
  exact loop (b.size - 0) 0 a (by omega)

namespace Crc32

/-- Where nothing is left over, zeros leave nothing. -/
theorem foldl_zeros (n : Nat) : (List.replicate n 0).foldl update 0 = 0 := by
  induction n with
  | zero => rfl
  | succ n ih =>
      have step : update 0 0 = 0 := by decide +kernel
      rw [List.replicate_succ, List.foldl_cons, step, ih]

/-- Four bytes of ones take away what the check begins with, so that zeros after them do not count. -/
theorem compute_ones_zeros (n : Nat) :
    compute (Bytes.ofList ([0xFF, 0xFF, 0xFF, 0xFF] ++ List.replicate n 0)) = 0xFFFFFFFF := by
  have ones : [0xFF, 0xFF, 0xFF, 0xFF].foldl update 0xFFFFFFFF = 0 := by decide +kernel
  rw [compute, Bytes.foldl_eq, Bytes.toList_ofList, List.foldl_append, ones, foldl_zeros]
  rfl

end Crc32

namespace Zip

/-! ### The directory -/

section directory

variable (front tail : ByteArray) (i : Nat)

theorem hasSignature_append_right (kind : RecordKind) :
    hasSignature (front ++ tail) (front.size + i) kind = hasSignature tail i kind := by
  simp only [hasSignature, word16, Nat.add_assoc, Bytes.number_append_right,
    ByteArray.size_append, Nat.add_le_add_iff_left]

theorem hasRecord_append_right (kind : RecordKind) :
    hasRecord (front ++ tail) (front.size + i) kind = hasRecord tail i kind := by
  simp only [hasRecord, hasSignature_append_right, Nat.add_assoc, ByteArray.size_append,
    Nat.add_le_add_iff_left]

/-- A header behind some bytes is read as without them. -/
theorem Header.at?_append :
    Header.at? (front ++ tail) (front.size + i) =
      (Header.at? tail i).map fun (header, next) => (header, front.size + next) := by
  simp only [Header.at?, hasRecord_append_right, word16, word32, Nat.add_assoc,
    Bytes.number_append_right, ByteArray.size_append, Nat.add_le_add_iff_left,
    ByteArray.extract_append_size_add]
  split
  · simp only [Option.bind_eq_bind, Option.map_bind, Function.comp_def, Option.pure_def, Option.map_some]
  · rfl

/-- So are all of them. By induction on their number. -/
theorem Location.headersFrom?_append (l : Location) (count : Nat) :
    l.headersFrom? (front ++ tail) (front.size + i) count = l.headersFrom? tail i count := by
  induction count generalizing i with
  | zero => rfl
  | succ count ih =>
      rw [headersFrom?, headersFrom?, Header.at?_append]
      cases Header.at? tail i with
      | none => rfl
      | some read => simp only [Option.map_some, Option.bind_eq_bind, Option.bind_some, ih]

theorem EndRecord.at?_append :
    EndRecord.at? (front ++ tail) (front.size + i) =
      (EndRecord.at? tail i).map fun r => { r with position := front.size + i } := by
  simp only [EndRecord.at?, hasRecord_append_right, word16, word32, Nat.add_assoc,
    Bytes.number_append_right, ByteArray.size_append, Nat.add_le_add_iff_left]
  split <;> rfl

/-- Where too few bytes follow there is no end record, so the search for one begins further to the
front. -/
theorem headers?_eq_headersBefore? {b : ByteArray} {e : Nat}
    (size : b.size = e + RecordKind.endRecord.length) : headers? b = headersBefore? b (e + 1) := by
  have none_after (k : Nat) : headersBefore? b (e + 1 + k) = headersBefore? b (e + 1) := by
    induction k with
    | zero => rfl
    | succ k ih =>
        have absent : EndRecord.at? b (e + 1 + k) = none := by
          rw [EndRecord.at?, hasRecord, decide_eq_false (by omega)]
          rfl
        rw [← Nat.add_assoc, headersBefore?, absent]
        exact ih
  rw [headers?, size]
  exact none_after 21

/-- The headers that the last bytes of an archive begin with, by the end record that they end with. It
has to say that they start at the given position, and none of its numbers may be full, which would send
the reader to a wider record. -/
def tailHeaders? (tail : ByteArray) (start : Nat) : Option (List Header) := do
  let r ← EndRecord.at? tail (tail.size - RecordKind.endRecord.length)
  if RecordKind.endRecord.length < tail.size ∧ hasSignature tail 0 .directoryHeader ∧
      r.disk = r.directoryDisk ∧ r.directory = start ∧ start ≠ full32 ∧ r.totalCount ≠ 0 ∧
      r.totalCount ≠ full16 then
    Location.headersFrom? tail { start, shift := 0, count := r.count } 0 r.count
  else none

/-- **An archive is read from its end.** -/
theorem headers?_append {headers : List Header}
    (h : tailHeaders? tail front.size = some headers) : headers? (front ++ tail) = some headers := by
  obtain ⟨r, at_end, h⟩ := Option.bind_eq_some_iff.1 h
  obtain ⟨⟨long, signature, disk, directory, narrow, some_entries, few⟩, h⟩ :=
    Option.ite_none_right_eq_some.1 h
  obtain ⟨e, size⟩ : ∃ e, tail.size = e + 1 + RecordKind.endRecord.length :=
    ⟨tail.size - 1 - RecordKind.endRecord.length, by omega⟩
  rw [size, Nat.add_sub_cancel] at at_end
  have whole : (front ++ tail).size = front.size + (e + 1) + RecordKind.endRecord.length := by
    rw [ByteArray.size_append, size, ← Nat.add_assoc]
  have first : firstHeader? (front ++ tail) front.size (e + 1) = some front.size := by
    have there := hasSignature_append_right front tail 0 .directoryHeader
    rw [Nat.add_zero, signature] at there
    rw [firstHeader?, there]
    rfl
  have location : EndRecord.location? (front ++ tail) { r with position := front.size + (e + 1) } =
      some { start := front.size, shift := 0, count := r.count } := by
    rw [EndRecord.location?, if_neg (by rw [directory]; exact not_or.2 ⟨few, narrow⟩),
      EndRecord.plainLocation?, if_neg (fun differ => differ disk), if_neg some_entries]
    dsimp only
    rw [directory, Nat.add_sub_cancel_left, first, Option.map_some, Nat.sub_self]
  have found : EndRecord.headers? (front ++ tail) { r with position := front.size + (e + 1) } =
      some headers := by
    rw [EndRecord.headers?, location]
    exact (Location.headersFrom?_append front tail 0 _ r.count).trans h
  rw [headers?_eq_headersBefore? whole, headersBefore?, EndRecord.at?_append, at_end, Option.map_some,
    Option.bind_some, found]

end directory

/-! ### Contents -/

variable {before contents after : ByteArray}

theorem hasRecord_append_left {i : Nat} {kind : RecordKind} (there : hasRecord before i kind = true) :
    hasRecord (before ++ after) i kind = true := by
  simp only [hasRecord, hasSignature, Bool.and_eq_true, decide_eq_true_eq, beq_iff_eq] at there ⊢
  obtain ⟨fits, ⟨inside, first⟩, second⟩ := there
  rw [word16, word16, Bytes.number_append_left _ _ (by omega), Bytes.number_append_left _ _ (by omega),
    ByteArray.size_append]
  exact ⟨by omega, ⟨by omega, first⟩, second⟩

/-- The bytes of an entry stand behind its local header. -/
theorem storedBytes?_append {h : Header}
    (there : hasRecord before h.start .localHeader = true)
    (start : h.start + RecordKind.localHeader.length + word16 before (h.start + 26) +
      word16 before (h.start + 28) = before.size)
    (size : h.compressedSize = contents.size) :
    storedBytes? (before ++ (contents ++ after)) h = some contents := by
  have inside : h.start + RecordKind.localHeader.length ≤ before.size := by omega
  have all : min h.compressedSize (before ++ (contents ++ after)).size = contents.size := by
    rw [size, ByteArray.size_append, ByteArray.size_append]
    omega
  have behind : (before ++ (contents ++ after)).extract before.size (before.size + contents.size) =
      contents :=
    ByteArray.extract_append_size_add (i := 0).trans (ByteArray.extract_append_eq_left rfl)
  have length : RecordKind.localHeader.length = 30 := rfl
  rw [storedBytes?, if_pos (hasRecord_append_left there)]
  dsimp only
  rw [word16, word16, Bytes.number_append_left _ _ (by omega), Bytes.number_append_left _ _ (by omega)]
  unfold word16 at start
  rw [start, all, behind]

/-- **A file that is stored as it is reads as what is there**, if its check agrees. -/
theorem readEntry_append {h : Header}
    (there : hasRecord before h.start .localHeader = true)
    (start : h.start + RecordKind.localHeader.length + word16 before (h.start + 26) +
      word16 before (h.start + 28) = before.size)
    (size : h.compressedSize = contents.size)
    (plain : (h.encrypted || h.underAes) = false) (stored : h.method = 0)
    (file : isDirectoryName h.name = false) (crc : (Crc32.compute contents).toNat = h.crc) :
    readEntry (before ++ (contents ++ after)) h = .ok { name := h.name, contents := some contents } := by
  rw [readEntry, plain, storedBytes?_append there start size, stored]
  simp only [Method.ofNat?, file, Method.contents?, crc]
  rfl

end Zip

end BankedZ80
