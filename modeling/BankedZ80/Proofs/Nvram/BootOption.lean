import BankedZ80.Nvram
import Mathlib.Data.List.TakeWhile
import Mathlib.Tactic

/-!
# Boot options in the record

Texts and selector bytes only ever name legal options (`BootOption.legal_of_parse?`,
`BootOption.legal_of_decode?`), and a legal option is read back from its selector bytes
(`BootOption.decode?_encode`) and from its text (`BootOption.parse?_text`). So the record returns the
text of the option that was stored (`Nvram.setting_setBootOption`), which is the canonical form of
the text that named it.
-/

namespace BankedZ80

namespace BootOption

variable {o : BootOption}

/-! ### Texts name legal options -/

theorem legal_of_parseDisk? {unit slice : List Char} (h : parseDisk? unit slice = some o) :
    o.Legal := by
  unfold parseDisk? at h
  simp only [bind, Option.bind_eq_some_iff] at h
  obtain ⟨u, -, s, -, h⟩ := h
  split at h
  · next within =>
      cases h
      obtain ⟨hu, hs⟩ := within
      unfold maxUnits at hu
      unfold maxSlice at hs
      constructor
      · show u % 256 < 16
        omega
      · show s % 256 ≤ 0x7F
        omega
  · cases h

theorem isAlpha_iff {c : Char} :
    c.isAlpha = true ↔ ('A' ≤ c ∧ c ≤ 'Z') ∨ ('a' ≤ c ∧ c ≤ 'z') := by
  have upper : c.isUpper = true ↔ 'A' ≤ c ∧ c ≤ 'Z' := decide_eq_true_iff
  have lower : c.isLower = true ↔ 'a' ≤ c ∧ c ≤ 'z' := by
    show (decide (97 ≤ c.val) && decide (c.val ≤ 122)) = true ↔ _
    rw [Bool.and_eq_true, decide_eq_true_eq, decide_eq_true_eq]
    rfl
  show (c.isUpper || c.isLower) = true ↔ _
  rw [Bool.or_eq_true, upper, lower]

/-- A letter in upper case is one of the 26. -/
theorem toUpper_within {c : Char} (h : c.isAlpha = true) : 'A' ≤ c.toUpper ∧ c.toUpper ≤ 'Z' := by
  have letter := isAlpha_iff.1 h
  unfold Char.toUpper
  grind [Char.le_def]

theorem legal_of_ofChars? {s : List Char} (h : ofChars? s = some o) : o.Legal := by
  unfold ofChars? at h
  split at h
  · next c =>
      split at h
      · next letter =>
          cases h
          split
          · trivial
          · next other => exact ⟨(toUpper_within letter).1, (toUpper_within letter).2, other⟩
      · exact legal_of_parseDisk? h
  · split at h
    · exact legal_of_parseDisk? h
    · exact legal_of_parseDisk? h

/-- **A text names legal options only.** -/
theorem legal_of_parse? {s : String} (h : parse? s = some o) : o.Legal := legal_of_ofChars? h

/-! ### Legal options are told apart by their bytes -/

/-- The selector bytes of a slice are those of a disk option, and its number can be read back. -/
theorem diskBoot_or_slice {slice : UInt8} (h : slice.toNat ≤ maxSlice) :
    (diskBoot ||| slice) &&& diskBoot ≠ 0 ∧ (diskBoot ||| slice) &&& 0x7F = slice := by
  have all : ∀ n : Fin 128, (diskBoot ||| n.val.toUInt8) &&& diskBoot ≠ 0 ∧
      (diskBoot ||| n.val.toUInt8) &&& 0x7F = n.val.toUInt8 := by decide
  have this := all ⟨slice.toNat, Nat.lt_succ_of_le h⟩
  rw [show slice.toNat.toUInt8 = slice from UInt8.ofNat_toNat] at this
  exact this

/-- **The selector bytes of a legal option denote it.** -/
theorem decode?_encode (h : o.Legal) : decode? o.encode.1 o.encode.2.1 = some o := by
  cases o with
  | menu => rfl
  | rom letter =>
      have code : letter.toNat.toUInt8.toNat = letter.toNat := by
        have most : letter.toNat ≤ 90 := UInt32.le_iff_toNat_le.1 h.2.1
        exact Nat.mod_eq_of_lt (by omega)
      have some_letter : letter.toNat.toUInt8 ≠ 0 := by
        intro zero
        have least : 65 ≤ letter.toNat := UInt32.le_iff_toNat_le.1 h.1
        rw [zero] at code
        exact absurd code (by show 0 ≠ _; omega)
      have unset : ¬((0 : UInt8) &&& diskBoot != 0) = true ∧ ¬((0 : UInt8) != 0) = true := by decide
      rw [encode, decode?, if_neg unset.1, if_neg unset.2, if_neg some_letter, code, Char.ofNat_toNat]
      exact if_pos h
  | disk unit slice =>
      obtain ⟨there, within⟩ := h
      obtain ⟨isDisk, number⟩ := diskBoot_or_slice within
      rw [encode, decode?, if_pos (bne_iff_ne.2 isDisk), if_pos there, number]

/-- **Selector bytes denote legal options only.** -/
theorem legal_of_decode? {low high : UInt8} (h : decode? low high = some o) : o.Legal := by
  unfold decode? at h
  split at h
  · split at h
    · next there =>
        cases h
        refine ⟨there, ?_⟩
        show (high &&& 0x7F).toNat ≤ 0x7F
        rw [UInt8.toNat_and]
        exact Nat.and_le_right
    · cases h
  · split at h
    · cases h
    · split at h
      · cases h
        trivial
      · dsimp only at h
        split at h
        · next letter =>
            cases h
            exact letter
        · cases h

/-! ### The text of a legal option is read back -/

/-- The decimal digits of a number read as this number. -/
theorem digitsValue?_toDigits (n : Nat) : digitsValue? (Nat.toDigits 10 n) = some n := by
  have digits : (Nat.toDigits 10 n).all Char.isDigit = true :=
    List.all_eq_true.2 fun c mem => Nat.isDigit_of_mem_toDigits (by decide) (by decide) mem
  rw [digitsValue?, if_pos ⟨Nat.toDigits_ne_nil, digits⟩]
  exact congrArg some (Nat.ofDigitChars_toDigits (by decide) (by decide))

/-- Letters come after the digits. -/
theorem le_toNat_of_isAlpha {c : Char} (h : c.isAlpha = true) : 65 ≤ c.toNat := by
  rcases isAlpha_iff.1 h with upper | lower
  · exact UInt32.le_iff_toNat_le.1 upper.1
  · have least : 97 ≤ c.toNat := UInt32.le_iff_toNat_le.1 lower.1
    omega

theorem digit_of_mem_toDigits {n : Nat} {c : Char} (mem : c ∈ Nat.toDigits 10 n) :
    48 ≤ c.toNat ∧ c.toNat ≤ 57 := by
  have digit := Nat.isDigit_of_mem_toDigits (by decide) (by decide) mem
  unfold Char.isDigit at digit
  simp only [Bool.and_eq_true, decide_eq_true_eq] at digit
  exact ⟨UInt32.le_iff_toNat_le.1 digit.1, UInt32.le_iff_toNat_le.1 digit.2⟩

/-- There is no point among digits. -/
theorem ne_point_of_mem_toDigits (n : Nat) : ∀ c ∈ Nat.toDigits 10 n, decide (c ≠ '.') = true := by
  intro c mem
  have within := digit_of_mem_toDigits mem
  refine decide_eq_true ?_
  rintro rfl
  exact absurd within.1 (by decide)

theorem parseDisk?_toDigits {unit slice : UInt8} (h : (disk unit slice).Legal) :
    parseDisk? (Nat.toDigits 10 unit.toNat) (Nat.toDigits 10 slice.toNat) =
      some (disk unit slice) := by
  simp only [parseDisk?, digitsValue?_toDigits, bind, Option.bind_some]
  refine (if_pos h).trans ?_
  rw [Nat.toUInt8_eq, Nat.toUInt8_eq, UInt8.ofNat_toNat, UInt8.ofNat_toNat]

/-- A unit alone is read as its first slice. -/
theorem ofChars?_unit {unit : UInt8} (h : (disk unit 0).Legal) :
    ofChars? (Nat.toDigits 10 unit.toNat) = some (disk unit 0) := by
  have parsed : parseDisk? (Nat.toDigits 10 unit.toNat) ['0'] = some (disk unit 0) :=
    parseDisk?_toDigits h
  unfold ofChars?
  split
  · next c one =>
      have digit : 48 ≤ c.toNat ∧ c.toNat ≤ 57 :=
        digit_of_mem_toDigits (n := unit.toNat) (by simp [one])
      have not_letter : ¬c.isAlpha = true := fun letter => by
        have least := le_toNat_of_isAlpha letter
        omega
      rw [if_neg not_letter, ← one]
      exact parsed
  · rw [List.dropWhile_eq_nil_iff.2 (ne_point_of_mem_toDigits unit.toNat)]
    exact parsed

/-- A unit and a slice joined by a point are read as such. -/
theorem ofChars?_unit_slice {unit slice : UInt8} (h : (disk unit slice).Legal) :
    ofChars? (Nat.toDigits 10 unit.toNat ++ '.' :: Nat.toDigits 10 slice.toNat) =
      some (disk unit slice) := by
  have before := ne_point_of_mem_toDigits unit.toNat
  unfold ofChars?
  split
  · next c one =>
      -- A single character leaves no room for the digits beside the point.
      have length := congrArg List.length one
      have digits : 0 < (Nat.toDigits 10 unit.toNat).length := Nat.length_toDigits_pos
      simp only [List.length_append, List.length_cons, List.length_nil] at length
      omega
  · rw [List.dropWhile_append_of_pos before, List.takeWhile_append_of_pos before]
    simp [parseDisk?_toDigits h]

theorem toList_text_disk (unit slice : UInt8) :
    (disk unit slice).text.toList =
      if slice = 0 then Nat.toDigits 10 unit.toNat
      else Nat.toDigits 10 unit.toNat ++ '.' :: Nat.toDigits 10 slice.toNat := by
  show (if slice = 0 then toString unit.toNat else s!"{unit.toNat}.{slice.toNat}").toList = _
  have point : (toString ".").toList = ['.'] := rfl
  split <;> simp [point]

/-- The characters of a text are upper-case letters, digits and a point. -/
theorem printable_of_mem_text (h : o.Legal) {c : Char} (mem : c ∈ o.text.toList) :
    46 ≤ c.toNat ∧ c.toNat ≤ 90 := by
  cases o with
  | menu =>
      obtain rfl : c = 'H' := by simpa [text] using mem
      decide
  | rom letter =>
      obtain rfl : c = letter := by simpa [text] using mem
      have least : 65 ≤ c.toNat := UInt32.le_iff_toNat_le.1 h.1
      have most : c.toNat ≤ 90 := UInt32.le_iff_toNat_le.1 h.2.1
      omega
  | disk unit slice =>
      have digit {n : Nat} (mem : c ∈ Nat.toDigits 10 n) : 46 ≤ c.toNat ∧ c.toNat ≤ 90 := by
        have within := digit_of_mem_toDigits mem
        omega
      rw [toList_text_disk] at mem
      split at mem
      · exact digit mem
      · rcases List.mem_append.1 mem with left | right
        · exact digit left
        · rcases List.mem_cons.1 right with rfl | right
          · decide
          · exact digit right

/-- **The text of a legal option names it.** -/
theorem parse?_text (h : o.Legal) : parse? o.text = some o := by
  have unblank : Text.trim o.text.toList = o.text.toList := by
    refine Text.trim_of_not_blank fun c mem => ?_
    have within := printable_of_mem_text h mem
    exact Blank.not_contains_of_printable (by omega) (by omega)
  rw [parse?, unblank]
  cases o with
  | menu => rfl
  | rom letter =>
      have upper : letter.isAlpha = true := isAlpha_iff.2 (.inl ⟨h.1, h.2.1⟩)
      have same : letter.toUpper = letter := by
        have most : letter.toNat ≤ 90 := UInt32.le_iff_toNat_le.1 h.2.1
        refine dif_neg fun lower => ?_
        have least : 97 ≤ letter.toNat := UInt32.le_iff_toNat_le.1 lower.1
        omega
      rw [text, String.toList_singleton, ofChars?, if_pos upper, same]
      exact congrArg some (if_neg h.2.2)
  | disk unit slice =>
      rw [toList_text_disk]
      split
      · next zero =>
          subst zero
          exact ofChars?_unit h
      · exact ofChars?_unit_slice h

end BootOption

namespace Nvram

/-- **A stored option is read back by its text.** -/
theorem setting_setBootOption (n : Nvram) {o : BootOption} (h : o.Legal) :
    (n.setBootOption o).setting = o.text := by
  have stored : (n.setBootOption o).bootOption = some o := by
    rw [bootOption, if_pos]
    · exact BootOption.decode?_encode h
    · simp [isValid, isInitialized, setBootOption, reseal, checksum]
  rw [setting, stored]

end Nvram

end BankedZ80
