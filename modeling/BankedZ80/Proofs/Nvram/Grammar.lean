import BankedZ80.Proofs.Nvram.Record

/-!
# The grammar of boot options

`BootOption.Denotes` is the grammar: a letter, a unit, or a unit and a slice joined by a point, with
`Numeral` for the numbers. The parser reads a text as what its characters denote, blanks around them
ignored (`BootOption.parse?_eq_some_iff`), and refuses all other texts.
-/

namespace BankedZ80

/-! ### Trimming -/

/-- The characters of a text without the blanks around them. -/
structure Text.Trimmed (s t : List Char) : Prop where
  blanks : ∃ before after, s = before ++ t ++ after ∧
    (∀ c ∈ before, Blank.contains c = true) ∧ ∀ c ∈ after, Blank.contains c = true
  first : ∀ c ∈ t.head?, Blank.contains c = false
  last : ∀ c ∈ t.getLast?, Blank.contains c = false

/-- What stops a search is not passed over. -/
theorem not_of_dropWhile {p : Char → Bool} {s rest : List Char} {c : Char}
    (h : s.dropWhile p = c :: rest) : p c = false := by
  have first := List.head?_dropWhile_not p s
  rw [h] at first
  exact first

theorem Text.trimmed_trim (s : List Char) : Text.Trimmed s (Text.trim s) := by
  obtain ⟨u, front⟩ : ∃ u, u = s.dropWhile Blank.contains := ⟨_, rfl⟩
  have trim : Text.trim s = (u.reverse.dropWhile Blank.contains).reverse := by
    rw [front]
    rfl
  have back : u = (u.reverse.dropWhile Blank.contains).reverse ++
      (u.reverse.takeWhile Blank.contains).reverse := by
    rw [← List.reverse_append, List.takeWhile_append_dropWhile, List.reverse_reverse]
  rw [trim]
  constructor
  case blanks =>
    refine ⟨s.takeWhile Blank.contains, (u.reverse.takeWhile Blank.contains).reverse, ?_, ?_, ?_⟩
    · rw [List.append_assoc, ← back, front, List.takeWhile_append_dropWhile]
    · exact fun c mem => List.mem_takeWhile_imp mem
    · exact fun c mem => List.mem_takeWhile_imp (List.mem_reverse.1 mem)
  case first =>
    intro c mem
    obtain ⟨rest, head⟩ := List.head?_eq_some_iff.1 mem
    rw [head] at back
    exact not_of_dropWhile (front.symm.trans back)
  case last =>
    intro c mem
    rw [List.getLast?_reverse] at mem
    obtain ⟨rest, head⟩ := List.head?_eq_some_iff.1 mem
    exact not_of_dropWhile head

/-! ### Numerals -/

/-- Decimal numerals and their values, with any number of leading zeros. -/
inductive Numeral : List Char → Nat → Prop where
  | digit {c : Char} : c.isDigit = true → Numeral [c] (c.toNat - 48)
  | more {s : List Char} {n : Nat} {c : Char} :
    Numeral s n → c.isDigit = true → Numeral (s ++ [c]) (10 * n + (c.toNat - 48))

namespace Numeral

variable {s : List Char} {n : Nat}

theorem isDigit (h : Numeral s n) : ∀ c ∈ s, c.isDigit = true := by
  induction h with
  | digit digit => simpa using digit
  | more _ digit ih =>
      intro c mem
      rcases List.mem_append.1 mem with before | last
      · exact ih c before
      · rw [List.mem_singleton.1 last]
        exact digit

theorem ne_nil (h : Numeral s n) : s ≠ [] := by
  cases h <;> simp

/-- There is no point in a numeral. -/
theorem ne_point (h : Numeral s n) : ∀ c ∈ s, decide (c ≠ '.') = true := by
  intro c mem
  refine decide_eq_true ?_
  rintro rfl
  exact absurd (h.isDigit '.' mem) (by decide)

theorem value (h : Numeral s n) : s.foldl (fun n c => 10 * n + (c.toNat - 48)) 0 = n := by
  induction h with
  | digit _ => exact Nat.zero_add _
  | more _ _ ih => rw [List.foldl_append, ih]; rfl

theorem of_digits (ne : s ≠ []) (digits : ∀ c ∈ s, c.isDigit = true) :
    Numeral s (s.foldl (fun n c => 10 * n + (c.toNat - 48)) 0) := by
  induction s using List.reverseRecOn with
  | nil => exact absurd rfl ne
  | append_singleton s c ih =>
      have last : c.isDigit = true := digits c (by simp)
      rw [List.foldl_append]
      rcases eq_or_ne s [] with rfl | some_digits
      · have one := digit last
        rw [← Nat.zero_add (c.toNat - 48)] at one
        exact one
      · exact more (ih some_digits fun c mem => digits c (List.mem_append_left _ mem)) last

end Numeral

namespace BootOption

/-- **The grammar of boot options**: which characters denote which option. -/
inductive Denotes : List Char → BootOption → Prop where
  | menu {c : Char} : c = 'h' ∨ c = 'H' → Denotes [c] menu
  | rom {c : Char} : ('A' ≤ c ∧ c ≤ 'Z') ∨ ('a' ≤ c ∧ c ≤ 'z') → c ≠ 'h' → c ≠ 'H' →
    Denotes [c] (rom c.toUpper)
  | unit {s : List Char} {unit : UInt8} :
    Numeral s unit.toNat → unit.toNat < 16 → Denotes s (disk unit 0)
  | slice {s s' : List Char} {unit slice : UInt8} :
    Numeral s unit.toNat → Numeral s' slice.toNat → unit.toNat < 16 → slice.toNat < 128 →
    Denotes (s ++ '.' :: s') (disk unit slice)

variable {s s' : List Char} {o : BootOption}

theorem digitsValue?_eq_some_iff {n : Nat} : digitsValue? s = some n ↔ Numeral s n := by
  unfold digitsValue?
  constructor
  · intro h
    obtain ⟨⟨ne, digits⟩, value⟩ := Option.ite_none_right_eq_some.1 h
    rw [← Option.some.inj value]
    exact Numeral.of_digits ne (List.all_eq_true.1 digits)
  · intro h
    rw [if_pos ⟨h.ne_nil, List.all_eq_true.2 h.isDigit⟩, h.value]

theorem parseDisk?_eq_some_iff :
    parseDisk? s s' = some o ↔ ∃ unit slice : UInt8, Numeral s unit.toNat ∧ Numeral s' slice.toNat ∧
      unit.toNat < 16 ∧ slice.toNat < 128 ∧ o = disk unit slice := by
  simp only [parseDisk?, bind, Option.bind_eq_some_iff, digitsValue?_eq_some_iff]
  constructor
  · rintro ⟨u, unit, v, slice, h⟩
    obtain ⟨⟨there, within⟩, found⟩ := Option.ite_none_right_eq_some.1 h
    have sameUnit : u.toUInt8.toNat = u := Nat.mod_eq_of_lt (Nat.lt_trans there (by decide))
    have sameSlice : v.toUInt8.toNat = v := Nat.mod_eq_of_lt (Nat.lt_of_le_of_lt within (by decide))
    refine ⟨u.toUInt8, v.toUInt8, ?_, ?_, ?_, ?_, (Option.some.inj found).symm⟩
    · rw [sameUnit]
      exact unit
    · rw [sameSlice]
      exact slice
    · rw [sameUnit]
      exact there
    · rw [sameSlice]
      exact Nat.lt_succ_of_le within
  · rintro ⟨unit, slice, isUnit, isSlice, there, within, rfl⟩
    refine ⟨_, isUnit, _, isSlice, ?_⟩
    rw [if_pos ⟨there, Nat.le_of_lt_succ within⟩, Nat.toUInt8_eq, Nat.toUInt8_eq, UInt8.ofNat_toNat,
      UInt8.ofNat_toNat]

/-- A unit alone is read as its first slice. -/
theorem parseDisk?_unit :
    parseDisk? s ['0'] = some o ↔
      ∃ unit : UInt8, Numeral s unit.toNat ∧ unit.toNat < 16 ∧ o = disk unit 0 := by
  have zero : Numeral ['0'] (0 : UInt8).toNat := .digit rfl
  rw [parseDisk?_eq_some_iff]
  constructor
  · rintro ⟨unit, slice, isUnit, isSlice, there, -, rfl⟩
    have same : slice = 0 := UInt8.toNat_inj.1 (isSlice.value.symm.trans zero.value)
    exact ⟨unit, isUnit, there, by rw [same]⟩
  · rintro ⟨unit, isUnit, there, rfl⟩
    exact ⟨unit, 0, isUnit, zero, there, by decide, rfl⟩

/-! ### Letters -/

theorem toUpper_eq_menu_iff {c : Char} (letter : c.isAlpha = true) :
    c.toUpper = 'H' ↔ c = 'h' ∨ c = 'H' := by
  have all : ∀ k : Fin 128, (Char.ofNat k).toUpper = 'H' ↔ Char.ofNat k = 'h' ∨ Char.ofNat k = 'H' := by
    decide +kernel
  have ascii : c.toNat < 128 := by
    rcases isAlpha_iff.1 letter with upper | lower
    · exact Nat.lt_of_le_of_lt upper.2 (by decide)
    · exact Nat.lt_of_le_of_lt lower.2 (by decide)
  have this := all ⟨c.toNat, ascii⟩
  rw [Char.ofNat_toNat] at this
  exact this

theorem not_isAlpha_of_isDigit {c : Char} (digit : c.isDigit = true) : ¬c.isAlpha = true := by
  intro letter
  have least := le_toNat_of_isAlpha letter
  unfold Char.isDigit at digit
  simp only [Bool.and_eq_true, decide_eq_true_eq] at digit
  have most : c.toNat ≤ 57 := UInt32.le_iff_toNat_le.1 digit.2
  omega

theorem denotes_letter {c : Char} (letter : c.isAlpha = true) :
    Denotes [c] (if c.toUpper = 'H' then menu else rom c.toUpper) := by
  split
  · next isMenu => exact .menu ((toUpper_eq_menu_iff letter).1 isMenu)
  · next other =>
      obtain ⟨lower, upper⟩ := not_or.1 (mt (toUpper_eq_menu_iff letter).2 other)
      exact .rom (isAlpha_iff.1 letter) lower upper

/-! ### The parser -/

/-- What is read is in the grammar. By cases on the parser. -/
theorem denotes_of_ofChars? (h : ofChars? s = some o) : Denotes s o := by
  unfold ofChars? at h
  split at h
  · next c =>
      split at h
      · next letter =>
          cases h
          exact denotes_letter letter
      · obtain ⟨unit, isUnit, there, rfl⟩ := parseDisk?_unit.1 h
        exact .unit isUnit there
  · split at h
    · obtain ⟨unit, isUnit, there, rfl⟩ := parseDisk?_unit.1 h
      exact .unit isUnit there
    · next c rest found =>
        have point : c = '.' := by simpa using not_of_dropWhile found
        have whole : s = s.takeWhile (· ≠ '.') ++ '.' :: rest := by
          rw [point] at found
          rw [← found, List.takeWhile_append_dropWhile]
        obtain ⟨unit, slice, isUnit, isSlice, there, within, rfl⟩ := parseDisk?_eq_some_iff.1 h
        rw [whole]
        exact .slice isUnit isSlice there within

/-- What is in the grammar is read. By cases on the grammar. -/
theorem ofChars?_of_denotes (h : Denotes s o) : ofChars? s = some o := by
  cases h with
  | menu letter => rcases letter with rfl | rfl <;> rfl
  | rom letter lower upper =>
      have isAlpha := isAlpha_iff.2 letter
      have other := mt (toUpper_eq_menu_iff isAlpha).1 (not_or.2 ⟨lower, upper⟩)
      rw [ofChars?, if_pos isAlpha]
      exact congrArg some (if_neg other)
  | unit isUnit there =>
      have parsed := parseDisk?_unit.2 ⟨_, isUnit, there, rfl⟩
      unfold ofChars?
      split
      · next c =>
          rw [if_neg (not_isAlpha_of_isDigit (isUnit.isDigit c (List.mem_singleton_self c)))]
          exact parsed
      · rw [List.dropWhile_eq_nil_iff.2 isUnit.ne_point]
        exact parsed
  | slice isUnit isSlice there within =>
      have parsed := parseDisk?_eq_some_iff.2 ⟨_, _, isUnit, isSlice, there, within, rfl⟩
      unfold ofChars?
      split
      · next c one =>
          -- The numeral before the point and the point are two characters.
          have length := congrArg List.length one
          have digits := List.length_pos_of_ne_nil isUnit.ne_nil
          simp only [List.length_append, List.length_cons, List.length_nil] at length
          omega
      · rw [List.dropWhile_append_of_pos isUnit.ne_point, List.takeWhile_append_of_pos isUnit.ne_point]
        simp [parsed]

/-- **The parser reads exactly the grammar**, blanks around a text ignored. -/
theorem parse?_eq_some_iff (s : String) (o : BootOption) :
    parse? s = some o ↔ Denotes (Text.trim s.toList) o :=
  ⟨denotes_of_ofChars?, ofChars?_of_denotes⟩

end BootOption

namespace Nvram

/-- What is made of a text as a setting. -/
structure Reads (s : String) : Prop where
  trimmed : Text.Trimmed s.toList (Text.trim s.toList)
  parsed (o : BootOption) : BootOption.parse? s = some o ↔ BootOption.Denotes (Text.trim s.toList) o
  /-- An option that is read is printed as a text that is read as this option and printed as it is. -/
  printed (o : BootOption) : BootOption.parse? s = some o →
    BootOption.parse? o.text = some o ∧
      (BootOption.parse? o.text).map BootOption.text = some o.text
  /-- Any other text is refused, and the record with its flag is left as it was. -/
  refused : (∀ o, ¬BootOption.Denotes (Text.trim s.toList) o) → ∀ n : Nvram,
    n.setSetting s = .error (.invalidBootOption s) ∧ n.after (.set s) = n

theorem setSetting_of_refused {s : String} (refused : BootOption.parse? s = none) (n : Nvram) :
    n.setSetting s = .error (.invalidBootOption s) ∧ n.after (.set s) = n := by
  have failed : n.setSetting s = .error (.invalidBootOption s) := by rw [setSetting, refused]
  refine ⟨failed, ?_⟩
  rw [Nvram.after, failed]

/-- **Texts of boot options**, for all texts. -/
theorem reads_grammar (s : String) : Reads s where
  trimmed := Text.trimmed_trim s.toList
  parsed := BootOption.parse?_eq_some_iff s
  printed o h := by
    have again := BootOption.parse?_text (BootOption.legal_of_parse? h)
    exact ⟨again, congrArg (Option.map BootOption.text) again⟩
  refused none_denoted n := by
    refine setSetting_of_refused ?_ n
    rw [Option.eq_none_iff_forall_ne_some]
    exact fun o h => none_denoted o ((BootOption.parse?_eq_some_iff s o).1 h)

end Nvram

end BankedZ80
