import BankedZ80.CommandLine.Arguments
import BankedZ80.Proofs.Nvram.Grammar

/-!
# Disk arguments

`DiskArgument.Denotes` is the grammar: what stands before the first equals sign is a unit if it is a
numeral, however large, and any other text is a path.

The reader of numbers knows two more things, a plus sign and the limit of 64 bits
(`parseSize?_eq_some_iff`). So it takes a numeral after a plus sign as a unit, and a numeral that does
not fit is not reported but becomes part of a path: `DiskArgument.Misread`. All other texts are read
as the grammar says (`DiskArgument.parse_denotes_iff`).
-/

namespace BankedZ80

/-! ### Numbers of 64 bits -/

theorem Numeral.head_isDigit {c : Char} {s : List Char} {n : Nat} (h : Numeral (c :: s) n) :
    c.isDigit = true := h.isDigit c List.mem_cons_self

/-- There is no equals sign in a numeral. -/
theorem Numeral.not_mem_equals {s : List Char} {n : Nat} (h : Numeral s n) : '=' ∉ s := by
  intro mem
  exact absurd (h.isDigit '=' mem) (by decide)

/-- Digits without a plus sign are read as a numeral that fits. -/
theorem digits_eq_some_iff {s : List Char} {n : Nat} :
    (if s ≠ [] ∧ s.all Char.isDigit then
        if s.foldl (fun n c => 10 * n + (c.toNat - 48)) 0 < 2 ^ 64 then
          some (s.foldl (fun n c => 10 * n + (c.toNat - 48)) 0)
        else none
      else none) = some n ↔ Numeral s n ∧ n < 2 ^ 64 := by
  constructor
  · intro h
    obtain ⟨⟨ne, digits⟩, found⟩ := Option.ite_none_right_eq_some.1 h
    obtain ⟨fits, value⟩ := Option.ite_none_right_eq_some.1 found
    have numeral := Numeral.of_digits ne (List.all_eq_true.1 digits)
    rw [Option.some.inj value] at numeral fits
    exact ⟨numeral, fits⟩
  · rintro ⟨numeral, fits⟩
    rw [if_pos ⟨numeral.ne_nil, List.all_eq_true.2 numeral.isDigit⟩, numeral.value, if_pos fits]

/-- **What the reader of numbers accepts.** -/
theorem parseSize?_eq_some_iff {s : List Char} {n : Nat} :
    parseSize? s = some n ↔
      n < 2 ^ 64 ∧ (Numeral s n ∨ ∃ digits, s = '+' :: digits ∧ Numeral digits n) := by
  unfold parseSize?
  split
  · next digits =>
      rw [digits_eq_some_iff]
      constructor
      · rintro ⟨numeral, fits⟩
        exact ⟨fits, .inr ⟨digits, rfl, numeral⟩⟩
      · rintro ⟨fits, plain | ⟨other, eq, numeral⟩⟩
        · exact absurd plain.head_isDigit (by decide)
        · cases eq
          exact ⟨numeral, fits⟩
  · next unsigned =>
      rw [digits_eq_some_iff]
      constructor
      · rintro ⟨numeral, fits⟩
        exact ⟨fits, .inl numeral⟩
      · rintro ⟨fits, numeral | ⟨digits, eq, -⟩⟩
        · exact ⟨numeral, fits⟩
        · exact absurd eq (unsigned digits)

/-- A numeral that does not fit is not a number at all. -/
theorem parseSize?_of_large {s : List Char} {n : Nat} (h : Numeral s n) (large : 2 ^ 64 ≤ n) :
    parseSize? s = none := by
  apply Option.eq_none_iff_forall_ne_some.2
  intro k number
  obtain ⟨fits, plain | ⟨digits, rfl, -⟩⟩ := parseSize?_eq_some_iff.1 number
  · have value := h.value.symm.trans plain.value
    omega
  · exact absurd h.head_isDigit (by decide)

namespace DiskArgument

/-! ### The grammar -/

/-- **What a disk argument means**, or the number of a unit that does not exist. -/
inductive Denotes : List Char → Except Nat DiskArgument → Prop where
  | unit {digits path : List Char} {n : Nat} : Numeral digits n → n < maxUnits →
    Denotes (digits ++ '=' :: path) (.ok ⟨some n, String.ofList path⟩)
  | missing {digits path : List Char} {n : Nat} : Numeral digits n → maxUnits ≤ n →
    Denotes (digits ++ '=' :: path) (.error n)
  | whole {s : List Char} : (∀ digits path n, s = digits ++ '=' :: path → ¬Numeral digits n) →
    Denotes s (.ok ⟨none, String.ofList s⟩)

/-- Texts that are read otherwise. -/
inductive Misread : List Char → Prop where
  /-- A unit after a plus sign. -/
  | signed {digits path : List Char} {n : Nat} : Numeral digits n → n < 2 ^ 64 →
    Misread ('+' :: digits ++ '=' :: path)
  /-- The number of a unit that does not fit 64 bits. -/
  | oversized {digits path : List Char} {n : Nat} : Numeral digits n → 2 ^ 64 ≤ n →
    Misread (digits ++ '=' :: path)

variable {s front path : List Char} {n : Nat}

/-- The first equals sign of a text stands after as many characters as there are before it. -/
theorem splits_at_equals (h : '=' ∉ front) (path : List Char) :
    (front ++ '=' :: path).takeWhile (· ≠ '=') = front ∧
      (front ++ '=' :: path).dropWhile (· ≠ '=') = '=' :: path := by
  have plain : ∀ c ∈ front, decide (c ≠ '=') = true := by
    intro c mem
    exact decide_eq_true fun eq => h (eq ▸ mem)
  constructor
  · rw [List.takeWhile_append_of_pos plain, List.takeWhile_cons_of_neg (by simp), List.append_nil]
  · rw [List.dropWhile_append_of_pos plain, List.dropWhile_cons_of_neg (by simp)]

theorem front_unique {front' path' : List Char} (h : '=' ∉ front) (h' : '=' ∉ front')
    (same : front ++ '=' :: path = front' ++ '=' :: path') : front = front' ∧ path = path' := by
  obtain ⟨before, after⟩ := splits_at_equals h path
  obtain ⟨before', after'⟩ := splits_at_equals h' path'
  rw [same] at before after
  exact ⟨before.symm.trans before', (List.cons.inj (after.symm.trans after')).2⟩

/-- What stands before the first equals sign of a text decides what the text means. -/
theorem denotes_of_numeral {r : Except Nat DiskArgument} (numeral : Numeral front n) :
    Denotes (front ++ '=' :: path) r ↔
      r = if n < maxUnits then .ok ⟨some n, String.ofList path⟩ else .error n := by
  constructor
  · intro h
    generalize text : front ++ '=' :: path = s at h
    cases h with
    | unit other there =>
        obtain ⟨rfl, rfl⟩ := front_unique numeral.not_mem_equals other.not_mem_equals text
        have value := numeral.value.symm.trans other.value
        rw [value, if_pos there]
    | missing other there =>
        obtain ⟨rfl, rfl⟩ := front_unique numeral.not_mem_equals other.not_mem_equals text
        have value := numeral.value.symm.trans other.value
        rw [value, if_neg (Nat.not_lt.2 there)]
    | whole none_numeral => exact absurd numeral (none_numeral _ _ _ text.symm)
  · rintro rfl
    split
    · next there => exact .unit numeral there
    · next beyond => exact .missing numeral (Nat.le_of_not_lt beyond)

/-- A text without a numeral before its first equals sign is a path. -/
theorem denotes_of_not_numeral {r : Except Nat DiskArgument}
    (other : ∀ digits path n, s = digits ++ '=' :: path → ¬Numeral digits n) :
    Denotes s r ↔ r = .ok ⟨none, String.ofList s⟩ := by
  constructor
  · intro h
    cases h with
    | unit numeral _ => exact absurd numeral (other _ _ _ rfl)
    | missing numeral _ => exact absurd numeral (other _ _ _ rfl)
    | whole _ => rfl
  · rintro rfl
    exact .whole other

/-- A text means one thing. -/
theorem Denotes.unique {r r' : Except Nat DiskArgument} (h : Denotes s r) (h' : Denotes s r') :
    r = r' := by
  cases h with
  | unit numeral there => rw [(denotes_of_numeral numeral).1 h', if_pos there]
  | missing numeral beyond => rw [(denotes_of_numeral numeral).1 h', if_neg (Nat.not_lt.2 beyond)]
  | whole other => exact ((denotes_of_not_numeral other).1 h').symm

/-! ### The reader -/

/-- A text without an equals sign is a path. -/
theorem parse_of_not_mem {text : String} (h : '=' ∉ text.toList) : parse text = .ok ⟨none, text⟩ := by
  have none_left : text.toList.dropWhile (· ≠ '=') = [] := by
    apply List.dropWhile_eq_nil_iff.2
    intro c mem
    exact decide_eq_true fun eq => h (eq ▸ mem)
  unfold parse
  dsimp only
  rw [none_left]

/-- Otherwise the reader of numbers decides. -/
theorem parse_of_front {text : String} (split : text.toList = front ++ '=' :: path)
    (h : '=' ∉ front) :
    parse text =
      match parseSize? front with
      | none => .ok ⟨none, text⟩
      | some n => if n < maxUnits then .ok ⟨some n, String.ofList path⟩ else .error n := by
  obtain ⟨before, after⟩ := splits_at_equals h path
  cases number : parseSize? front <;>
    · unfold parse
      dsimp only
      rw [split, before, after]
      dsimp only
      rw [number]

/-- A text is read as a path unless a number stands before its first equals sign. -/
theorem parse_of_not_numeral {text : String}
    (other : ∀ front path n, text.toList = front ++ '=' :: path → parseSize? front ≠ some n) :
    parse text = .ok ⟨none, text⟩ := by
  by_cases h : '=' ∈ text.toList
  · obtain ⟨front, path, split, first⟩ := List.eq_append_cons_of_mem h
    have unread : parseSize? front = none :=
      Option.eq_none_iff_forall_ne_some.2 fun n => other front path n split
    rw [parse_of_front split first, unread]
  · exact parse_of_not_mem h

/-- **What the grammar says is read**, unless it is misread. By cases on what stands before the first
equals sign. -/
theorem denotes_parse {text : String} (h : ¬Misread text.toList) :
    Denotes text.toList (parse text) := by
  by_cases numeral : ∃ digits path n, text.toList = digits ++ '=' :: path ∧ Numeral digits n
  · obtain ⟨digits, path, n, split, numeral⟩ := numeral
    have fits : n < 2 ^ 64 := by
      apply Nat.lt_of_not_le
      intro large
      apply h
      rw [split]
      exact .oversized numeral large
    have number : parseSize? digits = some n := parseSize?_eq_some_iff.2 ⟨fits, .inl numeral⟩
    rw [parse_of_front split numeral.not_mem_equals, number, split]
    exact (denotes_of_numeral numeral).2 rfl
  · have other : ∀ digits path n, text.toList = digits ++ '=' :: path → ¬Numeral digits n :=
      fun digits path n split is => numeral ⟨digits, path, n, split, is⟩
    have whole : parse text = .ok ⟨none, text⟩ := by
      apply parse_of_not_numeral
      intro front path n split number
      obtain ⟨fits, is | ⟨digits, rfl, is⟩⟩ := parseSize?_eq_some_iff.1 number
      · exact other front path n split is
      · apply h
        rw [split]
        exact .signed is fits
    rw [whole]
    have path := (denotes_of_not_numeral other).2 rfl
    rw [String.ofList_toList] at path
    exact path

/-- A plus sign is no digit, so a text that begins with one is a path. -/
theorem not_numeral_of_signed {digits digits' path' : List Char}
    (h : '+' :: digits ++ '=' :: path = digits' ++ '=' :: path') : ¬Numeral digits' n := by
  intro numeral
  cases digits' with
  | nil => exact numeral.ne_nil rfl
  | cons c rest =>
      rw [List.cons_append, List.cons_append] at h
      have digit := numeral.head_isDigit
      rw [← (List.cons.inj h).1] at digit
      exact absurd digit (by decide)

/-- **What is misread** is read as something else than it means. -/
theorem not_denotes_parse {text : String} (h : Misread text.toList) :
    ¬Denotes text.toList (parse text) := by
  intro denotes
  generalize split : text.toList = s at h denotes
  cases h with
  | @signed digits path n numeral fits =>
      have first : '=' ∉ '+' :: digits := by
        intro mem
        rcases List.mem_cons.1 mem with sign | later
        · exact absurd sign (by decide)
        · exact numeral.not_mem_equals later
      have number : parseSize? ('+' :: digits) = some n :=
        parseSize?_eq_some_iff.2 ⟨fits, .inr ⟨digits, rfl, numeral⟩⟩
      have path := (denotes_of_not_numeral fun _ _ _ => not_numeral_of_signed).1 denotes
      rw [parse_of_front split first, number] at path
      dsimp only at path
      split at path <;> cases path
  | @oversized digits path n numeral large =>
      have missing := (denotes_of_numeral numeral).1 denotes
      have beyond : ¬n < maxUnits := Nat.not_lt.2 (Nat.le_trans (by decide) large)
      rw [parse_of_front split numeral.not_mem_equals, parseSize?_of_large numeral large,
        if_neg beyond] at missing
      cases missing

/-- A numeral that fits is not misread. -/
theorem not_misread_of_fits {digits : List Char} (numeral : Numeral digits n) (fits : n < 2 ^ 64)
    (path : List Char) : ¬Misread (digits ++ '=' :: path) := by
  intro h
  generalize text : digits ++ '=' :: path = s at h
  cases h with
  | signed other _ => exact not_numeral_of_signed text.symm numeral
  | oversized other large =>
      obtain ⟨rfl, -⟩ := front_unique numeral.not_mem_equals other.not_mem_equals text
      have value := numeral.value.symm.trans other.value
      omega

/-- **Disk arguments are read as the grammar says**, all but those that are misread. -/
theorem parse_denotes_iff (text : String) :
    (∀ r, parse text = r ↔ Denotes text.toList r) ↔ ¬Misread text.toList := by
  constructor
  · intro follows misread
    exact not_denotes_parse misread ((follows _).1 rfl)
  · intro fine r
    have denotes := denotes_parse fine
    constructor
    · rintro rfl
      exact denotes
    · intro other
      exact denotes.unique other

/-- A unit with a leading zero, and a path with an equals sign. -/
theorem leadingZero_read :
    ¬Misread "04=a=b".toList ∧ parse "04=a=b" = .ok ⟨some 4, "a=b"⟩ := by
  have numeral : Numeral "04".toList 4 := Numeral.of_digits (by decide) (List.all_eq_true.1 (by decide))
  have fine : ¬Misread "04=a=b".toList :=
    not_misread_of_fits numeral (by decide) "a=b".toList
  have unit : Denotes ("04".toList ++ '=' :: "a=b".toList) (.ok ⟨some 4, "a=b"⟩) :=
    .unit numeral (by decide)
  exact ⟨fine, ((parse_denotes_iff "04=a=b").2 fine _).2 unit⟩

/-- A unit beyond 64 bits is taken for a part of a path, and a sign for a part of a unit. -/
theorem sign_and_size_misread :
    (Denotes "18446744073709551616=x.img".toList (.error 18446744073709551616) ∧
      parse "18446744073709551616=x.img" = .ok ⟨none, "18446744073709551616=x.img"⟩) ∧
    (Denotes "+4=work.img".toList (.ok ⟨none, "+4=work.img"⟩) ∧
      parse "+4=work.img" = .ok ⟨some 4, "work.img"⟩) := by
  have large : Numeral "18446744073709551616".toList 18446744073709551616 :=
    Numeral.of_digits (by decide) (List.all_eq_true.1 (by decide))
  have missing : Denotes ("18446744073709551616".toList ++ '=' :: "x.img".toList) _ :=
    .missing large (by decide)
  have path : Denotes ('+' :: ['4'] ++ '=' :: "work.img".toList) _ :=
    .whole fun _ _ _ => not_numeral_of_signed
  exact ⟨⟨missing, by decide +kernel⟩, path, by decide +kernel⟩

end DiskArgument

end BankedZ80
