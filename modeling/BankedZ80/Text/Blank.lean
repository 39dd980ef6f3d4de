import BankedZ80.Text.CharSet

/-!
# Blank characters and trimming

The Unicode property `White_Space`, and `Text.trim`, which removes such characters from both ends of
a text. `Blank.contains_ascii` lists its ASCII members.
-/

namespace BankedZ80

/-- The characters with the property `White_Space`. -/
def Blank : CharSet where
  bounds := [
    0x9, 0xE, 0x20, 0x21, 0x85, 0x86, 0xA0, 0xA1, 0x1680, 0x1681, 0x2000, 0x200B, 0x2028, 0x202A,
    0x202F, 0x2030, 0x205F, 0x2060, 0x3000, 0x3001]

/-- The six blank characters of ASCII. -/
theorem Blank.contains_ascii :
    ((List.range 128).map Char.ofNat).filter Blank.contains =
      ['\t', '\n', '\x0b', '\x0c', '\r', ' '] := by
  decide

/-- The printable characters of ASCII are not blank. -/
theorem Blank.not_contains_of_printable {c : Char} (least : 0x21 ≤ c.toNat) (most : c.toNat ≤ 0x7E) :
    Blank.contains c = false := by
  refine eq_false_of_ne_true fun blank => ?_
  have mem : c ∈ ((List.range 128).map Char.ofNat).filter Blank.contains :=
    List.mem_filter.2 ⟨List.mem_map.2 ⟨c.toNat, List.mem_range.2 (by omega), Char.ofNat_toNat c⟩, blank⟩
  rw [Blank.contains_ascii] at mem
  simp only [List.mem_cons, List.not_mem_nil, or_false] at mem
  rcases mem with rfl | rfl | rfl | rfl | rfl | rfl <;> exact absurd least (by decide)

/-- Remove blank characters from the front. -/
def Text.trimLeft (s : List Char) : List Char := s.dropWhile Blank.contains

/-- Remove blank characters from both ends. -/
def Text.trim (s : List Char) : List Char :=
  (Text.trimLeft (Text.trimLeft s).reverse).reverse

/-- A text without blanks is left alone. -/
theorem Text.trim_of_not_blank {s : List Char} (h : ∀ c ∈ s, Blank.contains c = false) :
    Text.trim s = s := by
  have front (s : List Char) (h : ∀ c ∈ s, Blank.contains c = false) : trimLeft s = s := by
    cases s with
    | nil => rfl
    | cons c rest => exact List.dropWhile_cons_of_neg (by simp [h c])
  rw [trim, front s h, front s.reverse (by simpa using h), List.reverse_reverse]

end BankedZ80
