import BankedZ80.Proofs.Json.Lexing

/-!
# The order of texts is that of their bytes

UTF-8 keeps the order of characters: a longer sequence begins with a greater byte, and sequences of
one length are the digits of the character to the base of 64, the most significant first
(`KeepsOrder.continued`). So texts compare as their bytes do (`textBytes_lt_iff`).
-/

namespace BankedZ80

namespace Text

open Json (textBytes textBytes_eq)

/-- Sequences of bytes for the numbers below a bound, ordered as the numbers are whatever follows. -/
def KeepsOrder (bound : Nat) (encode : Nat → List UInt8) : Prop :=
  ∀ ⦃v w : Nat⦄, v < w → w < bound → ∀ rest rest', encode v ++ rest < encode w ++ rest'

theorem ofNat_lt_ofNat {a b : Nat} (h : a < b) (fits : b < 256) : UInt8.ofNat a < UInt8.ofNat b := by
  rw [UInt8.lt_iff_toNat_lt, UInt8.toNat_ofNat', UInt8.toNat_ofNat',
    Nat.mod_eq_of_lt (h.trans fits), Nat.mod_eq_of_lt fits]
  exact h

/-- A byte with the number in its low bits. -/
theorem keepsOrder_byte {count base : Nat} (fits : count + base ≤ 256) :
    KeepsOrder count fun v => [UInt8.ofNat (v % count + base)] := by
  intro v w less below rest rest'
  dsimp only
  rw [Nat.mod_eq_of_lt below, Nat.mod_eq_of_lt (less.trans below)]
  exact List.cons_lt_cons_iff.2 (.inl (ofNat_lt_ofNat (by omega) (by omega)))

/-- One more digit to the base of 64. -/
theorem KeepsOrder.continued {bound : Nat} {encode : Nat → List UInt8} (h : KeepsOrder bound encode) :
    KeepsOrder (64 * bound) fun v => encode (v / 64) ++ [UInt8.ofNat (v % 64 + 128)] := by
  intro v w less below rest rest'
  dsimp only
  rw [List.append_assoc, List.append_assoc]
  have first : v / 64 < w / 64 ∨ v / 64 = w / 64 ∧ v % 64 < w % 64 := by omega
  rcases first with first | ⟨same, last⟩
  · exact h first (by omega) _ _
  · rw [same]
    apply List.append_left_lt
    exact List.cons_lt_cons_iff.2 (.inl (ofNat_lt_ofNat (by omega) (by omega)))

theorem keepsOrder_two : KeepsOrder 2048 fun v =>
    [UInt8.ofNat (v / 64 % 32 + 192), UInt8.ofNat (v % 64 + 128)] :=
  (keepsOrder_byte (by decide : 32 + 192 ≤ 256)).continued

theorem keepsOrder_three : KeepsOrder 65536 fun v =>
    [UInt8.ofNat (v / 4096 % 16 + 224), UInt8.ofNat (v / 64 % 64 + 128),
      UInt8.ofNat (v % 64 + 128)] := by
  have digits := (keepsOrder_byte (by decide : 16 + 224 ≤ 256)).continued.continued
  simp only [Nat.div_div_eq_div_mul] at digits
  exact digits

theorem keepsOrder_four : KeepsOrder 2097152 fun v =>
    [UInt8.ofNat (v / 262144 % 8 + 240), UInt8.ofNat (v / 4096 % 64 + 128),
      UInt8.ofNat (v / 64 % 64 + 128), UInt8.ofNat (v % 64 + 128)] := by
  have digits := (keepsOrder_byte (by decide : 8 + 240 ≤ 256)).continued.continued.continued
  simp only [Nat.div_div_eq_div_mul] at digits
  exact digits

/-- **UTF-8 keeps the order of characters.** The cases are the lengths of the two sequences, of which
that of the greater character is not the shorter one. -/
theorem utf8EncodeChar_lt {c d : Char} (h : c < d) (rest rest' : List UInt8) :
    String.utf8EncodeChar c ++ rest < String.utf8EncodeChar d ++ rest' := by
  have less : c.val.toNat < d.val.toNat := UInt32.lt_iff_toNat_lt.1 h
  have bound : d.val.toNat < 1114112 := by
    have valid := d.valid
    unfold UInt32.isValidChar Nat.isValidChar at valid
    omega
  have longer {a b : Nat} {tail tail' : List UInt8} (first : a < b) (fits : b < 256) :
      UInt8.ofNat a :: tail ++ rest < UInt8.ofNat b :: tail' ++ rest' :=
    List.cons_lt_cons_iff.2 (.inl (ofNat_lt_ofNat first fits))
  unfold String.utf8EncodeChar
  dsimp only
  generalize c.val.toNat = v at less
  generalize d.val.toNat = w at less bound
  by_cases one : w ≤ 127
  · rw [if_pos one, if_pos (by omega)]
    exact longer less (by omega)
  rw [if_neg one]
  by_cases two : w ≤ 2047
  · rw [if_pos two]
    split_ifs
    · exact longer (by omega) (by omega)
    · exact keepsOrder_two less (by omega) _ _
    all_goals omega
  rw [if_neg two]
  by_cases three : w ≤ 65535
  · rw [if_pos three]
    split_ifs
    · exact longer (by omega) (by omega)
    · exact longer (by omega) (by omega)
    · exact keepsOrder_three less (by omega) _ _
    omega
  rw [if_neg three]
  split_ifs
  · exact longer (by omega) (by omega)
  · exact longer (by omega) (by omega)
  · exact longer (by omega) (by omega)
  · exact keepsOrder_four less (by omega) _ _

theorem flatMap_utf8EncodeChar_lt {s s' : List Char} (h : s < s') :
    s.flatMap String.utf8EncodeChar < s'.flatMap String.utf8EncodeChar := by
  induction h with
  | @nil c rest =>
      rw [List.flatMap_nil, List.flatMap_cons]
      cases bytes : String.utf8EncodeChar c with
      | nil => exact absurd bytes String.utf8EncodeChar_ne_nil
      | cons b more => exact List.nil_lt_cons b _
  | @cons c rest rest' _ ih =>
      rw [List.flatMap_cons, List.flatMap_cons]
      exact List.append_left_lt ih
  | @rel c rest d rest' less =>
      rw [List.flatMap_cons, List.flatMap_cons]
      exact utf8EncodeChar_lt less _ _

/-- **Texts compare as their bytes do.** -/
theorem textBytes_lt_iff {a b : String} : textBytes a < textBytes b ↔ a < b := by
  have keeps {a b : String} (h : a < b) : textBytes a < textBytes b := by
    rw [textBytes_eq, textBytes_eq]
    exact flatMap_utf8EncodeChar_lt (String.lt_iff.1 h)
  constructor
  · intro less
    by_cases greater : b < a
    · exact absurd (keeps greater) (List.lt_asymm less)
    · by_cases lower : a < b
      · exact lower
      · have same := String.le_antisymm (String.not_lt.1 greater) (String.not_lt.1 lower)
        rw [same] at less
        exact absurd less (List.lt_irrefl _)
  · exact keeps

theorem textBytes_le_iff {a b : String} : textBytes a ≤ textBytes b ↔ a ≤ b := by
  rw [← List.not_lt, ← String.not_lt, textBytes_lt_iff]

end Text

end BankedZ80
