import BankedZ80.Json.Printer
import BankedZ80.Json.Token
import BankedZ80.Proofs.Nvram.BootOption

/-!
# Printed parts are cut into tokens

What the printer writes for a string, a number, a word or a mark is cut into one token, and blanks
into none. `CutsInto text tokens rest` says this of a text that stands before `rest`; such facts are
put together with `CutsInto.append`.

* `cutsInto_string`: the escapes of a string are undone byte by byte, whatever the text.
* `cutsInto_number`: a number ends where a mark or a line feed follows (`EndsValue`).
-/

namespace BankedZ80.Json

open BootOption (digit_of_mem_toDigits)

variable {text text' rest : List UInt8} {tokens tokens' : List Token} {b : UInt8}

/-! ### Cutting -/

/-- Before `rest`, a text is cut into tokens and nothing of `rest` is lost. -/
def CutsInto (text : List UInt8) (tokens : List Token) (rest : List UInt8) : Prop :=
  ∀ before fuel, (text ++ rest).length ≤ fuel → ∃ left, rest.length ≤ left ∧
    Token.from? before (text ++ rest) fuel = Token.from? (tokens.reverse ++ before) rest left

namespace CutsInto

theorem nil : CutsInto [] [] rest := fun _ fuel enough => ⟨fuel, enough, rfl⟩

theorem append (first : CutsInto text tokens (text' ++ rest)) (second : CutsInto text' tokens' rest) :
    CutsInto (text ++ text') (tokens ++ tokens') rest := by
  intro before fuel enough
  rw [List.append_assoc] at enough ⊢
  obtain ⟨left, enough', cut⟩ := first before fuel enough
  obtain ⟨left', enough'', cut'⟩ := second (tokens.reverse ++ before) left enough'
  refine ⟨left', enough'', ?_⟩
  rw [cut, cut', List.reverse_append, List.append_assoc]

theorem blank (h : isBlank b = true) : CutsInto [b] [] rest := by
  intro before fuel enough
  obtain ⟨left, rfl⟩ : ∃ left, fuel = left + 1 := Nat.exists_eq_add_one.2 (Nat.lt_of_lt_of_le (by simp) enough)
  refine ⟨left, Nat.le_of_succ_le_succ enough, ?_⟩
  show Token.from? before (b :: rest) (left + 1) = _
  rw [Token.from?, if_pos h]
  rfl

theorem blanks (h : ∀ b ∈ text, isBlank b = true) : CutsInto text [] rest := by
  induction text with
  | nil => exact nil
  | cons b text ih =>
      have first : CutsInto [b] [] (text ++ rest) := blank (h b List.mem_cons_self)
      exact first.append (ih fun b mem => h b (List.mem_cons_of_mem _ mem))

/-- A text that begins with a token, and ends with it. -/
theorem token {t : Token} (visible : isBlank b = false)
    (next : Token.next? (b :: text ++ rest) = some (t, rest)) : CutsInto (b :: text) [t] rest := by
  intro before fuel enough
  obtain ⟨left, rfl⟩ : ∃ left, fuel = left + 1 := Nat.exists_eq_add_one.2 (Nat.lt_of_lt_of_le (by simp) enough)
  refine ⟨left, ?_, ?_⟩
  · simp only [List.cons_append, List.length_cons, List.length_append] at enough
    omega
  · rw [List.cons_append] at next ⊢
    rw [Token.from?, if_neg (by rw [visible]; decide), next]
    rfl

/-- The tokens of a text are what it is cut into. -/
theorem all? (h : CutsInto text tokens []) : Token.all? text = some tokens := by
  obtain ⟨left, -, cut⟩ := h [] text.length (by rw [List.append_nil])
  rw [List.append_nil, List.append_nil] at cut
  rw [Token.all?, cut]
  cases left <;> simp [Token.from?]

end CutsInto

/-- A line feed with its indentation. -/
theorem cutsInto_newLine (level : Nat) : CutsInto (newLine level) [] rest := by
  refine .blanks fun b mem => ?_
  rcases List.mem_cons.1 mem with rfl | mem
  · rfl
  · rw [List.eq_of_mem_replicate mem]
    rfl

/-! ### UTF-8 -/

theorem textBytes_eq (s : String) : textBytes s = s.toList.flatMap String.utf8EncodeChar := by
  have bytes : s.toUTF8 = s.toList.utf8Encode := by
    rw [String.toUTF8_eq_toByteArray, ← String.toByteArray_ofList, String.ofList_toList]
  rw [textBytes, bytes, Bytes.toList, List.utf8Encode, List.data_toByteArray]

theorem fromUTF8?_textBytes (s : String) : String.fromUTF8? (Bytes.ofList (textBytes s)) = some s := by
  rw [textBytes, Bytes.ofList_toList, String.fromUTF8?, String.toUTF8_eq_toByteArray,
    dif_pos s.isValidUTF8]
  rfl

/-! ### Strings -/

/-- What the escaped form of a byte is read as. -/
def escapedPiece (b : UInt8) : Piece :=
  if b < 0x20 ∧ b ∉ [0x08, 0x09, 0x0A, 0x0C, 0x0D] then .unit b.toNat else .byte b

theorem hexUnit?_hexDigitByte (h : b < 0x20) :
    hexUnit? 0x30 0x30 (hexDigitByte (b.toNat / 16)) (hexDigitByte (b.toNat % 16)) =
      some b.toNat := by
  have all : ∀ n : Fin 32, hexUnit? 0x30 0x30 (hexDigitByte (n / 16)) (hexDigitByte (n % 16)) =
    some n.val := by decide
  exact all ⟨b.toNat, UInt8.lt_iff_toNat_lt.1 h⟩

/-- A byte that is escaped by a letter. -/
theorem stringBody?_letter (pieces : List Piece) {e v : UInt8} (letter : escapedByte? e = some v)
    (rest : List UInt8) :
    stringBody? pieces (0x5C :: e :: rest) = stringBody? (.byte v :: pieces) rest := by
  have other : e ≠ 0x75 := by
    rintro rfl
    cases letter
  rw [stringBody?.eq_def]
  dsimp only
  rw [if_neg (by decide), if_pos rfl, if_neg other, letter]
  rfl

/-- **An escaped byte** is read as its piece. -/
theorem stringBody?_escapeByte (pieces : List Piece) (b : UInt8) (rest : List UInt8) :
    stringBody? pieces (escapeByte b ++ rest) = stringBody? (escapedPiece b :: pieces) rest := by
  unfold escapeByte
  split
  · next marked =>
      rcases marked with rfl | rfl
      · exact stringBody?_letter pieces rfl rest
      · exact stringBody?_letter pieces rfl rest
  split
  · next same => exact same ▸ stringBody?_letter pieces rfl rest
  split
  · next same => exact same ▸ stringBody?_letter pieces rfl rest
  split
  · next same => exact same ▸ stringBody?_letter pieces rfl rest
  split
  · next same => exact same ▸ stringBody?_letter pieces rfl rest
  split
  · next same => exact same ▸ stringBody?_letter pieces rfl rest
  split
  · next low =>
      have piece : escapedPiece b = .unit b.toNat := by simp [escapedPiece, *]
      rw [piece, stringBody?.eq_def]
      show (do let u ← hexUnit? 0x30 0x30 (hexDigitByte (b.toNat / 16)) (hexDigitByte (b.toNat % 16))
               stringBody? (.unit u :: pieces) rest) = _
      rw [hexUnit?_hexDigitByte low]
      rfl
  · next unmarked _ _ _ _ _ high =>
      have piece : escapedPiece b = .byte b := if_neg fun low => high low.1
      obtain ⟨quote, backslash⟩ := not_or.1 unmarked
      rw [piece, List.singleton_append, stringBody?.eq_def]
      dsimp only
      rw [if_neg quote, if_neg backslash, if_neg high]

theorem stringBody?_escaped (pieces : List Piece) (bytes rest : List UInt8) :
    stringBody? pieces (bytes.flatMap escapeByte ++ 0x22 :: rest) =
      some (pieces.reverse ++ bytes.map escapedPiece, rest) := by
  induction bytes generalizing pieces with
  | nil =>
      rw [List.flatMap_nil, List.nil_append, stringBody?.eq_def, List.map_nil, List.append_nil]
      rfl
  | cons b bytes ih =>
      rw [List.flatMap_cons, List.append_assoc, stringBody?_escapeByte, ih, List.reverse_cons,
        List.append_assoc]
      rfl

/-- The piece of a byte stands for this byte. -/
theorem pieceBytes?_escapedPiece (bytes : List UInt8) (b : UInt8) (pieces : List Piece) :
    pieceBytes? bytes (escapedPiece b :: pieces) = pieceBytes? (b :: bytes) pieces := by
  unfold escapedPiece
  split
  · next control =>
      -- A control character is none of a surrogate pair, and one byte long.
      have all : ∀ n : Fin 32, isHighSurrogate n = false ∧ isLowSurrogate n = false ∧
        utf8 n = [n.val.toUInt8] := by decide
      obtain ⟨high, low, bytes⟩ := all ⟨b.toNat, UInt8.lt_iff_toNat_lt.1 control.1⟩
      dsimp only at high low bytes
      rw [pieceBytes?.eq_def]
      dsimp only
      rw [high, low, bytes, Nat.toUInt8_eq, UInt8.ofNat_toNat]
      rfl
  · rw [pieceBytes?]

theorem pieceBytes?_escaped (bytes bytes' : List UInt8) :
    pieceBytes? bytes (bytes'.map escapedPiece) = some (bytes.reverse ++ bytes') := by
  induction bytes' generalizing bytes with
  | nil => rw [List.map_nil, pieceBytes?, List.append_nil]
  | cons b rest ih =>
      rw [List.map_cons, pieceBytes?_escapedPiece, ih, List.reverse_cons, List.append_assoc]
      rfl

/-- **A quoted text is a token** that holds this text. -/
theorem cutsInto_string (s : String) : CutsInto (quotedBytes s) [.string (some s)] rest := by
  have shape : quotedBytes s = 0x22 :: ((textBytes s).flatMap escapeByte ++ [0x22]) := rfl
  rw [shape]
  refine .token rfl ?_
  have read : stringBody? [] ((textBytes s).flatMap escapeByte ++ [0x22] ++ rest) =
      some ((textBytes s).map escapedPiece, rest) := by
    rw [List.append_assoc]
    exact stringBody?_escaped [] (textBytes s) rest
  have text : pieceText? ((textBytes s).map escapedPiece) = some s := by
    rw [pieceText?, pieceBytes?_escaped]
    exact fromUTF8?_textBytes s
  show (stringBody? [] ((textBytes s).flatMap escapeByte ++ [0x22] ++ rest)).map _ = _
  rw [read]
  exact congrArg (fun t => some (Token.string t, rest)) text

/-! ### Numbers -/

/-- What follows a value that is printed: nothing, a comma or a line feed. -/
def EndsValue (rest : List UInt8) : Prop := ∀ b ∈ rest.head?, b = 0x2C ∨ b = 0x0A

theorem endsValue_newLine (level : Nat) : EndsValue (newLine level ++ rest) := by
  intro b first
  exact .inr (Option.some.inj first).symm

/-- The digits of a number in decimal, as bytes. -/
def digitBytes (n : Nat) : List UInt8 := (Nat.toDigits 10 n).map fun c => c.toNat.toUInt8

theorem toNat_digitByte {n : Nat} {c : Char} (mem : c ∈ Nat.toDigits 10 n) :
    c.toNat.toUInt8.toNat = c.toNat := by
  have within := digit_of_mem_toDigits mem
  exact Nat.mod_eq_of_lt (by omega)

theorem textBytes_toString (n : Nat) : textBytes (toString n) = digitBytes n := by
  rw [textBytes_eq, Nat.toString_eq_repr, Nat.toList_repr, digitBytes, List.map_eq_flatMap]
  refine List.flatMap_congr fun c mem => ?_
  have within := digit_of_mem_toDigits mem
  have ascii : c.val.toNat ≤ 0x7F := by
    show c.toNat ≤ 0x7F
    omega
  exact if_pos ascii

theorem isDigit_of_mem_digitBytes {n : Nat} (mem : b ∈ digitBytes n) : isDigit b = true := by
  obtain ⟨c, digit, rfl⟩ := List.mem_map.1 mem
  have within := digit_of_mem_toDigits digit
  have value := toNat_digitByte digit
  rw [isDigit, Bool.and_eq_true, decide_eq_true_iff, decide_eq_true_iff, UInt8.le_iff_toNat_le,
    UInt8.le_iff_toNat_le, value]
  exact within

/-- The digits of a number have its value. -/
theorem digitsValue_digitBytes (n : Nat) : digitsValue (digitBytes n) = n := by
  have same (cs : List Char) (digits : ∀ c ∈ cs, c ∈ Nat.toDigits 10 n) (init : Nat) :
      (cs.map fun c => c.toNat.toUInt8).foldl (fun n b => 10 * n + (b.toNat - 0x30)) init =
        Nat.ofDigitChars 10 cs init := by
    induction cs generalizing init with
    | nil => rfl
    | cons c cs ih =>
        rw [List.map_cons, List.foldl_cons, toNat_digitByte (digits c List.mem_cons_self),
          Nat.ofDigitChars_cons]
        exact ih (fun c mem => digits c (List.mem_cons_of_mem _ mem)) _
  rw [digitsValue, digitBytes, same _ fun _ mem => mem]
  exact Nat.ofDigitChars_ten_toDigits

/-- The digits of a number begin with a zero for zero only. -/
theorem head?_digitBytes {n : Nat} (zero : (digitBytes n).head? = some 0x30) :
    digitBytes n = [0x30] := by
  have first (n : Nat) (h : (Nat.toDigits 10 n).head? = some '0') : n = 0 := by
    induction n using Nat.strongRecOn with
    | ind n ih =>
        by_cases small : n < 10
        · rw [Nat.toDigits_of_lt_base small] at h
          have all : ∀ n : Fin 10, [n.val.digitChar].head? = some '0' → n.val = 0 := by decide
          exact all ⟨n, small⟩ h
        · rw [Nat.toDigits_of_base_le (by decide) (Nat.not_lt.1 small),
            List.head?_append_of_ne_nil _ Nat.toDigits_ne_nil] at h
          have zero := ih (n / 10) (by omega) h
          omega
  have digit : (Nat.toDigits 10 n).head? = some '0' := by
    rw [digitBytes, List.head?_map, Option.map_eq_some_iff] at zero
    obtain ⟨c, head, byte⟩ := zero
    have value := toNat_digitByte (List.mem_of_mem_head? head)
    rw [byte] at value
    rw [head, ← Char.ofNat_toNat c, ← value]
    rfl
  rw [first n digit]
  rfl

theorem skipFraction?_of_endsValue (h : EndsValue rest) : skipFraction? rest = some (false, rest) := by
  cases rest with
  | nil => rfl
  | cons b rest => rcases h b rfl with rfl | rfl <;> rfl

theorem skipExponent?_of_endsValue (h : EndsValue rest) : skipExponent? rest = some (false, rest) := by
  cases rest with
  | nil => rfl
  | cons b rest => rcases h b rfl with rfl | rfl <;> rfl

theorem span_digitBytes (n : Nat) (h : EndsValue rest) :
    (digitBytes n ++ rest).span isDigit = (digitBytes n, rest) := by
  have digits : ∀ b ∈ digitBytes n, isDigit b = true := fun b => isDigit_of_mem_digitBytes
  have stop : rest.takeWhile isDigit = [] ∧ rest.dropWhile isDigit = rest := by
    cases rest with
    | nil => exact ⟨rfl, rfl⟩
    | cons b rest => rcases h b rfl with rfl | rfl <;> exact ⟨rfl, rfl⟩
  rw [List.span_eq_takeWhile_dropWhile, List.takeWhile_append_of_pos digits,
    List.dropWhile_append_of_pos digits, stop.1, stop.2, List.append_nil]

theorem number?_digitBytes (n : Nat) (h : EndsValue rest) :
    number? false (digitBytes n ++ rest) = some (.number (some n), rest) := by
  have some_digits : digitBytes n ≠ [] := by simp [digitBytes]
  have plain : ¬(digitBytes n = [] ∨ (digitBytes n).head? = some 0x30 ∧ digitBytes n ≠ [0x30]) := by
    rintro (none | ⟨zero, more⟩)
    · exact some_digits none
    · exact more (head?_digitBytes zero)
  rw [number?, span_digitBytes n h]
  dsimp only
  rw [if_neg plain, skipFraction?_of_endsValue h]
  simp only [Option.pure_def, Option.bind_eq_bind, Option.bind_some, skipExponent?_of_endsValue h]
  rw [digitsValue_digitBytes]
  rfl

/-- A digit begins a number. -/
theorem next?_of_isDigit (h : isDigit b = true) (rest : List UInt8) :
    isBlank b = false ∧ Token.next? (b :: rest) = number? false (b :: rest) := by
  have marks : ∀ m ∈ ([0x20, 0x09, 0x0A, 0x0D, 0x7B, 0x7D, 0x5B, 0x5D, 0x3A, 0x2C, 0x22, 0x2D, 0x6E,
    0x74, 0x66] : List UInt8), (!isDigit m) = true := List.all_eq_true.1 (by decide)
  have other {m : UInt8} (no : (!isDigit m) = true) : b ≠ m := by
    rintro rfl
    rw [h] at no
    cases no
  have unmarked := fun m mem => other (marks m mem)
  simp only [List.mem_cons, List.not_mem_nil, or_false, forall_eq_or_imp, forall_eq] at unmarked
  constructor
  · simp [isBlank, unmarked]
  · simp [Token.next?, unmarked, h]

/-- **The digits of a number are a token** that holds the number. -/
theorem cutsInto_number (n : Nat) (h : EndsValue rest) :
    CutsInto (textBytes (toString n)) [.number (some n)] rest := by
  have read := number?_digitBytes n h
  have digits : ∀ b ∈ digitBytes n, isDigit b = true := fun b => isDigit_of_mem_digitBytes
  have some_digits : digitBytes n ≠ [] := by simp [digitBytes]
  rw [textBytes_toString]
  cases all : digitBytes n with
  | nil => exact absurd all some_digits
  | cons b more =>
      rw [all] at read digits
      obtain ⟨visible, next⟩ := next?_of_isDigit (digits b List.mem_cons_self) (more ++ rest)
      exact .token visible (next.trans read)

end BankedZ80.Json
