import BankedZ80.Json.Value
import BankedZ80.Proofs.Json.Lexing

/-!
# Printed values are read back

A value whose numbers and strings are all known (`Definite`) is the value that its printed form
writes (`parse?_pretty`). The proof goes through the tokens of the value: printing is cut into them
(`cutsInto_prettyAt`), and the reader makes the value of them, whatever containers are open around it
(`take_tokens`).

The printed form is UTF-8 (`encoded_prettyAt`), so it is a text when it is read from a file.
-/

namespace BankedZ80.Json

variable {j : Json} {rest : List UInt8}

/-- Every number, string and key in a value is known. -/
inductive Definite : Json → Prop where
  | null : Definite .null
  | bool (b : Bool) : Definite (.bool b)
  | number (n : Nat) : Definite (.number (some n))
  | string (s : String) : Definite (.string (some s))
  | array {items : List Json} (values : ∀ j ∈ items, Definite j) : Definite (.array items)
  | object {members : List (Option String × Json)} (keys : ∀ m ∈ members, m.1.isSome)
      (values : ∀ m ∈ members, Definite m.2) : Definite (.object members)

/-! ### Tokens of a value -/

/-- Items with commas between them. -/
def separated : List (List Token) → List Token
  | [] => []
  | [item] => item
  | item :: rest => item ++ .comma :: separated rest

mutual

/-- The tokens that write a value. -/
def tokens : Json → List Token
  | .null => [.null]
  | .bool b => [.bool b]
  | .number n => [.number n]
  | .string s => [.string s]
  | .array items => .openArray :: separated (itemTokens items) ++ [.closeArray]
  | .object members => .openObject :: separated (memberTokens members) ++ [.closeObject]

/-- The tokens of each item. -/
def itemTokens : List Json → List (List Token)
  | [] => []
  | j :: rest => tokens j :: itemTokens rest

/-- The tokens of each member. -/
def memberTokens : List (Option String × Json) → List (List Token)
  | [] => []
  | (key, j) :: rest => ([.string key, .colon] ++ tokens j) :: memberTokens rest

end

/-- The tokens of a member. -/
def keyed (m : Option String × Json) : List Token := [.string m.1, .colon] ++ tokens m.2

theorem itemTokens_eq (items : List Json) : itemTokens items = items.map tokens := by
  induction items with
  | nil => rw [itemTokens, List.map_nil]
  | cons j rest ih => rw [itemTokens, List.map_cons, ih]

theorem memberTokens_eq (members : List (Option String × Json)) :
    memberTokens members = members.map keyed := by
  induction members with
  | nil => rw [memberTokens, List.map_nil]
  | cons m rest ih => rw [memberTokens, List.map_cons, ih, keyed]

theorem prettyItems_eq (level : Nat) (items : List Json) :
    prettyItems level items = items.map (prettyAt level) := by
  induction items with
  | nil => rw [prettyItems, List.map_nil]
  | cons j rest ih => rw [prettyItems, List.map_cons, ih]

theorem prettyMembers_eq (level : Nat) (members : List (Option String × Json)) :
    prettyMembers level members =
      members.map fun m => quotedBytes (m.1.getD "") ++ [0x3A, 0x20] ++ prettyAt level m.2 := by
  induction members with
  | nil => rw [prettyMembers, List.map_nil]
  | cons m rest ih => rw [prettyMembers, List.map_cons, ih]

theorem prettyAt_array_cons (level : Nat) (first : Json) (more : List Json) :
    prettyAt level (.array (first :: more)) =
      [0x5B] ++ lines (level + 1) ((first :: more).map (prettyAt (level + 1))) ++ newLine level
        ++ [0x5D] := by
  rw [← prettyItems_eq]
  rfl

theorem prettyAt_object_cons (level : Nat) (first : Option String × Json)
    (more : List (Option String × Json)) :
    prettyAt level (.object (first :: more)) =
      [0x7B] ++ lines (level + 1) ((first :: more).map fun m =>
        quotedBytes (m.1.getD "") ++ [0x3A, 0x20] ++ prettyAt (level + 1) m.2) ++ newLine level
        ++ [0x7D] := by
  rw [← prettyMembers_eq]
  rfl

/-! ### Printing, cut into tokens -/

/-- Lines are cut into what each of them is cut into, and the commas at their ends. -/
theorem cutsInto_lines {α : Type} (level : Nat) {print : α → List UInt8} {token : α → List Token}
    (as : List α) (each : ∀ a ∈ as, ∀ rest, EndsValue rest → CutsInto (print a) (token a) rest)
    (ends : EndsValue rest) :
    CutsInto (lines level (as.map print)) (separated (as.map token)) rest := by
  induction as with
  | nil => exact .nil
  | cons a more ih =>
      have item := each a List.mem_cons_self
      cases more with
      | nil => exact (cutsInto_newLine level).append (item rest ends)
      | cons a' more =>
          have comma {rest : List UInt8} : CutsInto [0x2C] [.comma] rest := .token rfl rfl
          have later := ih fun a mem => each a (List.mem_cons_of_mem _ mem)
          have first {rest : List UInt8} : EndsValue ([0x2C] ++ rest) :=
            fun b head => .inl (Option.some.inj head).symm
          have line {rest : List UInt8} :
              CutsInto (newLine level ++ print a ++ [0x2C]) (token a ++ [.comma]) rest :=
            ((cutsInto_newLine level).append (item _ first)).append comma
          have all := line.append later
          rw [List.append_assoc (token a)] at all
          exact all

/-- A container with something in it: its marks, and its lines between them. -/
theorem cutsInto_container {α : Type} {b e : UInt8} {t u : Token}
    (begins : ∀ {rest}, CutsInto [b] [t] rest) (closes : ∀ {rest}, CutsInto [e] [u] rest) (level : Nat)
    {print : α → List UInt8} {token : α → List Token} {as : List α}
    (each : ∀ a ∈ as, ∀ rest, EndsValue rest → CutsInto (print a) (token a) rest) :
    CutsInto ([b] ++ lines (level + 1) (as.map print) ++ newLine level ++ [e])
      (t :: separated (as.map token) ++ [u]) rest := by
  have ends : EndsValue (newLine level ++ ([e] ++ rest)) := endsValue_newLine level
  have inner := cutsInto_lines (level + 1) as each ends
  have last : CutsInto (newLine level ++ [e]) [u] rest := (cutsInto_newLine level).append closes
  rw [List.append_assoc]
  refine (begins.append ?_).append last
  rw [List.append_assoc]
  exact inner

/-- A member: its key, and its value after a colon and a space. -/
theorem cutsInto_member {key : Option String} {text : List UInt8} {tokens : List Token}
    (known : key.isSome) (value : CutsInto text tokens rest) :
    CutsInto (quotedBytes (key.getD "") ++ [0x3A, 0x20] ++ text) ([.string key, .colon] ++ tokens)
      rest := by
  obtain ⟨key, rfl⟩ := Option.isSome_iff_exists.1 known
  have colon {rest : List UInt8} : CutsInto [0x3A] [.colon] rest := .token rfl rfl
  have space {rest : List UInt8} : CutsInto [0x20] [] rest := .blank rfl
  exact ((cutsInto_string key).append (colon.append space)).append value

/-- **The printed form of a value is cut into its tokens.** -/
theorem cutsInto_prettyAt (definite : Definite j) (level : Nat) (ends : EndsValue rest) :
    CutsInto (prettyAt level j) (tokens j) rest := by
  induction definite generalizing level rest with
  | null =>
      rw [prettyAt, tokens]
      exact .token rfl rfl
  | bool b =>
      rw [prettyAt, tokens]
      cases b <;> exact .token rfl rfl
  | number n =>
      rw [prettyAt, tokens]
      exact cutsInto_number n ends
  | string s =>
      rw [prettyAt, tokens]
      exact cutsInto_string s
  | @array items _ ih =>
      have begins {rest : List UInt8} : CutsInto [0x5B] [.openArray] rest := .token rfl rfl
      have closes {rest : List UInt8} : CutsInto [0x5D] [.closeArray] rest := .token rfl rfl
      rw [tokens, itemTokens_eq]
      cases items with
      | nil => exact begins.append closes
      | cons first more =>
          rw [prettyAt_array_cons]
          exact cutsInto_container begins closes level fun j mem rest ends => ih j mem (level + 1) ends
  | @object members known _ ih =>
      have begins {rest : List UInt8} : CutsInto [0x7B] [.openObject] rest := .token rfl rfl
      have closes {rest : List UInt8} : CutsInto [0x7D] [.closeObject] rest := .token rfl rfl
      rw [tokens, memberTokens_eq]
      cases members with
      | nil => exact begins.append closes
      | cons first more =>
          rw [prettyAt_object_cons]
          exact cutsInto_container begins closes level fun m mem rest ends =>
            cutsInto_member (known m mem) (ih m mem (level + 1) ends)

/-! ### Reading tokens -/

/-- What is left of the containers when a value has been read from its tokens. -/
def Taken (j : Json) : Prop :=
  ∀ containers, (tokens j).foldlM Progress.take (.reading containers .value) = deliver j containers

theorem exists_separated (item : List Token) (rest : List (List Token)) :
    ∃ more, separated (item :: rest) = item ++ more := by
  cases rest with
  | nil => exact ⟨[], (List.append_nil item).symm⟩
  | cons next rest => exact ⟨.comma :: separated (next :: rest), rfl⟩

/-- Where an array may be closed, a value may begin: its first token closes nothing. -/
theorem take_valueOrClose (j : Json) (rest : List (List Token)) (containers : List OpenContainer) :
    (separated (tokens j :: rest)).foldlM Progress.take (.reading containers .valueOrClose) =
      (separated (tokens j :: rest)).foldlM Progress.take (.reading containers .value) := by
  obtain ⟨more, shape⟩ := exists_separated (tokens j) rest
  rw [shape]
  cases j <;> rw [tokens] <;> rfl

/-- Where an object may be closed, a key may stand. -/
theorem take_keyOrClose (m : Option String × Json) (rest : List (List Token))
    (containers : List OpenContainer) :
    (separated (keyed m :: rest)).foldlM Progress.take (.reading containers .keyOrClose) =
      (separated (keyed m :: rest)).foldlM Progress.take (.reading containers .key) := by
  obtain ⟨more, shape⟩ := exists_separated (keyed m) rest
  rw [shape]
  rfl

/-- Items are added to the array that is open. By induction on the items after the first. -/
theorem take_items {first : Json} {more : List Json} (each : ∀ j ∈ first :: more, Taken j)
    (items : List Json) (outer : List OpenContainer) :
    (separated ((first :: more).map tokens)).foldlM Progress.take
        (.reading (.array items :: outer) .value) =
      some (.reading (.array ((first :: more).reverse ++ items) :: outer) .commaOrClose) := by
  have one (items : List Json) : (tokens first).foldlM Progress.take
      (.reading (.array items :: outer) .value) =
        some (.reading (.array (first :: items) :: outer) .commaOrClose) :=
    each first List.mem_cons_self _
  induction more generalizing first items with
  | nil => exact one items
  | cons second more ih =>
      have later := fun j mem => each j (List.mem_cons_of_mem first mem)
      have rest := ih later (first :: items) fun items => later second List.mem_cons_self _
      show (tokens first ++ .comma :: separated ((second :: more).map tokens)).foldlM Progress.take _ = _
      rw [List.foldlM_append, one, List.reverse_cons (a := first), List.append_assoc]
      exact rest

/-- Members are added to the object that is open. By induction on the members after the first. -/
theorem take_members {first : Option String × Json} {more : List (Option String × Json)}
    (each : ∀ m ∈ first :: more, Taken m.2) (members : List (Option String × Json))
    (outer : List OpenContainer) :
    (separated ((first :: more).map keyed)).foldlM Progress.take
        (.reading (.object members :: outer) .key) =
      some (.reading (.object ((first :: more).reverse ++ members) :: outer) .commaOrClose) := by
  have one (members : List (Option String × Json)) :
      (keyed first).foldlM Progress.take (.reading (.object members :: outer) .key) =
        some (.reading (.object (first :: members) :: outer) .commaOrClose) :=
    each first List.mem_cons_self _
  induction more generalizing first members with
  | nil => exact one members
  | cons second more ih =>
      have later := fun m mem => each m (List.mem_cons_of_mem first mem)
      have rest := ih later (first :: members) fun members => later second List.mem_cons_self _
      show (keyed first ++ .comma :: separated ((second :: more).map keyed)).foldlM Progress.take _ = _
      rw [List.foldlM_append, one, List.reverse_cons (a := first), List.append_assoc]
      exact rest

/-- **A value is read from its tokens**, whatever containers are open. -/
theorem take_tokens (definite : Definite j) : Taken j := by
  induction definite with
  | null | bool | number | string =>
      intro containers
      rw [tokens, List.foldlM_cons]
      exact bind_pure _
  | @array items _ ih =>
      intro containers
      rw [tokens, itemTokens_eq]
      cases items with
      | nil => exact bind_pure (deliver (.array []) containers)
      | cons first more =>
          show (separated ((first :: more).map tokens) ++ [Token.closeArray]).foldlM Progress.take
            (.reading (.array [] :: containers) .valueOrClose) = _
          rw [List.foldlM_append, List.map_cons, take_valueOrClose, ← List.map_cons, take_items ih,
            List.append_nil]
          refine (bind_pure (deliver (.array (first :: more).reverse.reverse) containers)).trans ?_
          rw [List.reverse_reverse]
  | @object members _ _ ih =>
      intro containers
      rw [tokens, memberTokens_eq]
      cases members with
      | nil => exact bind_pure (deliver (.object []) containers)
      | cons first more =>
          show (separated ((first :: more).map keyed) ++ [Token.closeObject]).foldlM Progress.take
            (.reading (.object [] :: containers) .keyOrClose) = _
          rw [List.foldlM_append, List.map_cons, take_keyOrClose, ← List.map_cons, take_members ih,
            List.append_nil]
          refine (bind_pure (deliver (.object (first :: more).reverse.reverse) containers)).trans ?_
          rw [List.reverse_reverse]

/-- **The printed form of a value is read back** as this value. -/
theorem parse?_pretty (definite : Definite j) : parse? (pretty j) = some j := by
  have cut : CutsInto (pretty j) (tokens j) [] := cutsInto_prettyAt definite 0 nofun
  rw [parse?, cut.all?]
  show ofTokens? (tokens j) = some j
  rw [ofTokens?, take_tokens definite]
  rfl

/-! ### UTF-8 -/

/-- Bytes that are the UTF-8 form of some characters. -/
def Encoded (bytes : List UInt8) : Prop := ∃ cs : List Char, bytes = cs.flatMap String.utf8EncodeChar

namespace Encoded

variable {bytes bytes' : List UInt8}

theorem valid (h : Encoded bytes) : (Bytes.ofList bytes).validateUTF8 = true := by
  obtain ⟨cs, rfl⟩ := h
  refine ByteArray.validateUTF8_eq_true_iff.2 (.intro cs ?_)
  rw [Bytes.ofList, List.utf8Encode, ← List.data_toByteArray]

theorem append (h : Encoded bytes) (h' : Encoded bytes') : Encoded (bytes ++ bytes') := by
  obtain ⟨cs, rfl⟩ := h
  obtain ⟨cs', rfl⟩ := h'
  exact ⟨cs ++ cs', List.flatMap_append.symm⟩

theorem flatMap {α : Type} {f : α → List UInt8} {as : List α} (h : ∀ a ∈ as, Encoded (f a)) :
    Encoded (as.flatMap f) := by
  induction as with
  | nil => exact ⟨[], rfl⟩
  | cons a rest ih =>
      rw [List.flatMap_cons]
      exact (h a List.mem_cons_self).append (ih fun a mem => h a (List.mem_cons_of_mem _ mem))

/-- ASCII bytes stand for themselves. -/
theorem ascii (h : ∀ b ∈ bytes, b < 0x80) : Encoded bytes := by
  rw [← List.flatMap_singleton' bytes]
  refine flatMap fun b mem => ⟨[Char.ofNat b.toNat], ?_⟩
  have all : ∀ n : Fin 128, [n.val.toUInt8] = [Char.ofNat n].flatMap String.utf8EncodeChar := by decide
  have this := all ⟨b.toNat, UInt8.lt_iff_toNat_lt.1 (h b mem)⟩
  rwa [show b.toNat.toUInt8 = b from UInt8.ofNat_toNat] at this

theorem mark {b : UInt8} (h : b < 0x80) : Encoded [b] :=
  ascii fun _ mem => (List.mem_singleton.1 mem) ▸ h

theorem textBytes (s : String) : Encoded (textBytes s) := ⟨s.toList, textBytes_eq s⟩

end Encoded

theorem escapeByte_ascii {b : UInt8} (h : b < 0x80) : ∀ e ∈ escapeByte b, e < 0x80 := by
  have all : ∀ n : Fin 128, (escapeByte n.val.toUInt8).all (· < 0x80) = true := by decide
  have this := all ⟨b.toNat, UInt8.lt_iff_toNat_lt.1 h⟩
  rw [show b.toNat.toUInt8 = b from UInt8.ofNat_toNat] at this
  exact fun e mem => of_decide_eq_true (List.all_eq_true.1 this e mem)

theorem escapeByte_of_not_ascii {b : UInt8} (h : 0x80 ≤ b) : escapeByte b = [b] := by
  have least := UInt8.le_iff_toNat_le.1 h
  have other (m : UInt8) (ascii : m.toNat < 0x80) : b ≠ m := by
    rintro rfl
    exact absurd least (Nat.not_le.2 ascii)
  have control : ¬b < 0x20 := by
    rw [UInt8.lt_iff_toNat_lt]
    exact Nat.not_lt.2 (Nat.le_trans (by decide) least)
  simp [escapeByte, other, control]

/-- The bytes of a character are one of ASCII, or none of ASCII. -/
theorem utf8EncodeChar_ascii_or (c : Char) :
    (∃ b, b < 0x80 ∧ String.utf8EncodeChar c = [b]) ∨
      ∀ b ∈ String.utf8EncodeChar c, (0x80 : UInt8) ≤ b := by
  have high (n : Nat) (least : 0x80 ≤ n) (most : n < 0x100) : (0x80 : UInt8) ≤ UInt8.ofNat n := by
    rw [UInt8.le_iff_toNat_le, UInt8.toNat_ofNat']
    show 0x80 ≤ n % 256
    omega
  unfold String.utf8EncodeChar
  dsimp only
  split
  · next small =>
      refine .inl ⟨_, ?_, rfl⟩
      rw [UInt8.lt_iff_toNat_lt, UInt8.toNat_ofNat']
      show c.val.toNat % 256 < 0x80
      omega
  · right
    split
    · simp only [List.forall_mem_cons]
      exact ⟨high _ (by omega) (by omega), high _ (by omega) (by omega), nofun⟩
    · split
      · simp only [List.forall_mem_cons]
        exact ⟨high _ (by omega) (by omega), high _ (by omega) (by omega),
          high _ (by omega) (by omega), nofun⟩
      · simp only [List.forall_mem_cons]
        exact ⟨high _ (by omega) (by omega), high _ (by omega) (by omega),
          high _ (by omega) (by omega), high _ (by omega) (by omega), nofun⟩

/-- Escaping leaves UTF-8. -/
theorem encoded_quotedBytes (s : String) : Encoded (quotedBytes s) := by
  have quote : Encoded [0x22] := .mark (by decide)
  refine (quote.append ?_).append quote
  rw [textBytes_eq, List.flatMap_assoc]
  refine .flatMap fun c _ => ?_
  rcases utf8EncodeChar_ascii_or c with ⟨b, ascii, one⟩ | high
  · rw [one, List.flatMap_singleton]
    exact .ascii (escapeByte_ascii ascii)
  · rw [List.flatMap_congr fun b mem => escapeByte_of_not_ascii (high b mem), List.flatMap_singleton']
    exact ⟨[c], (List.flatMap_singleton ..).symm⟩

theorem encoded_newLine (level : Nat) : Encoded (newLine level) := by
  refine .ascii fun b mem => ?_
  rcases List.mem_cons.1 mem with rfl | mem
  · decide
  · rw [List.eq_of_mem_replicate mem]
    decide

theorem encoded_lines (level : Nat) {items : List (List UInt8)} (h : ∀ item ∈ items, Encoded item) :
    Encoded (lines level items) := by
  induction items with
  | nil => exact .ascii nofun
  | cons item rest ih =>
      have line : Encoded (newLine level ++ item) := (encoded_newLine level).append (h item List.mem_cons_self)
      have later := ih fun item mem => h item (List.mem_cons_of_mem _ mem)
      cases rest with
      | nil => exact line
      | cons next rest => exact (line.append (.mark (by decide))).append later

/-- **The printed form of a value is UTF-8.** -/
theorem encoded_prettyAt (definite : Definite j) (level : Nat) : Encoded (prettyAt level j) := by
  induction definite generalizing level with
  | null => exact .textBytes _
  | bool b => exact .textBytes _
  | number n => exact .textBytes _
  | string s => exact encoded_quotedBytes s
  | @array items _ ih =>
      cases items with
      | nil => exact .textBytes _
      | cons first more =>
          rw [prettyAt_array_cons]
          refine (((Encoded.mark (by decide)).append (encoded_lines _ ?_)).append
            (encoded_newLine level)).append (.mark (by decide))
          intro item line
          obtain ⟨j, mem, rfl⟩ := List.mem_map.1 line
          exact ih j mem _
  | @object members known _ ih =>
      cases members with
      | nil => exact (Encoded.mark (by decide)).append (.mark (by decide))
      | cons first more =>
          rw [prettyAt_object_cons]
          refine (((Encoded.mark (by decide)).append (encoded_lines _ ?_)).append
            (encoded_newLine level)).append (.mark (by decide))
          intro item line
          obtain ⟨m, mem, rfl⟩ := List.mem_map.1 line
          have colon : Encoded [0x3A, 0x20] := (Encoded.mark (by decide)).append (.mark (by decide))
          exact ((encoded_quotedBytes _).append colon).append (ih m mem _)

end BankedZ80.Json
