import BankedZ80.Proofs.Nvram.Record

/-!
# Options and the records that hold them

Storing an option and reading the record are inverse to each other as far as can be.

* An option is read back exactly when it is legal (`bootOption_setBootOption_iff`), and its text stores
  the same bytes.
* A record that holds an option has the bytes that storing it leaves, apart from the flags, which are
  not read (`bytes_setBootOption_iff`).
* All other records have the empty setting: those with another signature or checksum, and those whose
  selector is none (`IsSelector`).
-/

namespace BankedZ80

/-- What is so for all 256 bytes. -/
theorem forall_byte {p : UInt8 → Prop} (h : ∀ k : Fin 256, p k.val.toUInt8) (v : UInt8) : p v := by
  have this := h ⟨v.toNat, v.toNat_lt⟩
  rw [Nat.toUInt8_eq, UInt8.ofNat_toNat] at this
  exact this

namespace BootOption

variable {o : BootOption} {low high : UInt8}

/-- The pairs of selector bytes that denote an option: a disk unit and a slice, the menu, or the code of
an upper-case letter other than the menu's. -/
def IsSelector (low high : UInt8) : Prop :=
  (low < 16 ∧ 0x80 ≤ high) ∨ (high = 0 ∧ (low = 0 ∨ (65 ≤ low ∧ low ≤ 90 ∧ low ≠ 72)))

/-- The slice in a selector byte. -/
theorem slice_of_selector : ∀ high : UInt8,
    (high &&& diskBoot ≠ 0 ↔ 0x80 ≤ high) ∧
      (high &&& diskBoot ≠ 0 → diskBoot ||| (high &&& 0x7F) = high) :=
  forall_byte (by decide +kernel)

/-- The letter in a selector byte. -/
theorem letter_of_selector : ∀ low : UInt8,
    (('A' ≤ Char.ofNat low.toNat ∧ Char.ofNat low.toNat ≤ 'Z' ∧ Char.ofNat low.toNat ≠ 'H') ↔
      (65 ≤ low ∧ low ≤ 90 ∧ low ≠ 72)) ∧
      (Char.ofNat low.toNat).toNat.toUInt8 = low :=
  forall_byte (by decide +kernel)

/-- **The selector bytes that denote an option.** -/
theorem isSome_decode?_iff : (decode? low high).isSome ↔ IsSelector low high := by
  have slice := (slice_of_selector high).1
  have letter := (letter_of_selector low).1
  unfold decode? IsSelector
  by_cases disk : high &&& diskBoot ≠ 0
  · have some_slice : high ≠ 0 := by
      rintro rfl
      exact disk rfl
    have there : low.toNat < maxUnits ↔ low < 16 := Iff.rfl
    rw [if_pos (bne_iff_ne.2 disk)]
    by_cases h : low < 16 <;> simp [there, h, slice.1 disk, some_slice]
  · have no_slice : ¬0x80 ≤ high := mt slice.2 disk
    rw [if_neg (mt bne_iff_ne.1 disk)]
    by_cases other : high = 0
    · rw [if_neg (mt bne_iff_ne.1 (not_not_intro other))]
      by_cases menu : low = 0
      · simp [menu, other]
      · dsimp only
        simp only [if_neg menu, letter]
        by_cases h : 65 ≤ low ∧ low ≤ 90 ∧ low ≠ 72 <;> simp [h, menu, other]
    · rw [if_pos (bne_iff_ne.2 other)]
      simp [no_slice, other]

/-- An option that selector bytes denote has these bytes. -/
theorem encode_of_decode? (h : decode? low high = some o) :
    o.encode.1 = low ∧ o.encode.2.1 = high := by
  unfold decode? at h
  split at h
  · next disk =>
      split at h
      · cases h
        exact ⟨rfl, (slice_of_selector high).2 (bne_iff_ne.1 disk)⟩
      · cases h
  · split at h
    · cases h
    · next plain =>
        have zero : high = 0 := by simpa using plain
        split at h
        · next menu =>
            cases h
            exact ⟨menu.symm, zero.symm⟩
        · dsimp only at h
          split at h
          · cases h
            exact ⟨(letter_of_selector low).2, zero.symm⟩
          · cases h

end BootOption

namespace Nvram

variable {n : Nvram} {o : BootOption}

/-- The bytes that storing an option leaves. -/
theorem bytes_setBootOption (n : Nvram) (o : BootOption) :
    (n.setBootOption o).bytes =
      #v[signature, o.encode.1, o.encode.2.1, o.encode.2.2,
        signature ^^^ o.encode.1 ^^^ o.encode.2.1 ^^^ o.encode.2.2] := by
  rfl

theorem isValid_setBootOption (n : Nvram) (o : BootOption) : (n.setBootOption o).isValid = true := by
  simp [isValid, isInitialized, setBootOption, reseal, checksum]

theorem isValid_iff :
    n.isValid = true ↔ n.bytes.get 0 = signature ∧
      n.bytes.get 4 = n.bytes.get 0 ^^^ n.bytes.get 1 ^^^ n.bytes.get 2 ^^^ n.bytes.get 3 := by
  rw [isValid, isInitialized, Bool.and_eq_true, beq_iff_eq, beq_iff_eq]
  exact and_congr_right fun _ => eq_comm

theorem bootOption_eq_some_iff :
    n.bootOption = some o ↔
      n.isValid = true ∧ BootOption.decode? (n.bytes.get 1) (n.bytes.get 2) = some o := by
  rw [bootOption]
  split
  · next valid => exact (and_iff_right valid).symm
  · next bad => exact iff_of_false (Option.some_ne_none o).symm fun both => bad both.1

/-- **An option is read back exactly when it is legal.** -/
theorem bootOption_setBootOption_iff (n : Nvram) (o : BootOption) :
    (n.setBootOption o).bootOption = some o ↔ o.Legal := by
  have bytes : (n.setBootOption o).bytes.get 1 = o.encode.1 ∧
      (n.setBootOption o).bytes.get 2 = o.encode.2.1 := by
    rw [bytes_setBootOption]
    exact ⟨rfl, rfl⟩
  rw [bootOption_eq_some_iff, bytes.1, bytes.2, and_iff_right (isValid_setBootOption n o)]
  exact ⟨BootOption.legal_of_decode?, BootOption.decode?_encode⟩

/-- A legal option is stored by its text, too. -/
theorem setSetting_text (n n' : Nvram) (legal : o.Legal) :
    ∃ n'', n'.setSetting o.text = .ok n'' ∧ n''.bytes = (n.setBootOption o).bytes := by
  refine ⟨n'.setBootOption o, ?_, ?_⟩
  · rw [setSetting, BootOption.parse?_text legal]
  · rw [bytes_setBootOption, bytes_setBootOption]

/-- **An option that is read from a record is stored as it was there**, apart from the flags. -/
theorem bytes_setBootOption_iff (stored : n.bootOption = some o) (n' : Nvram) :
    (n'.setBootOption o).bytes = n.bytes ↔
      n.bytes.get 3 = if o = .menu then 0 else BootOption.autoboot := by
  obtain ⟨valid, decoded⟩ := bootOption_eq_some_iff.1 stored
  obtain ⟨sign, sum⟩ := isValid_iff.1 valid
  obtain ⟨low, high⟩ := BootOption.encode_of_decode? decoded
  have flags : (if o = .menu then 0 else BootOption.autoboot) = o.encode.2.2 := by
    cases o <;> rfl
  rw [bytes_setBootOption, flags, low, high]
  constructor
  · intro same
    rw [← same]
    rfl
  · intro same
    apply Vector.ext
    intro i hi
    have last : n.bytes.get 4 = signature ^^^ n.bytes.get 1 ^^^ n.bytes.get 2 ^^^ o.encode.2.2 := by
      rw [sum, sign, same]
    interval_cases i
    · exact sign.symm
    · rfl
    · rfl
    · exact same.symm
    · exact last.symm

/-- A record without an option has the empty setting, and no other record has. -/
theorem setting_eq_empty_iff (n : Nvram) : n.setting = "" ↔ n.bootOption = none := by
  rw [setting]
  cases stored : n.bootOption with
  | none => exact iff_of_true rfl rfl
  | some o =>
      refine iff_of_false (fun empty => ?_) (Option.some_ne_none o)
      have legal := BootOption.legal_of_decode? (bootOption_eq_some_iff.1 stored).2
      have parsed := BootOption.parse?_text legal
      have nothing : BootOption.parse? "" = none := by decide
      rw [show o.text = "" from empty, nothing] at parsed
      cases parsed

/-- The records that hold no option. -/
theorem bootOption_eq_none_iff (n : Nvram) :
    n.bootOption = none ↔
      n.bytes.get 0 ≠ signature ∨
        n.bytes.get 4 ≠ n.bytes.get 0 ^^^ n.bytes.get 1 ^^^ n.bytes.get 2 ^^^ n.bytes.get 3 ∨
        ¬BootOption.IsSelector (n.bytes.get 1) (n.bytes.get 2) := by
  rw [bootOption, ← BootOption.isSome_decode?_iff, Option.not_isSome_iff_eq_none, ← or_assoc,
    ← not_and_or, ← isValid_iff]
  by_cases valid : n.isValid = true
  · rw [if_pos valid]
    exact (or_iff_right (not_not_intro valid)).symm
  · rw [if_neg valid]
    exact iff_of_true rfl (.inl valid)

/-- What storing an option does, and what a record says of the option that is stored in it. -/
structure Inverse (n : Nvram) (o : BootOption) : Prop where
  stored : (n.setBootOption o).bootOption = some o ↔ o.Legal
  /-- The text of a legal option stores the same five bytes, whatever the record. -/
  text : o.Legal → ∀ n' : Nvram, ∃ n'', n'.setSetting o.text = .ok n'' ∧
    n''.bytes = (n.setBootOption o).bytes
  /-- The option of a record is stored as it was there if the flags are those of the option. -/
  bytes : n.bootOption = some o → ∀ n' : Nvram,
    ((n'.setBootOption o).bytes = n.bytes ↔ n.bytes.get 3 = if o = .menu then 0 else 0x20)
  empty : n.setting = "" ↔ n.bootOption = none
  /-- The records without an option: another signature or checksum, or no selector. -/
  other : n.bootOption = none ↔ n.bytes.get 0 ≠ signature ∨
    n.bytes.get 4 ≠ n.bytes.get 0 ^^^ n.bytes.get 1 ^^^ n.bytes.get 2 ^^^ n.bytes.get 3 ∨
    ¬BootOption.IsSelector (n.bytes.get 1) (n.bytes.get 2)

/-- **Storing an option and reading a record are inverse to each other**, on legal options and on
records with the flags of their option. -/
theorem options_inverse (n : Nvram) (o : BootOption) : Inverse n o where
  stored := bootOption_setBootOption_iff n o
  text legal n' := setSetting_text n n' legal
  bytes stored n' := bytes_setBootOption_iff stored n'
  empty := setting_eq_empty_iff n
  other := bootOption_eq_none_iff n

end Nvram

end BankedZ80
