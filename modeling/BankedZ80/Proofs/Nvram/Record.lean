import BankedZ80.Proofs.Nvram.BootOption

/-!
# What is done to the boot record

The guest writes to the two registers, the host stores an option by its text, clears the record, and
asks whether it has changed. Both take turns in any order, so what both do is a list of actions, of
which the reads, which change nothing, are left out.

* `Nvram.Intact` is what holds of the record after any of them: it is sealed, and its setting is the
  text of an option or empty.
* `Nvram.ChangedSinceAsked` says of a list of actions that one of them changed the record and that
  nobody asked since; `Nvram.changed_foldl` shows that this is what the change flag tells.
-/

namespace BankedZ80

/-- Something that the guest or the host does to the boot record. -/
inductive NvramAction where
  | write (register v : UInt8)
  | set (text : String)
  | clear
  /-- The host asks whether the record has changed. -/
  | ask
deriving DecidableEq

namespace Nvram

/-- The record after an action; a text that names no option is refused. -/
def after (n : Nvram) : NvramAction → Nvram
  | .write register v => n.writeRegister register v
  | .set s =>
    match n.setSetting s with
    | .ok n' => n'
    | .error _ => n
  | .clear => n.clear
  | .ask => n.takeChange.2

/-- Does an action change the record? A text does when it is not refused, and a guest when it writes
data while the latch points at one of the first four bytes. -/
def changedBy (n : Nvram) : NvramAction → Bool
  | .write register _ => register ≠ 0 ∧ n.latch.toNat < 4
  | .set s => (n.setSetting s).isOk
  | .clear => true
  | .ask => false

/-- One of the actions changes the record, and nobody asks after it. -/
def ChangedSinceAsked (n : Nvram) (actions : List NvramAction) : Prop :=
  ∃ before a later, actions = before ++ a :: later ∧
    (before.foldl after n).changedBy a = true ∧ .ask ∉ later

/-! ### Seals and settings -/

/-- The last byte is the checksum of the others. -/
def Sealed (n : Nvram) : Prop := n.bytes.get 4 = checksum n.bytes

/-- What is true of the record at any time. -/
structure Intact (n : Nvram) : Prop where
  sealed : n.bytes.get 4 = n.bytes.get 0 ^^^ n.bytes.get 1 ^^^ n.bytes.get 2 ^^^ n.bytes.get 3
  /-- The signature alone decides. -/
  valid : n.isValid = n.isInitialized
  /-- The setting is empty, or the text by which the stored option is named and written. -/
  setting : n.setting = "" ∨ ∃ o, n.bootOption = some o ∧
    BootOption.parse? n.setting = some o ∧ o.text = n.setting

variable {n : Nvram}

theorem sealed_reseal (n : Nvram) : n.reseal.Sealed := by
  show (n.bytes.set 4 (checksum n.bytes))[4] = checksum (n.bytes.set 4 (checksum n.bytes))
  simp [checksum]

theorem setSetting_eq_ok {s : String} {n' : Nvram} :
    n.setSetting s = .ok n' ↔ ∃ o, BootOption.parse? s = some o ∧ n' = n.setBootOption o := by
  unfold setSetting
  cases BootOption.parse? s with
  | none => simp
  | some o => simp [eq_comm]

/-- Every action leaves the record sealed. -/
theorem Sealed.after (sealed : n.Sealed) (a : NvramAction) : (n.after a).Sealed := by
  cases a with
  | write register v =>
      rw [Nvram.after, writeRegister]
      split
      · exact sealed
      · split
        · exact sealed_reseal _
        · exact sealed
  | set s =>
      rw [Nvram.after]
      split
      · next stored =>
          obtain ⟨o, -, rfl⟩ := setSetting_eq_ok.1 stored
          exact sealed_reseal _
      · exact sealed
  | clear => exact (by decide : (Vector.replicate 5 0).get 4 = checksum (Vector.replicate 5 0))
  | ask => exact sealed

theorem Sealed.foldl (sealed : n.Sealed) (actions : List NvramAction) :
    (actions.foldl Nvram.after n).Sealed := by
  induction actions generalizing n with
  | nil => exact sealed
  | cons a rest ih => exact ih (sealed.after a)

/-- A sealed record gives its option by a text that names it. -/
theorem Sealed.intact (sealed : n.Sealed) : n.Intact := by
  have valid : n.isValid = n.isInitialized := by
    have same : (checksum n.bytes == n.bytes[4]) = true := beq_iff_eq.2 sealed.symm
    rw [isValid, same, Bool.and_true]
  refine ⟨sealed, valid, ?_⟩
  cases stored : n.bootOption with
  | none =>
      left
      rw [setting, stored]
  | some o =>
      right
      have decoded : BootOption.decode? n.bytes[1] n.bytes[2] = some o := by
        rw [bootOption] at stored
        split at stored
        · exact stored
        · cases stored
      have text : n.setting = o.text := by rw [setting, stored]
      rw [text]
      exact ⟨o, rfl, BootOption.parse?_text (BootOption.legal_of_decode? decoded), rfl⟩

/-! ### The change flag -/

/-- An action raises the flag if it changes the record, and only the question lowers it. -/
theorem changed_after (n : Nvram) (a : NvramAction) :
    (n.after a).changed = true ↔ n.changedBy a = true ∨ n.changed = true ∧ a ≠ .ask := by
  cases a with
  | write register v =>
      rw [after, writeRegister, changedBy]
      by_cases latch : register = 0
      · simp [latch]
      · by_cases inside : n.latch.toNat < 4
        · simp [latch, inside, reseal]
        · simp [latch, inside]
  | set s =>
      rw [after, changedBy]
      cases stored : n.setSetting s with
      | ok n' =>
          obtain ⟨o, -, rfl⟩ := setSetting_eq_ok.1 stored
          simp [Except.isOk, Except.toBool, setBootOption, reseal]
      | error error => simp [Except.isOk, Except.toBool]
  | clear => simp [after, clear, changedBy]
  | ask => simp [after, takeChange, changedBy]

theorem changedSinceAsked_cons {a : NvramAction} {rest : List NvramAction} :
    n.ChangedSinceAsked (a :: rest) ↔
      n.changedBy a = true ∧ .ask ∉ rest ∨ (n.after a).ChangedSinceAsked rest := by
  constructor
  · rintro ⟨before, b, later, split, change, quiet⟩
    cases before with
    | nil =>
        obtain ⟨rfl, rfl⟩ := List.cons.inj split
        exact .inl ⟨change, quiet⟩
    | cons first before =>
        obtain ⟨rfl, rfl⟩ := List.cons.inj split
        exact .inr ⟨before, b, later, rfl, change, quiet⟩
  · rintro (⟨change, quiet⟩ | ⟨before, b, later, rfl, change, quiet⟩)
    · exact ⟨[], a, rest, rfl, change, quiet⟩
    · exact ⟨a :: before, b, later, rfl, change, quiet⟩

/-- **What the change flag tells.** It is up when an action changed the record and nobody asked since,
or when it was up before and nobody asked at all. By induction on the actions. -/
theorem changed_foldl (actions : List NvramAction) (n : Nvram) :
    (actions.foldl after n).changed = true ↔
      n.ChangedSinceAsked actions ∨ n.changed = true ∧ .ask ∉ actions := by
  induction actions generalizing n with
  | nil =>
      have none : ¬n.ChangedSinceAsked [] := by
        rintro ⟨before, a, later, split, -⟩
        simp at split
      simp [none]
  | cons a rest ih =>
      have not_first : NvramAction.ask ∉ a :: rest ↔ a ≠ .ask ∧ .ask ∉ rest := by
        rw [List.mem_cons, not_or, eq_comm]
      rw [List.foldl_cons, ih, changed_after, changedSinceAsked_cons, not_first]
      tauto

/-! ### Whether anything changed -/

/-- Does one of the actions change the record? -/
def everChanged (n : Nvram) : List NvramAction → Bool
  | [] => false
  | a :: rest => n.changedBy a || (n.after a).everChanged rest

theorem everChanged_append (actions later : List NvramAction) :
    n.everChanged (actions ++ later) =
      (n.everChanged actions || (actions.foldl after n).everChanged later) := by
  induction actions generalizing n with
  | nil => rfl
  | cons a rest ih => rw [List.cons_append, everChanged, ih, everChanged, List.foldl_cons, Bool.or_assoc]

/-- What changes nothing leaves the bytes alone. -/
theorem bytes_after {a : NvramAction} (h : n.changedBy a = false) : (n.after a).bytes = n.bytes := by
  cases a with
  | write register v =>
      rw [changedBy, decide_eq_false_iff_not] at h
      rw [after, writeRegister]
      split
      · rfl
      · next other => rw [dif_neg fun inside => h ⟨other, inside⟩]
  | set s =>
      rw [changedBy] at h
      rw [after]
      cases stored : n.setSetting s with
      | ok n' =>
          rw [stored] at h
          cases h
      | error error => rfl
  | clear => cases h
  | ask => rfl

theorem bytes_foldl {actions : List NvramAction} (h : n.everChanged actions = false) :
    (actions.foldl after n).bytes = n.bytes := by
  induction actions generalizing n with
  | nil => rfl
  | cons a rest ih =>
      obtain ⟨first, later⟩ := Bool.or_eq_false_iff.1 h
      exact (ih later).trans (bytes_after first)

theorem setting_congr {n' : Nvram} (h : n'.bytes = n.bytes) : n'.setting = n.setting := by
  unfold setting bootOption isValid isInitialized
  rw [h]

/-- The flag is up only if something changed. -/
theorem everChanged_of_changed {actions : List NvramAction}
    (h : (actions.foldl after n).changed = true) : n.changed = true ∨ n.everChanged actions = true := by
  induction actions generalizing n with
  | nil => exact .inl h
  | cons a rest ih =>
      rw [everChanged, Bool.or_eq_true]
      rcases ih h with first | later
      · rcases (changed_after n a).1 first with change | ⟨before, -⟩
        · exact .inr (.inl change)
        · exact .inl before
      · exact .inr (.inr later)

/-- While nobody asks, the flag tells whether anything changed. -/
theorem changed_foldl_of_unasked {actions : List NvramAction} (unasked : .ask ∉ actions) :
    (actions.foldl after n).changed = (n.changed || n.everChanged actions) := by
  induction actions generalizing n with
  | nil => exact (Bool.or_false _).symm
  | cons a rest ih =>
      obtain ⟨other, unasked⟩ := not_or.1 (mt List.mem_cons.2 unasked)
      have step : (n.after a).changed = (n.changed || n.changedBy a) := by
        rw [Bool.eq_iff_iff, changed_after, Bool.or_eq_true, or_comm]
        exact or_congr_left (and_iff_left (Ne.symm other))
      rw [List.foldl_cons, ih unasked, step, everChanged, Bool.or_assoc]

end Nvram

end BankedZ80
