import BankedZ80.Bundle.Manifest
import Mathlib.Data.List.Nodup
import Mathlib.Data.List.Range

/-!
# Which units the disks get

An entry of a manifest gets the unit that it asks for. The others get what is left, the lowest units
first, where a unit that is asked for further down the list is not left either.

* The first pass over the entries is passed by those that ask for different units that are there
  (`claimSlots_append`); otherwise it stops at the first entry that does not (`claimSlots_eq`).
* The second pass hands out the free units from the front (`Dealt`), and fails only when there are
  none left (`fillUnits_eq`).
* `length_unclaimedUnits` and `length_slots` count: there are units enough exactly when there are at
  most sixteen entries, however many of these ask for one.

`AssignsUnits` puts it together, and says which entry is to blame when there are no units.
-/

namespace BankedZ80

/-- The units of the entries that ask for none, in listed order. -/
def leftoverUnits (entries : List DiskEntry) (units : List Nat) : List Nat :=
  ((entries.zip units).filter (·.1.slot.isNone)).map (·.2)

/-- The units that some entries ask for are there, and all different. -/
structure SlotsApart (entries : List DiskEntry) : Prop where
  there : ∀ n ∈ entries.filterMap (·.slot), n < maxUnits
  nodup : (entries.filterMap (·.slot)).Nodup

/-- A unit for every entry. -/
structure Assigned (entries : List DiskEntry) (units : List Nat) : Prop where
  /-- An entry gets the unit that it asks for, if it asks for one. -/
  asked : List.Forall₂ (fun entry unit => ∀ n, entry.slot = some n → unit = n) entries units
  there : ∀ n ∈ units, n < maxUnits
  nodup : units.Nodup
  /-- The others get ascending units, -/
  ascending : (leftoverUnits entries units).Pairwise (· < ·)
  /-- which no entry of the list asks for, -/
  unclaimed : ∀ n ∈ leftoverUnits entries units, n ∉ entries.filterMap (·.slot)
  /-- and lower ones that nobody asks for are not passed over. -/
  lowest : ∀ n ∈ leftoverUnits entries units, ∀ m < n, m ∉ entries.filterMap (·.slot) →
    m ∈ leftoverUnits entries units

/-- Why there are no units for some entries. -/
inductive Unassignable (entries : List DiskEntry) : MachineError → Prop where
  /-- The first entry to ask for a unit that is not there, when nothing was asked for twice before. -/
  | missing {before after : List DiskEntry} {entry : DiskEntry} {n : Nat}
      (split : entries = before ++ entry :: after) (asks : entry.slot = some n)
      (far : maxUnits ≤ n) (apart : SlotsApart before) : Unassignable entries (.invalidUnit n)
  /-- The first entry to ask for a unit again, when all units asked for before are there. -/
  | again {before after : List DiskEntry} {entry : DiskEntry} {n : Nat}
      (split : entries = before ++ entry :: after) (asks : entry.slot = some n)
      (earlier : n ∈ before.filterMap (·.slot)) (apart : SlotsApart before) :
      Unassignable entries (.bundle (.unitTaken n))
  /-- Nothing is wrong but the number of entries. -/
  | crowded (apart : SlotsApart entries) (many : maxUnits < entries.length) :
      Unassignable entries (.bundle (.tooManyDisks maxUnits))

/-- What is made of a list of entries. -/
structure AssignsUnits (entries : List DiskEntry) : Prop where
  succeeds : (∃ units, assignUnits entries = .ok units) ↔
    SlotsApart entries ∧ entries.length ≤ maxUnits
  assigned (units : List Nat) : assignUnits entries = .ok units → Assigned entries units
  fails (error : MachineError) : assignUnits entries = .error error ↔ Unassignable entries error

/-! ### The first pass -/

variable {entries before after : List DiskEntry} {entry : DiskEntry} {taken free units : List Nat}
  {n : Nat} {error : MachineError}

theorem filterMap_slot_cons (entry : DiskEntry) (rest : List DiskEntry) :
    (entry :: rest).filterMap (·.slot) = entry.slot.toList ++ rest.filterMap (·.slot) := by
  cases hs : entry.slot with
  | none => rw [List.filterMap_cons_none hs, Option.toList_none, List.nil_append]
  | some n => rw [List.filterMap_cons_some hs, Option.toList_some, List.singleton_append]

/-- Why a slot is refused to an entry: there is no such unit, or it is taken already. -/
inductive RefusesSlot (taken : List Nat) (n : Nat) : MachineError → Prop where
  | missing (far : maxUnits ≤ n) : RefusesSlot taken n (.invalidUnit n)
  | again (below : n < maxUnits) (earlier : n ∈ taken) : RefusesSlot taken n (.bundle (.unitTaken n))

theorem claimSlots_of_refused (asks : entry.slot = some n) (refused : RefusesSlot taken n error) :
    claimSlots taken (entry :: after) = .error error := by
  rw [claimSlots, asks]
  dsimp only
  cases refused with
  | missing far => rw [if_pos far]
  | again below earlier =>
      rw [if_neg (Nat.not_le.2 below), if_pos (List.contains_iff_mem.2 earlier)]

/-- Any other entry is passed over. -/
theorem claimSlots_of_passed (there : ∀ m ∈ entry.slot.toList, m < maxUnits)
    (apart : (taken ++ entry.slot.toList).Nodup) :
    claimSlots taken (entry :: after) = claimSlots (taken ++ entry.slot.toList) after := by
  rw [claimSlots]
  cases hs : entry.slot with
  | none => rw [Option.toList_none, List.append_nil]
  | some n =>
      rw [hs, Option.toList_some] at there apart
      have below : n < maxUnits := there n List.mem_cons_self
      have fresh : n ∉ taken := fun old =>
        (List.nodup_append.1 apart).2.2 n old n List.mem_cons_self rfl
      dsimp only
      rw [if_neg (Nat.not_le.2 below), if_neg (mt List.contains_iff_mem.1 fresh), Option.toList_some]

theorem refused_or_passed (start : taken.Nodup) (entry : DiskEntry) :
    (∃ n error, entry.slot = some n ∧ RefusesSlot taken n error) ∨
      (∀ m ∈ entry.slot.toList, m < maxUnits) ∧ (taken ++ entry.slot.toList).Nodup := by
  cases hs : entry.slot with
  | none => exact .inr ⟨nofun, by rwa [Option.toList_none, List.append_nil]⟩
  | some n =>
      rw [Option.toList_some, List.forall_mem_singleton, ← List.concat_eq_append]
      by_cases below : n < maxUnits
      · by_cases earlier : n ∈ taken
        · exact .inl ⟨n, _, rfl, .again below earlier⟩
        · exact .inr ⟨below, start.concat earlier⟩
      · exact .inl ⟨n, _, rfl, .missing (Nat.le_of_not_lt below)⟩

/-- Entries that ask for different units, all there and none taken, are passed over. -/
theorem claimSlots_append (there : ∀ m ∈ before.filterMap (·.slot), m < maxUnits)
    (nodup : (taken ++ before.filterMap (·.slot)).Nodup) :
    claimSlots taken (before ++ after) = claimSlots (taken ++ before.filterMap (·.slot)) after := by
  induction before generalizing taken with
  | nil => rw [List.filterMap_nil, List.append_nil, List.nil_append]
  | cons entry rest ih =>
      rw [filterMap_slot_cons] at there nodup ⊢
      rw [← List.append_assoc] at nodup ⊢
      rw [List.forall_mem_append] at there
      rw [List.cons_append, claimSlots_of_passed there.1 (List.nodup_append.1 nodup).1]
      exact ih there.2 nodup

/-- **The first pass** passes over all entries, or stops at the first that it refuses its slot. By
induction on the entries. -/
theorem claimSlots_eq (start : taken.Nodup) (entries : List DiskEntry) :
    ((∀ m ∈ entries.filterMap (·.slot), m < maxUnits) ∧
      (taken ++ entries.filterMap (·.slot)).Nodup ∧
      claimSlots taken entries = .ok (taken ++ entries.filterMap (·.slot))) ∨
    ∃ before entry after n error, entries = before ++ entry :: after ∧ entry.slot = some n ∧
      (∀ m ∈ before.filterMap (·.slot), m < maxUnits) ∧
      (taken ++ before.filterMap (·.slot)).Nodup ∧
      RefusesSlot (taken ++ before.filterMap (·.slot)) n error ∧
      claimSlots taken entries = .error error := by
  induction entries generalizing taken with
  | nil =>
      rw [List.filterMap_nil, List.append_nil]
      exact .inl ⟨nofun, start, rfl⟩
  | cons entry rest ih =>
      rcases refused_or_passed start entry with ⟨n, error, asks, refused⟩ | ⟨below, apart⟩
      · refine .inr ⟨[], entry, rest, n, error, rfl, asks, nofun, ?_, ?_,
          claimSlots_of_refused asks refused⟩
        · rwa [List.filterMap_nil, List.append_nil]
        · rwa [List.filterMap_nil, List.append_nil]
      · rw [claimSlots_of_passed below apart, filterMap_slot_cons, ← List.append_assoc,
          List.forall_mem_append]
        rcases ih apart with
          ⟨there, nodup, claimed⟩ | ⟨before, culprit, after, n, error, rfl, asks, there, nodup, rest⟩
        · exact .inl ⟨⟨below, there⟩, nodup, claimed⟩
        · rw [List.append_assoc, ← filterMap_slot_cons] at nodup rest
          refine .inr ⟨entry :: before, culprit, after, n, error, rfl, asks, ?_, nodup, rest⟩
          rw [filterMap_slot_cons, List.forall_mem_append]
          exact ⟨below, there⟩

/-! ### The second pass -/

theorem leftoverUnits_cons_of_some (asks : entry.slot = some n) (unit : Nat) :
    leftoverUnits (entry :: entries) (unit :: units) = leftoverUnits entries units := by
  rw [leftoverUnits, List.zip_cons_cons, List.filter_cons_of_neg (by simp [asks])]
  rfl

theorem leftoverUnits_cons_of_none (asks : entry.slot = none) (unit : Nat) :
    leftoverUnits (entry :: entries) (unit :: units) = unit :: leftoverUnits entries units := by
  rw [leftoverUnits, List.zip_cons_cons, List.filter_cons_of_pos (by simp [asks])]
  rfl

/-- What the second pass hands out: to every entry a unit, which is the one that it asks for or the
next of the free ones. -/
structure Dealt (free : List Nat) (entries : List DiskEntry) (units : List Nat) : Prop where
  asked : List.Forall₂ (fun entry unit => ∀ n, entry.slot = some n → unit = n) entries units
  leftover : leftoverUnits entries units = free.take (entries.countP (·.slot.isNone))

/-- **The second pass** ends well as long as there are free units enough. By induction on the
entries. -/
theorem fillUnits_eq (free : List Nat) (entries : List DiskEntry) :
    (entries.countP (·.slot.isNone) ≤ free.length ∧
      ∃ units, fillUnits free entries = .ok units ∧ Dealt free entries units) ∨
    (free.length < entries.countP (·.slot.isNone) ∧
      fillUnits free entries = .error (.bundle (.tooManyDisks maxUnits))) := by
  induction entries generalizing free with
  | nil => exact .inl ⟨Nat.zero_le _, [], rfl, .nil, rfl⟩
  | cons entry rest ih =>
      cases hs : entry.slot with
      | some n =>
          have others := List.countP_cons_of_neg (p := fun entry : DiskEntry => entry.slot.isNone)
            (a := entry) (l := rest) (by simp [hs])
          simp only [fillUnits, hs]
          rw [others]
          rcases ih free with ⟨room, units, filled, dealt⟩ | ⟨short, failed⟩
          · refine .inl ⟨room, n :: units, by rw [filled]; rfl, .cons ?_ dealt.asked, ?_⟩
            · intro m asks
              exact Option.some.inj (hs.symm.trans asks)
            · rw [leftoverUnits_cons_of_some hs, dealt.leftover, others]
          · exact .inr ⟨short, by rw [failed]; rfl⟩
      | none =>
          have others := List.countP_cons_of_pos (p := fun entry : DiskEntry => entry.slot.isNone)
            (a := entry) (l := rest) (by simp [hs])
          rw [others]
          cases free with
          | nil =>
              simp only [fillUnits, hs]
              exact .inr ⟨Nat.succ_pos _, trivial⟩
          | cons unit free =>
              simp only [fillUnits, hs]
              rcases ih free with ⟨room, units, filled, dealt⟩ | ⟨short, failed⟩
              · refine .inl ⟨Nat.succ_le_succ room, unit :: units, by rw [filled]; rfl,
                  .cons ?_ dealt.asked, ?_⟩
                · intro m asks
                  exact nomatch hs.symm.trans asks
                · rw [leftoverUnits_cons_of_none hs, dealt.leftover, others, List.take_succ_cons]
              · exact .inr ⟨Nat.succ_lt_succ short, by rw [failed]; rfl⟩

/-- The units are those that are asked for and those that are not. -/
theorem perm_units
    (asked : List.Forall₂ (fun entry unit => ∀ n, entry.slot = some n → unit = n) entries units) :
    units.Perm (entries.filterMap (·.slot) ++ leftoverUnits entries units) := by
  induction asked with
  | nil => exact .refl []
  | @cons entry unit rest units asks _ ih =>
      rw [filterMap_slot_cons]
      cases hs : entry.slot with
      | some n =>
          rw [leftoverUnits_cons_of_some hs, asks n hs]
          exact ih.cons n
      | none =>
          rw [leftoverUnits_cons_of_none hs]
          exact (ih.cons unit).trans List.perm_middle.symm

/-! ### Counting -/

/-- The units that no entry asks for. -/
def unclaimedUnits (entries : List DiskEntry) : List Nat :=
  (List.range maxUnits).filter fun n => !(entries.filterMap (·.slot)).contains n

theorem mem_unclaimedUnits :
    n ∈ unclaimedUnits entries ↔ n < maxUnits ∧ n ∉ entries.filterMap (·.slot) := by
  rw [unclaimedUnits, List.mem_filter, List.mem_range, Bool.not_eq_true', ← Bool.not_eq_true,
    List.contains_iff_mem]

theorem pairwise_unclaimedUnits : (unclaimedUnits entries).Pairwise (· < ·) :=
  List.pairwise_lt_range.filter _

/-- Every unit is asked for or free. -/
theorem length_unclaimedUnits (apart : SlotsApart entries) :
    (unclaimedUnits entries).length + (entries.filterMap (·.slot)).length = maxUnits := by
  have asked : ((List.range maxUnits).filter (entries.filterMap (·.slot)).contains).Perm
      (entries.filterMap (·.slot)) := by
    refine (List.perm_ext_iff_of_nodup (List.nodup_range.filter _) apart.nodup).2 fun n => ?_
    rw [List.mem_filter, List.mem_range, List.contains_iff_mem]
    exact and_iff_right_of_imp (apart.there n)
  have all := List.length_eq_length_filter_add (l := List.range maxUnits)
    (entries.filterMap (·.slot)).contains
  rw [asked.length_eq, List.length_range] at all
  rw [unclaimedUnits]
  omega

/-- Every entry asks for a unit or does not. -/
theorem length_slots (entries : List DiskEntry) :
    (entries.filterMap (·.slot)).length + entries.countP (·.slot.isNone) = entries.length := by
  induction entries with
  | nil => rfl
  | cons entry rest ih =>
      rw [filterMap_slot_cons, List.length_append, List.countP_cons, List.length_cons]
      cases entry.slot with
      | none => simp; omega
      | some n => simp; omega

/-! ### Both passes -/

/-- Units that are there and all different are claimed as they are. -/
theorem assignUnits_of_apart (apart : SlotsApart entries) :
    assignUnits entries = fillUnits (unclaimedUnits entries) entries := by
  have claimed : claimSlots [] (entries ++ []) = claimSlots ([] ++ entries.filterMap (·.slot)) [] :=
    claimSlots_append apart.there apart.nodup
  rw [List.append_nil, List.nil_append, claimSlots] at claimed
  rw [assignUnits, claimed]
  rfl

/-- An entry that is refused its slot is to blame. -/
theorem assignUnits_of_refused (asks : entry.slot = some n) (apart : SlotsApart before)
    (refused : RefusesSlot (before.filterMap (·.slot)) n error) :
    assignUnits (before ++ entry :: after) = .error error := by
  rw [assignUnits, claimSlots_append apart.there apart.nodup, List.nil_append,
    claimSlots_of_refused asks refused]
  rfl

/-- When the units that are asked for are there and all different, the number of entries decides. -/
theorem assignUnits_eq (apart : SlotsApart entries) :
    (entries.length ≤ maxUnits ∧
      ∃ units, assignUnits entries = .ok units ∧ Dealt (unclaimedUnits entries) entries units) ∨
    (maxUnits < entries.length ∧
      assignUnits entries = .error (.bundle (.tooManyDisks maxUnits))) := by
  have free := length_unclaimedUnits apart
  have listed := length_slots entries
  rw [assignUnits_of_apart apart]
  rcases fillUnits_eq (unclaimedUnits entries) entries with ⟨room, filled⟩ | ⟨short, failed⟩
  · exact .inl ⟨by omega, filled⟩
  · exact .inr ⟨by omega, failed⟩

/-- **What becomes of the entries**: units, or an error that one of them is to blame for, or their
number. -/
theorem assignUnits_cases (entries : List DiskEntry) :
    (SlotsApart entries ∧ entries.length ≤ maxUnits ∧
      ∃ units, assignUnits entries = .ok units ∧ Dealt (unclaimedUnits entries) entries units) ∨
    ∃ error, Unassignable entries error ∧ assignUnits entries = .error error := by
  rcases claimSlots_eq List.nodup_nil entries with
    ⟨there, nodup, -⟩ | ⟨before, entry, after, n, error, rfl, asks, there, nodup, refused, -⟩
  · have apart : SlotsApart entries := ⟨there, nodup⟩
    rcases assignUnits_eq apart with ⟨room, filled⟩ | ⟨many, failed⟩
    · exact .inl ⟨apart, room, filled⟩
    · exact .inr ⟨_, .crowded apart many, failed⟩
  · have apart : SlotsApart before := ⟨there, nodup⟩
    refine .inr ⟨error, ?_, assignUnits_of_refused asks apart refused⟩
    cases refused with
    | missing far => exact .missing rfl asks far apart
    | again below earlier => exact .again rfl asks earlier apart

/-- No lower unit is free than those handed out. -/
theorem Dealt.lowest (dealt : Dealt (unclaimedUnits entries) entries units) {m : Nat}
    (mem : n ∈ leftoverUnits entries units) (below : m < n)
    (unasked : m ∉ entries.filterMap (·.slot)) : m ∈ leftoverUnits entries units := by
  obtain ⟨later, whole⟩ : leftoverUnits entries units <+: unclaimedUnits entries := by
    rw [dealt.leftover]
    exact List.take_prefix _ _
  have there := (mem_unclaimedUnits.1 (whole ▸ List.mem_append_left later mem)).1
  have free : m ∈ unclaimedUnits entries := mem_unclaimedUnits.2 ⟨Nat.lt_trans below there, unasked⟩
  have ascending : (unclaimedUnits entries).Pairwise (· < ·) := pairwise_unclaimedUnits
  rw [← whole] at ascending free
  rcases List.mem_append.1 free with handed | left
  · exact handed
  · have above := (List.pairwise_append.1 ascending).2.2 n mem m left
    omega

theorem Dealt.assigned (dealt : Dealt (unclaimedUnits entries) entries units)
    (apart : SlotsApart entries) : Assigned entries units := by
  have within : (leftoverUnits entries units).Sublist (unclaimedUnits entries) := by
    rw [dealt.leftover]
    exact List.take_sublist _ _
  have ascending := pairwise_unclaimedUnits.sublist within
  have free (n : Nat) (mem : n ∈ leftoverUnits entries units) :
      n < maxUnits ∧ n ∉ entries.filterMap (·.slot) := mem_unclaimedUnits.1 (within.subset mem)
  have perm := perm_units dealt.asked
  refine
    { asked := dealt.asked
      there := fun n mem => ?_
      nodup := ?_
      ascending
      unclaimed := fun n mem => (free n mem).2
      lowest := fun n mem m below unasked => dealt.lowest mem below unasked }
  · rcases List.mem_append.1 (perm.mem_iff.1 mem) with asked | handed
    · exact apart.there n asked
    · exact (free n handed).1
  · refine perm.nodup_iff.2 (apart.nodup.append (ascending.imp Nat.ne_of_lt) ?_)
    exact fun n asked handed => (free n handed).2 asked

theorem assigned_of_assignUnits (h : assignUnits entries = .ok units) : Assigned entries units := by
  rcases assignUnits_cases entries with ⟨apart, -, units', h', dealt⟩ | ⟨error, -, failed⟩
  · rw [h] at h'
    cases h'
    exact dealt.assigned apart
  · exact nomatch h.symm.trans failed

theorem exists_assignUnits_iff :
    (∃ units, assignUnits entries = .ok units) ↔
      SlotsApart entries ∧ entries.length ≤ maxUnits := by
  constructor
  · rintro ⟨units, h⟩
    rcases assignUnits_cases entries with ⟨apart, room, -⟩ | ⟨error, -, failed⟩
    · exact ⟨apart, room⟩
    · exact nomatch h.symm.trans failed
  · rintro ⟨apart, room⟩
    rcases assignUnits_eq apart with ⟨-, units, h, -⟩ | ⟨many, -⟩
    · exact ⟨units, h⟩
    · omega

/-- **What is wrong** when there are no units. -/
theorem assignUnits_eq_error_iff :
    assignUnits entries = .error error ↔ Unassignable entries error := by
  constructor
  · intro h
    rcases assignUnits_cases entries with ⟨-, -, units, ok, -⟩ | ⟨reason, wrong, failed⟩
    · exact nomatch h.symm.trans ok
    · rw [h] at failed
      cases failed
      exact wrong
  · intro wrong
    cases wrong with
    | missing split asks far apart =>
        rw [split]
        exact assignUnits_of_refused asks apart (.missing far)
    | @again _ _ _ n split asks earlier apart =>
        rw [split]
        exact assignUnits_of_refused asks apart (.again (apart.there n earlier) earlier)
    | crowded apart many =>
        rcases assignUnits_eq apart with ⟨room, -⟩ | ⟨-, failed⟩
        · omega
        · exact failed

/-- **Every entry gets its unit**, for all lists of entries. -/
theorem assignUnits_settles (entries : List DiskEntry) : AssignsUnits entries where
  succeeds := exists_assignUnits_iff
  assigned _ := assigned_of_assignUnits
  fails _ := assignUnits_eq_error_iff

/-- The lowest unit is asked for further down. -/
example : assignUnits [{ file := "a" }, { file := "b", slot := some 0 }, { file := "c" }] =
    .ok [1, 0, 2] := by decide

end BankedZ80
