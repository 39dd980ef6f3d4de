import BankedZ80.Proofs.Disk.Change

/-!
# What is saved

A host that saves its disks writes back the units that are marked dirty and no others. By the log of
changes, the latest first, `savedImage` is the image that a slot held when it was last loaded or
taken as saved, and `WrittenSinceSaved` says that a sector of it was written since.

`TruthfulFlag` says that the flag of a unit tells whether this is so, and that the host may rely on
it: a unit without the flag holds the image that was loaded or saved. Every change keeps this of
every slot (`TruthfulFlags.change`), and so does every evolution (`TruthfulFlags.evolves`).
-/

namespace BankedZ80

namespace DiskChange

/-- The image that a slot held when it was last loaded or taken as saved, unless it was emptied
since. -/
def savedImage (n : Nat) : List DiskChange → Option ByteArray
  | [] => none
  | event (.loaded k image) :: past => if k = n then some image else savedImage n past
  | event (.unloaded k) :: past => if k = n then none else savedImage n past
  | saved k image :: past => if k = n then image else savedImage n past
  | _ :: past => savedImage n past

/-- A sector of a slot was written since the slot was last loaded or taken as saved. -/
def WrittenSinceSaved (n : Nat) : List DiskChange → Prop
  | [] => False
  | event (.loaded k _) :: past => k ≠ n ∧ WrittenSinceSaved n past
  | event (.unloaded k) :: past => k ≠ n ∧ WrittenSinceSaved n past
  | event (.wrote k _ _) :: past => k = n ∨ WrittenSinceSaved n past
  | saved k _ :: past => k ≠ n ∧ WrittenSinceSaved n past
  | _ :: past => WrittenSinceSaved n past

end DiskChange

open DiskChange

/-- The dirty flag of the unit in a slot tells the truth. -/
structure DiskUnit.TruthfulFlag (past : List DiskChange) (n : Nat) (d : DiskUnit) : Prop where
  /-- The flag is set exactly when a sector was written since the image was loaded or saved. -/
  dirty : d.dirty = true ↔ WrittenSinceSaved n past
  /-- A unit without the flag holds the image that was loaded or saved. -/
  clean : d.dirty = false → savedImage n past = some d.image

namespace DiskController

/-- The flags of all units tell the truth. -/
def TruthfulFlags (past : List DiskChange) (c : DiskController) : Prop :=
  ∀ n d, c.kept n = some d → d.TruthfulFlag past n

variable {c c' : DiskController} {past : List DiskChange}

/-- A change that leaves a slot as it is, and of which the log says so, leaves a truthful flag. -/
theorem TruthfulFlags.other (h : TruthfulFlags past c) {a : DiskChange} {n : Nat} {d : DiskUnit}
    (slot : c.kept n = some d) (written : WrittenSinceSaved n (a :: past) ↔ WrittenSinceSaved n past)
    (saved : savedImage n (a :: past) = savedImage n past) : d.TruthfulFlag (a :: past) n := by
  obtain ⟨dirty, clean⟩ := h n d slot
  exact ⟨dirty.trans written.symm, fun not => saved.trans (clean not)⟩

/-- **Every change leaves truthful flags.** The cases are those of the log. -/
theorem TruthfulFlags.change (h : TruthfulFlags past c) {a : DiskChange} (first : Change c a c') :
    TruthfulFlags (a :: past) c' := by
  intro n d slot
  rw [first.kept] at slot
  cases a with
  | event e =>
      cases e with
      | loaded k image =>
          by_cases hk : k = n
          · rw [applyTo, if_pos hk] at slot
            cases slot
            exact ⟨⟨fun dirty => absurd dirty Bool.false_ne_true,
              fun written => absurd hk written.1⟩, fun _ => if_pos hk⟩
          · rw [applyTo, if_neg hk] at slot
            exact h.other slot (and_iff_right hk) (if_neg hk)
      | unloaded k =>
          by_cases hk : k = n
          · rw [applyTo, if_pos hk] at slot
            cases slot
          · rw [applyTo, if_neg hk] at slot
            exact h.other slot (and_iff_right hk) (if_neg hk)
      | wrote k lba bytes =>
          by_cases hk : k = n
          · rw [applyTo, if_pos hk] at slot
            obtain ⟨before, -, rfl⟩ := Option.map_eq_some_iff.1 slot
            exact ⟨⟨fun _ => .inl hk, fun _ => rfl⟩,
              fun clean => absurd clean.symm Bool.false_ne_true⟩
          · rw [applyTo, if_neg hk] at slot
            exact h.other slot (or_iff_right hk) rfl
  | saved k image =>
      by_cases hk : k = n
      · rw [applyTo, if_pos hk] at slot
        obtain ⟨before, held, rfl⟩ := Option.map_eq_some_iff.1 slot
        refine ⟨⟨fun dirty => absurd dirty Bool.false_ne_true,
          fun written => absurd hk written.1⟩, fun _ => (if_pos hk).trans ?_⟩
        -- The image in the log is the one that the slot held, by the only way to save.
        cases first with
        | save =>
            rw [hk, image_eq_kept, held]
            rfl
      · rw [applyTo, if_neg hk] at slot
        exact h.other slot (and_iff_right hk) (if_neg hk)
  | flagged k manifest =>
      rw [applyTo] at slot
      split at slot
      · obtain ⟨before, held, rfl⟩ := Option.map_eq_some_iff.1 slot
        exact ⟨(h n before held).dirty, (h n before held).clean⟩
      · exact h.other slot .rfl rfl
  | _ => exact h.other slot .rfl rfl

/-- Every evolution leaves truthful flags. -/
theorem TruthfulFlags.evolves (h : TruthfulFlags past c) {log : List DiskChange}
    (evolves : Evolves c log c') : TruthfulFlags (log.reverse ++ past) c' :=
  evolves.keeps
    (fun same h n d slot => h n d ((kept_of_resetRegisters same n).symm.trans slot))
    (fun first h => h.change first) h

end DiskController

end BankedZ80
