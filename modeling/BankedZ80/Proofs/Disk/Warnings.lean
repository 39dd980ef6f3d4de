import BankedZ80.Proofs.Disk.Change

/-!
# Warnings about writes to catalog images

Three things decide whether a sector write is warned about, and each has its own lifetime: the mark of
a catalog image goes with the image, silence stays with the slot, and the one pending warning waits
until it is asked for. The log of changes, the latest first, says all three:

* `catalogIn` whether the image in a slot is marked,
* `silencedIn` whether a slot is silenced,
* `LatestWarned` which unit the latest write was to that was to be warned about when it happened,
  unless the warning was asked for since.

`TellsWarnings` says that a log and a controller agree on them. Every change keeps this
(`TellsWarnings.change`), and so does every evolution (`TellsWarnings.evolves`).
-/

namespace BankedZ80

namespace DiskChange

/-! ### What the log says -/

/-- Is the image in a slot marked as a catalog image? A newly loaded one is not. -/
def catalogIn (n : Nat) : List DiskChange → Bool
  | [] => false
  | event (.loaded k _) :: past => if k = n then false else catalogIn n past
  | event (.unloaded k) :: past => if k = n then false else catalogIn n past
  | flagged k manifest :: past => if k = n then manifest else catalogIn n past
  | _ :: past => catalogIn n past

/-- Is a slot silenced? Its images come and go without a say in it. -/
def silencedIn (n : Nat) : List DiskChange → Bool
  | [] => false
  | silenced k silent :: past => if k = n then silent else silencedIn n past
  | silencedAll silent :: _ => silent
  | _ :: past => silencedIn n past

/-- A change is a sector write of a unit that, by the log until then, is a catalog image in a slot that
is not silenced. -/
def IsWarned (n : Nat) (a : DiskChange) (past : List DiskChange) : Prop :=
  (∃ lba bytes, a = event (.wrote n lba bytes)) ∧ catalogIn n past = true ∧ silencedIn n past = false

/-- Since the warning was last asked for there was a write to be warned about, and the latest such
write was to this unit. -/
def LatestWarned (n : Nat) (log : List DiskChange) : Prop :=
  ∃ recent a past, log = recent ++ a :: past ∧ IsWarned n a past ∧
    ∀ later b earlier, recent = later ++ b :: earlier →
      b ≠ warningTaken ∧ ∀ k, ¬IsWarned k b (earlier ++ a :: past)

/-! ### What a change does -/

/-- What a change makes of the silenced slots. -/
def applyToSilenced (silent : Vector Bool maxUnits) : DiskChange → Vector Bool maxUnits
  | silenced n on => modifySlot silent n fun _ => on
  | silencedAll on => Vector.replicate maxUnits on
  | _ => silent

/-- What a change makes of the pending warning, where some units are warned about. -/
def applyToPending (warns : Nat → Bool) (pending : Option Nat) : DiskChange → Option Nat
  | event (.wrote n _ _) => if warns n then some n else pending
  | warningTaken => none
  | _ => pending

/-! ### The latest write to be warned about -/

variable {n : Nat} {a : DiskChange} {past : List DiskChange}

theorem isWarned_wrote {k : Nat} {lba : UInt32} {bytes : ByteArray} :
    IsWarned n (event (.wrote k lba bytes)) past ↔
      n = k ∧ (catalogIn k past && !silencedIn k past) = true := by
  rw [Bool.and_eq_true, Bool.not_eq_true']
  constructor
  · rintro ⟨⟨_, _, ⟨⟩⟩, warned⟩
    exact ⟨rfl, warned⟩
  · rintro ⟨rfl, warned⟩
    exact ⟨⟨lba, bytes, rfl⟩, warned⟩

theorem not_latestWarned_nil : ¬LatestWarned n [] := by
  rintro ⟨recent, a, past, log, -⟩
  exact List.cons_ne_nil a past (List.append_eq_nil_iff.1 log.symm).2

/-- What one more change makes of the latest write to be warned about. -/
theorem latestWarned_cons :
    LatestWarned n (a :: past) ↔
      IsWarned n a past ∨ a ≠ warningTaken ∧ (∀ k, ¬IsWarned k a past) ∧ LatestWarned n past := by
  constructor
  · rintro ⟨recent, b, earlier, log, warned, latest⟩
    cases recent with
    | nil =>
        cases log
        exact .inl warned
    | cons a' recent =>
        cases log
        obtain ⟨asked, none⟩ := latest [] a recent rfl
        refine .inr ⟨asked, none, recent, b, earlier, rfl, warned, fun later c between split => ?_⟩
        exact latest (a :: later) c between (congrArg (a :: ·) split)
  · rintro (warned | ⟨asked, none, recent, b, earlier, rfl, warned, latest⟩)
    · exact ⟨[], a, past, rfl, warned, fun later b earlier split => by cases later <;> cases split⟩
    · refine ⟨a :: recent, b, earlier, rfl, warned, fun later c between split => ?_⟩
      cases later with
      | nil =>
          cases split
          exact ⟨asked, none⟩
      | cons a' later =>
          cases split
          exact latest later c between rfl

/-- A change that neither is a write nor asks for the warning leaves it as it is. -/
theorem latestWarned_cons_of_quiet (asked : a ≠ warningTaken)
    (write : ∀ k lba bytes, a ≠ event (.wrote k lba bytes)) :
    LatestWarned n (a :: past) ↔ LatestWarned n past := by
  have none (k : Nat) : ¬IsWarned k a past := fun ⟨⟨lba, bytes, is⟩, _⟩ => write k lba bytes is
  rw [latestWarned_cons]
  exact ⟨fun h => (h.resolve_left (none n)).2.2, fun h => .inr ⟨asked, none, h⟩⟩

end DiskChange

open DiskChange

namespace DiskController

variable {c c' : DiskController} {a : DiskChange} {past : List DiskChange} {n : Nat}

/-! ### Flags and silence -/

/-- A write to a unit is warned about: it is a catalog image, and its slot is not silenced. -/
def Warned (c : DiskController) (n : Nat) : Prop :=
  ∃ d, c.unit? n = some d ∧ d.manifest = true ∧ c.isSilenced n = false

theorem warnsOf_iff : c.warnsOf n = true ↔ c.Warned n := by
  unfold warnsOf Warned isSilenced
  cases c.unit? n <;> simp

theorem warned_iff_kept :
    c.Warned n ↔ ∃ d, c.kept n = some d ∧ d.manifest = true ∧ c.isSilenced n = false := by
  unfold Warned kept
  cases c.unit? n <;> simp

/-- What a change makes of silence and of the pending warning. -/
theorem Change.warnings (h : Change c a c') :
    (c'.silenced, c'.pendingWarning) =
      (a.applyToSilenced c.silenced, a.applyToPending c.warnsOf c.pendingWarning) := by
  cases h with
  | load ok =>
      obtain ⟨-, -, rfl⟩ := load_eq_ok.1 ok
      rw [rebalance_eq]
      rfl
  | unload ok =>
      obtain ⟨-, ⟨-, rfl⟩ | rfl⟩ := unload_eq_ok ok
      · rfl
      · rw [rebalance_eq]
        rfl
  | write ok =>
      rw [putSector_eq]
      rfl
  | slice ok =>
      cases setSliceCount_eq_ok ok
      rfl
  | flag ok =>
      cases (setManifest_eq_ok.1 ok).2
      rfl
  | silence ok =>
      cases setSilenced_eq_ok ok
      rfl
  | save | silenceAll | takeWarning => rfl

theorem Change.silenced (h : Change c a c') : c'.silenced = a.applyToSilenced c.silenced :=
  congrArg Prod.fst h.warnings

theorem Change.pendingWarning (h : Change c a c') :
    c'.pendingWarning = a.applyToPending c.warnsOf c.pendingWarning :=
  congrArg Prod.snd h.warnings

/-- Registers and seek positions play no part. -/
theorem warnings_of_resetRegisters (same : c'.resetRegisters = c.resetRegisters) :
    c'.silenced = c.silenced ∧ c'.pendingWarning = c.pendingWarning :=
  Prod.mk.inj (congrArg (fun c => (c.silenced, c.pendingWarning)) same)

theorem warned_of_resetRegisters (same : c'.resetRegisters = c.resetRegisters) :
    c'.Warned n ↔ c.Warned n := by
  rw [warned_iff_kept, warned_iff_kept, kept_of_resetRegisters same, isSilenced, isSilenced,
    (warnings_of_resetRegisters same).1]

theorem isSilenced_eq (there : n < maxUnits) : c.isSilenced n = c.silenced[n] := by
  rw [isSilenced, Vector.getElem?_eq_getElem there, Option.getD_some]

/-! ### Log and controller -/

/-- The log and the controller agree on flags, silence and the pending warning. -/
structure TellsWarnings (past : List DiskChange) (c : DiskController) : Prop where
  catalog : ∀ n d, c.kept n = some d → d.manifest = catalogIn n past
  silenced : ∀ n, n < maxUnits → c.isSilenced n = silencedIn n past
  pending : ∀ n, c.pendingWarning = some n ↔ LatestWarned n past

/-- A change marks and unmarks images as the log says. -/
theorem TellsWarnings.catalog_change (h : TellsWarnings past c) (first : Change c a c') {n : Nat}
    {d : DiskUnit} (slot : c'.kept n = some d) : d.manifest = catalogIn n (a :: past) := by
  rw [first.kept] at slot
  cases a with
  | event e =>
      cases e with
      | loaded k image =>
          rw [applyTo] at slot
          rw [catalogIn]
          split at slot
          · next here =>
              cases slot
              rw [if_pos here]
          · next other =>
              rw [if_neg other]
              exact h.catalog n d slot
      | unloaded k =>
          rw [applyTo] at slot
          rw [catalogIn]
          split at slot
          · cases slot
          · next other =>
              rw [if_neg other]
              exact h.catalog n d slot
      | wrote k lba bytes =>
          rw [applyTo] at slot
          split at slot
          · obtain ⟨before, held, rfl⟩ := Option.map_eq_some_iff.1 slot
            exact h.catalog n before held
          · exact h.catalog n d slot
  | saved k image =>
      rw [applyTo] at slot
      split at slot
      · obtain ⟨before, held, rfl⟩ := Option.map_eq_some_iff.1 slot
        exact h.catalog n before held
      · exact h.catalog n d slot
  | flagged k manifest =>
      rw [applyTo] at slot
      rw [catalogIn]
      split at slot
      · next here =>
          obtain ⟨before, held, rfl⟩ := Option.map_eq_some_iff.1 slot
          rw [if_pos here]
      · next other =>
          rw [if_neg other]
          exact h.catalog n d slot
  | _ => exact h.catalog n d slot

/-- A change silences slots as the log says. -/
theorem TellsWarnings.silenced_change (h : TellsWarnings past c) (first : Change c a c') {n : Nat}
    (there : n < maxUnits) : c'.isSilenced n = silencedIn n (a :: past) := by
  have before := h.silenced n there
  rw [isSilenced_eq there] at before ⊢
  simp only [first.silenced]
  cases a with
  | silenced k silent =>
      rw [silencedIn, ← before]
      exact getElem_modifySlot c.silenced k n (fun _ => silent) there
  | silencedAll silent => exact Vector.getElem_replicate there
  | _ => exact before

/-- The log and the controller agree on what is to be warned about. -/
theorem TellsWarnings.warnsOf_eq (h : TellsWarnings past c) {n : Nat} {d : DiskUnit}
    (loaded : c.unit? n = some d) : c.warnsOf n = (catalogIn n past && !silencedIn n past) := by
  rw [← h.catalog n _ (kept_of_unit? loaded), ← h.silenced n (lt_of_unit? loaded), warnsOf, loaded]
  rfl

/-- A change raises and takes the warning as the log says. -/
theorem TellsWarnings.pending_change (h : TellsWarnings past c) (first : Change c a c') (n : Nat) :
    c'.pendingWarning = some n ↔ LatestWarned n (a :: past) := by
  rw [first.pendingWarning]
  cases a with
  | event e =>
      cases e with
      | wrote k lba bytes =>
          have warns : c.warnsOf k = (catalogIn k past && !silencedIn k past) := by
            cases first with
            | write ok =>
                obtain ⟨d, there, -⟩ := checkWrite_eq_ok c k lba ok
                exact h.warnsOf_eq (unit?_of_unit c k there)
          rw [applyToPending, latestWarned_cons]
          by_cases warned : c.warnsOf k = true
          · have here : IsWarned k (.event (.wrote k lba bytes)) past :=
              isWarned_wrote.2 ⟨rfl, by rwa [warns] at warned⟩
            rw [if_pos warned]
            constructor
            · rintro ⟨⟩
              exact .inl here
            · rintro (latest | ⟨-, none, -⟩)
              · rw [(isWarned_wrote.1 latest).1]
              · exact absurd here (none k)
          · have none (j : Nat) : ¬IsWarned j (.event (.wrote k lba bytes)) past := fun latest =>
              warned (warns.trans (isWarned_wrote.1 latest).2)
            rw [if_neg warned, h.pending n]
            exact ⟨fun pending => .inr ⟨nofun, none, pending⟩,
              fun latest => (latest.resolve_left (none n)).2.2⟩
      | _ => exact (h.pending n).trans (.symm (latestWarned_cons_of_quiet nofun nofun))
  | warningTaken =>
      rw [latestWarned_cons]
      constructor
      · nofun
      · rintro (⟨⟨_, _, write⟩, -⟩ | ⟨asked, -⟩)
        · cases write
        · exact absurd rfl asked
  | _ => exact (h.pending n).trans (.symm (latestWarned_cons_of_quiet nofun nofun))

/-- **Every change leaves log and controller in agreement.** -/
theorem TellsWarnings.change (h : TellsWarnings past c) (first : Change c a c') :
    TellsWarnings (a :: past) c' where
  catalog _ _ slot := h.catalog_change first slot
  silenced _ there := h.silenced_change first there
  pending n := h.pending_change first n

theorem TellsWarnings.registers (same : c'.resetRegisters = c.resetRegisters)
    (h : TellsWarnings past c) : TellsWarnings past c' where
  catalog n d slot := h.catalog n d ((kept_of_resetRegisters same n).symm.trans slot)
  silenced n there := by
    rw [isSilenced, (warnings_of_resetRegisters same).1]
    exact h.silenced n there
  pending n := by
    rw [(warnings_of_resetRegisters same).2]
    exact h.pending n

/-- Every evolution leaves log and controller in agreement. -/
theorem TellsWarnings.evolves (h : TellsWarnings past c) {log : List DiskChange}
    (evolves : Evolves c log c') : TellsWarnings (log.reverse ++ past) c' :=
  evolves.keeps (fun same h => h.registers same) (fun first h => h.change first) h

/-! ### What leaves warnings alone -/

/-- Nothing but the calls for it silences a slot. -/
theorem Evolves.silenced {log : List DiskChange} (h : Evolves c log c')
    (quiet : ∀ a ∈ log, ∀ silent, a.applyToSilenced silent = silent) : c'.silenced = c.silenced := by
  induction h with
  | refl => rfl
  | registers same _ ih => rw [ih quiet, (warnings_of_resetRegisters same).1]
  | change first _ ih =>
      rw [ih fun a later => quiet a (List.mem_cons_of_mem _ later), first.silenced,
        quiet _ List.mem_cons_self]

theorem Evolves.pendingWarning {log : List DiskChange} (h : Evolves c log c')
    (quiet : ∀ a ∈ log, ∀ warns pending, a.applyToPending warns pending = pending) :
    c'.pendingWarning = c.pendingWarning := by
  induction h with
  | refl => rfl
  | registers same _ ih => rw [ih quiet, (warnings_of_resetRegisters same).2]
  | change first _ ih =>
      rw [ih fun a later => quiet a (List.mem_cons_of_mem _ later), first.pendingWarning,
        quiet _ List.mem_cons_self]

/-- Loading, emptying and writing never bring about that a unit is warned about. -/
theorem Change.warned_of_event {e : DiskEvent} (h : Change c (.event e) c') (warned : c'.Warned n) :
    c.Warned n := by
  obtain ⟨d, slot, manifest, audible⟩ := warned_iff_kept.1 warned
  refine warned_iff_kept.2 ?_
  have audible : c.isSilenced n = false := by
    rwa [isSilenced, h.silenced] at audible
  rw [h.kept, applyTo.eq_def] at slot
  cases e with
  | loaded k image =>
      dsimp only at slot
      split at slot
      · cases slot
        cases manifest
      · exact ⟨d, slot, manifest, audible⟩
  | unloaded k =>
      dsimp only at slot
      split at slot
      · cases slot
      · exact ⟨d, slot, manifest, audible⟩
  | wrote k lba bytes =>
      dsimp only at slot
      split at slot
      · obtain ⟨before, held, rfl⟩ := Option.map_eq_some_iff.1 slot
        exact ⟨before, held, manifest, audible⟩
      · exact ⟨d, slot, manifest, audible⟩

theorem Change.pendingWarning_of_event {e : DiskEvent} (h : Change c (.event e) c')
    (quiet : ∀ n lba bytes, e = .wrote n lba bytes → ¬c.Warned n) :
    c'.pendingWarning = c.pendingWarning := by
  rw [h.pendingWarning]
  cases e with
  | wrote n lba bytes => exact if_neg fun warns => quiet n lba bytes rfl (warnsOf_iff.1 warns)
  | _ => rfl

/-- **No warning comes or goes** by events unless a unit that is warned about is written to. By
induction on the events: none of them makes a unit one that is warned about. -/
theorem Evolves.pendingWarning_of_events {events : List DiskEvent} (h : Evolves c (events.map .event) c')
    (quiet : ∀ n lba bytes, .wrote n lba bytes ∈ events → ¬c.Warned n) :
    c'.pendingWarning = c.pendingWarning := by
  generalize same : events.map DiskChange.event = log at h
  induction h generalizing events with
  | refl => rfl
  | @registers c c' _ _ registers _ ih =>
      rw [ih (fun n lba bytes there => ?_) same, (warnings_of_resetRegisters registers).2]
      rw [warned_of_resetRegisters registers]
      exact quiet n lba bytes there
  | change first _ ih =>
      obtain ⟨e, later, rfl, rfl, rfl⟩ := List.map_eq_cons_iff.1 same
      rw [ih (fun n lba bytes there w => ?_) rfl, first.pendingWarning_of_event]
      · exact fun n lba bytes is => quiet n lba bytes (is ▸ List.mem_cons_self)
      · exact quiet n lba bytes (List.mem_cons_of_mem _ there) (first.warned_of_event w)

end DiskController

end BankedZ80
