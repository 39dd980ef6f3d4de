import BankedZ80.Proofs.Ports.Decoding

/-!
# Which layouts are refused

A layout is refused for the first conflict that is met, device by device and, within a device, port by
port. `PortLayout.Conflict` says from the layout alone what a conflict is, `FirstMet` what the first one
is. Both loops that fill the table stop where something is met (`Explained.foldlM_eq_error_iff`).

`PortTable.ofLayout_follows` puts this together with what a table says that was filled.
-/

namespace BankedZ80

/-! ### The first thing that is met -/

section

variable {α β σ ε : Type}

/-- Going through a list, the first thing that is met at an element, given those before it. -/
def FirstMet (met : List α → α → β → Prop) (l : List α) (b : β) : Prop :=
  ∃ before x, before ++ [x] <+: l ∧ met before x b ∧
    ∀ earlier y, earlier ++ [y] <+: before → ∀ b', ¬met earlier y b'

/-- A loop that has come as far as an element fails there for what is met. -/
def Explained (met : List α → α → β → Prop) (error : β → ε) (f : σ → α → Except ε σ) (s : σ)
    (l : List α) : Prop :=
  ∀ before x s', before ++ [x] <+: l → before.foldlM f s = .ok s' →
    ∀ e, f s' x = .error e ↔ ∃ b, e = error b ∧ met before x b

theorem foldlM_concat {f : σ → α → Except ε σ} {s : σ} {before : List α} {x : α} :
    (before ++ [x]).foldlM f s = before.foldlM f s >>= (f · x) := by
  rw [List.foldlM_append]
  refine congrArg (before.foldlM f s >>= ·) (funext fun s' => ?_)
  rw [List.foldlM_cons]
  exact bind_pure _

/-- A loop that fails has failed at some element, after those before it. -/
theorem foldlM_eq_error {f : σ → α → Except ε σ} {s : σ} {l : List α} {e : ε}
    (failed : l.foldlM f s = .error e) :
    ∃ before x s', before ++ [x] <+: l ∧ before.foldlM f s = .ok s' ∧ f s' x = .error e := by
  induction l generalizing s with
  | nil => cases failed
  | cons x rest ih =>
      rw [List.foldlM_cons] at failed
      cases first : f s x with
      | error e' =>
          rw [first] at failed
          cases failed
          exact ⟨[], x, s, List.prefix_append [x] rest, rfl, first⟩
      | ok s' =>
          rw [first] at failed
          obtain ⟨before, y, s'', inside, done, failed⟩ := ih failed
          refine ⟨x :: before, y, s'', List.cons_prefix_cons.2 ⟨rfl, inside⟩, ?_, failed⟩
          rw [List.foldlM_cons, first]
          exact done

variable {met : List α → α → β → Prop} {error : β → ε} {f : σ → α → Except ε σ} {s s' : σ}
  {l : List α}

/-- A loop that comes through has met nothing. -/
theorem Explained.not_met (explained : Explained met error f s l) {done : List α} (inside : done <+: l)
    (ok : done.foldlM f s = .ok s') {before : List α} {x : α} (earlier : before ++ [x] <+: done)
    (b : β) : ¬met before x b := by
  intro here
  obtain ⟨rest, rfl⟩ := earlier
  rw [List.foldlM_append, bind_eq_ok] at ok
  obtain ⟨next, ok, -⟩ := ok
  rw [foldlM_concat, bind_eq_ok] at ok
  obtain ⟨now, came, passed⟩ := ok
  have failed := (explained before x now ((List.prefix_append _ rest).trans inside) came _).2
    ⟨b, rfl, here⟩
  rw [failed] at passed
  cases passed

/-- **A loop fails for the first thing that is met.** -/
theorem Explained.foldlM_eq_error_iff (explained : Explained met error f s l) (e : ε) :
    l.foldlM f s = .error e ↔ ∃ b, e = error b ∧ FirstMet met l b := by
  constructor
  · intro failed
    obtain ⟨before, x, s', inside, came, failed⟩ := foldlM_eq_error failed
    obtain ⟨b, e_eq, here⟩ := (explained before x s' inside came e).1 failed
    have done : before <+: l := (List.prefix_append before [x]).trans inside
    exact ⟨b, e_eq, before, x, inside, here, fun _ _ earlier => explained.not_met done came earlier⟩
  · rintro ⟨b, rfl, before, x, inside, here, first⟩
    have done : before <+: l := (List.prefix_append before [x]).trans inside
    cases came : before.foldlM f s with
    | error e =>
        -- The loop would have failed before that element, for something that is met earlier.
        obtain ⟨earlier, y, s', inside', came', failed⟩ := foldlM_eq_error came
        obtain ⟨b', -, here'⟩ := (explained earlier y s' (inside'.trans done) came' e).1 failed
        exact absurd here' (first earlier y inside' b')
    | ok s' =>
        have failed := (explained before x s' inside came _).2 ⟨b, rfl, here⟩
        obtain ⟨rest, rfl⟩ := inside
        rw [List.foldlM_append, foldlM_concat, came]
        show (f s' x >>= _) = _
        rw [failed]
        rfl

end

/-! ### Conflicts -/

/-- What is in the way of a device's port once other devices have theirs: there is no such port, and its
own base is reported, or another device decodes it. -/
def PortLayout.Conflict (l : PortLayout) (served : List Device) (device : Device) (register : Nat)
    (port : UInt8) : Prop :=
  0x100 ≤ (l.base device).toNat + register ∧ port = l.base device ∨
    port.toNat = (l.base device).toNat + register ∧ ∃ other ∈ served, l.Decodes other port

/-- The first conflict: through the devices in order, and through the ports of each in ascending
order. -/
def PortLayout.FirstConflict (l : PortLayout) : UInt8 → Prop :=
  FirstMet (fun served device =>
    FirstMet (fun _ register => l.Conflict served device register) (List.range device.width))
    Device.all

namespace PortTable

variable {layout : PortLayout} {t t' : PortTable} {device : Device} {base port : UInt8}

/-- There is a port of each number below 256. -/
theorem exists_port {n : Nat} (h : n < 256) : ∃ port : UInt8, port.toNat = n :=
  ⟨n.toUInt8, by rw [Nat.toUInt8_eq, UInt8.toNat_ofNat', Nat.mod_eq_of_lt h]⟩

/-- A port is refused past the last one and where it is taken. -/
theorem claim_eq_error_iff {register : Nat} {e : MachineError} :
    claim device base t register = .error e ↔ ∃ port, e = .portConflict port ∧
      (0x100 ≤ base.toNat + register ∧ port = base ∨
        port.toNat = base.toNat + register ∧ t.resolve port ≠ none) := by
  unfold claim
  dsimp only
  generalize base.toNat + register = n
  split
  case isTrue inside =>
      obtain ⟨port, rfl⟩ := exists_port inside
      rw [Nat.toUInt8_eq, UInt8.ofNat_toNat, show t.slots[port.toNat] = t.resolve port from rfl]
      cases found : t.resolve port with
      | none =>
          refine iff_of_false nofun ?_
          rintro ⟨port', -, ⟨past, -⟩ | ⟨here, taken⟩⟩
          · omega
          · exact taken (UInt8.toNat_inj.1 here ▸ found)
      | some entry =>
          constructor
          · rintro ⟨⟩
            exact ⟨port, rfl, .inr ⟨rfl, found ▸ nofun⟩⟩
          · rintro ⟨port', rfl, ⟨past, -⟩ | ⟨here, -⟩⟩
            · omega
            · rw [UInt8.toNat_inj.1 here]
  case isFalse past =>
      constructor
      · rintro ⟨⟩
        exact ⟨base, rfl, .inl ⟨Nat.le_of_not_lt past, rfl⟩⟩
      · rintro ⟨port, rfl, ⟨-, rfl⟩ | ⟨here, -⟩⟩
        · rfl
        · exact absurd (here ▸ port.toNat_lt) past

/-- The numbers below another are met in ascending order. -/
theorem prefix_range_iff {before : List Nat} {k n : Nat} :
    before ++ [k] <+: List.range n ↔ before = List.range k ∧ k < n := by
  constructor
  · intro inside
    have le := inside.length_le
    rw [List.length_append, List.length_singleton, List.length_range] at le
    have taken := List.prefix_iff_eq_take.1 inside
    rw [List.length_append, List.length_singleton, List.take_range, Nat.min_eq_left le,
      List.range_succ] at taken
    obtain ⟨before_eq, k_eq⟩ := List.append_inj' taken rfl
    cases k_eq
    exact ⟨before_eq, le⟩
  · rintro ⟨rfl, lt⟩
    rw [← List.range_succ, List.prefix_iff_eq_take, List.length_range, List.take_range,
      Nat.min_eq_left lt]

/-- The ports that are taken are those of the devices served. -/
theorem Serves.resolve_ne_none_iff {served : List Device} (serves : Serves layout served t) :
    t.resolve port ≠ none ↔ ∃ other ∈ served, layout.Decodes other port := by
  rw [Option.ne_none_iff_exists']
  constructor
  · rintro ⟨⟨other, register⟩, found⟩
    obtain ⟨earlier, decodes, -⟩ := (serves port other register).1 found
    exact ⟨other, earlier, decodes⟩
  · rintro ⟨other, earlier, decodes⟩
    exact ⟨_, (serves port other _).2 ⟨earlier, decodes, rfl⟩⟩

/-- A device is refused a port for a conflict with those served before. The ports that it has already
got are others. -/
theorem explained_register {served : List Device} (serves : Serves layout served t) :
    Explained (fun _ register => layout.Conflict served device register) .portConflict
      (claim device (layout.base device)) t (List.range device.width) := by
  intro before register t' inside came e
  obtain ⟨rfl, -⟩ := prefix_range_iff.1 inside
  rw [claim_eq_error_iff]
  refine exists_congr fun port => and_congr_right fun _ =>
    or_congr_right (and_congr_right fun here => ?_)
  rw [(resolve_of_claims came port).2 (by omega)]
  exact serves.resolve_ne_none_iff

theorem explained_registers : Explained (fun served device =>
    FirstMet (fun _ register => layout.Conflict served device register) (List.range device.width))
    .portConflict (register layout) empty Device.all := by
  intro served device t _ came e
  have serves : Serves layout served t := (serves_empty layout).foldlM came
  exact (explained_register serves).foldlM_eq_error_iff e

/-- **A layout is refused for its first conflict.** -/
theorem ofLayout_eq_error_iff {e : MachineError} :
    ofLayout layout = .error e ↔ ∃ port, e = .portConflict port ∧ layout.FirstConflict port :=
  explained_registers.foldlM_eq_error_iff e

/-! ### Layouts without conflict -/

/-- A device that gets its ports has them all before the last port. -/
theorem le_of_register {served : List Device} (serves : Serves layout served t)
    (ok : register layout t device = .ok t') :
    (layout.base device).toNat + device.width ≤ 0x100 := by
  refine Decidable.byContradiction fun beyond => ?_
  have base_lt : (layout.base device).toNat < 0x100 := (layout.base device).toNat_lt
  -- The first register that has no port.
  have register_lt : 0x100 - (layout.base device).toNat < device.width := by omega
  have past := Nat.add_sub_of_le (Nat.le_of_lt base_lt)
  have inside := prefix_range_iff.2 ⟨rfl, register_lt⟩
  exact (explained_register serves).not_met List.prefix_rfl ok inside _
    (.inl ⟨Nat.le_of_eq past.symm, rfl⟩)

/-- On the way to a whole table every device has got its ports. -/
theorem exists_register (made : ofLayout layout = .ok t) (device : Device) :
    ∃ served t' t'', Serves layout served t' ∧ register layout t' device = .ok t'' := by
  obtain ⟨served, later, all_eq⟩ := List.append_of_mem (Device.mem_all device)
  rw [ofLayout, all_eq, List.foldlM_append, bind_eq_ok] at made
  obtain ⟨t', came, made⟩ := made
  rw [List.foldlM_cons, bind_eq_ok] at made
  obtain ⟨t'', registered, -⟩ := made
  exact ⟨served, t', t'', (serves_empty layout).foldlM came, registered⟩

/-- **A layout is accepted** when each device has all its ports and no port belongs to two. -/
theorem exists_ofLayout_iff :
    (∃ t, ofLayout layout = .ok t) ↔
      (∀ device, (layout.base device).toNat + device.width ≤ 0x100) ∧
        ∀ device other port, layout.Decodes device port → layout.Decodes other port →
          device = other := by
  constructor
  · rintro ⟨t, made⟩
    refine ⟨fun device => ?_, fun device other port => device_unique made⟩
    obtain ⟨served, t', t'', serves, registered⟩ := exists_register made device
    exact le_of_register serves registered
  · rintro ⟨fits, apart⟩
    cases made : ofLayout layout with
    | ok t => exact ⟨t, rfl⟩
    | error e =>
        obtain ⟨port, -, served, device, inside, ⟨before, register, within, conflict, -⟩, -⟩ :=
          ofLayout_eq_error_iff.1 made
        have register_lt := (prefix_range_iff.1 within).2
        have fits_device := fits device
        rcases conflict with ⟨past, -⟩ | ⟨here, other, earlier, decodes⟩
        · omega
        · cases apart device other port ⟨by omega, by omega⟩ decodes
          have nodup : (served ++ [device]).Nodup := inside.sublist.nodup (by decide)
          exact absurd rfl ((List.nodup_append.1 nodup).2.2 device earlier device List.mem_cons_self)

/-! ### What a table says -/

theorem resolve_eq_some_iff (made : ofLayout layout = .ok t) {register : UInt8} :
    t.resolve port = some (device, register) ↔
      port.toNat = (layout.base device).toNat + register.toNat ∧ register.toNat < device.width := by
  rw [resolve_eq_some made]
  constructor
  · rintro ⟨⟨le, lt⟩, rfl⟩
    rw [UInt8.toNat_sub_of_le _ _ (UInt8.le_iff_toNat_le.2 le)]
    omega
  · rintro ⟨here, lt⟩
    have le : (layout.base device).toNat ≤ port.toNat := by omega
    refine ⟨⟨le, by omega⟩, UInt8.toNat_inj.1 ?_⟩
    rw [UInt8.toNat_sub_of_le _ _ (UInt8.le_iff_toNat_le.2 le)]
    omega

/-- How many ports are taken. -/
def taken (t : PortTable) : Nat := t.slots.countP Option.isSome

theorem taken_empty : taken empty = 0 := Vector.countP_replicate

theorem taken_claim {register : Nat} (ok : claim device base t register = .ok t') :
    t'.taken = t.taken + 1 := by
  unfold claim at ok
  dsimp only at ok
  split at ok
  case isFalse => cases ok
  case isTrue inside =>
      split at ok
      case h_1 => cases ok
      case h_2 free =>
          cases ok
          rw [taken, Vector.countP_set, free]
          rfl

theorem taken_claims {count : Nat}
    (ok : (List.range count).foldlM (claim device base) t = .ok t') : t'.taken = t.taken + count := by
  induction count generalizing t' with
  | zero =>
      cases ok
      rfl
  | succ count ih =>
      rw [List.range_succ, foldlM_concat, bind_eq_ok] at ok
      obtain ⟨between, first, claimed⟩ := ok
      rw [taken_claim claimed, ih first, Nat.add_assoc]

theorem taken_registers {devices : List Device}
    (ok : devices.foldlM (register layout) t = .ok t') :
    t'.taken = devices.foldl (fun n device => n + device.width) t.taken := by
  induction devices generalizing t with
  | nil =>
      cases ok
      rfl
  | cons device rest ih =>
      rw [List.foldlM_cons, bind_eq_ok] at ok
      obtain ⟨between, registered, ok⟩ := ok
      rw [ih ok, taken_claims registered, List.foldl_cons]

/-- The ports that are taken are those that are listed. -/
theorem length_entries (t : PortTable) : t.entries.length = t.taken := by
  have slots : t.slots.toList = (List.range 256).map fun p => t.resolve p.toUInt8 := by
    refine List.ext_getElem (by simp) fun i inside _ => ?_
    rw [Vector.length_toList] at inside
    obtain ⟨port, rfl⟩ := exists_port inside
    rw [Vector.getElem_toList, List.getElem_map, List.getElem_range, Nat.toUInt8_eq,
      UInt8.ofNat_toNat]
    rfl
  rw [entries, List.length_filterMap_eq_countP, taken, ← Vector.countP_toList, slots, List.countP_map]
  simp only [Option.isSome_map, Function.comp_def]

/-- A table of ports is what its layout says. -/
structure FollowsLayout (layout : PortLayout) : Prop where
  /-- The layout is accepted when each device has all its ports and no port belongs to two. -/
  accepted : (∃ t, ofLayout layout = .ok t) ↔
    (∀ device, (layout.base device).toNat + device.width ≤ 0x100) ∧
      ∀ device other port, layout.Decodes device port → layout.Decodes other port → device = other
  /-- Each register of a device then answers at its distance from the device's base, and no other port
  does. -/
  resolves : ∀ t, ofLayout layout = .ok t → ∀ port device register,
    t.resolve port = some (device, register) ↔
      port.toNat = (layout.base device).toNat + register.toNat ∧ register.toNat < device.width
  /-- There are 26 of them. -/
  decoded : ∀ t, ofLayout layout = .ok t → t.entries.length = 26
  /-- A layout is refused for the first conflict that is met. -/
  refused : ∀ e, ofLayout layout = .error e ↔
    ∃ port, e = .portConflict port ∧ layout.FirstConflict port

/-- **The port table is what its layout says**, for every six bases. -/
theorem ofLayout_follows (layout : PortLayout) : FollowsLayout layout where
  accepted := exists_ofLayout_iff
  resolves _ made _ _ _ := resolve_eq_some_iff made
  decoded t made := by
    rw [length_entries, taken_registers made, taken_empty]
    rfl
  refused _ := ofLayout_eq_error_iff

/-- The disk takes the first port of the settings memory. -/
example : ofLayout { disk := 0x9E } = .error (.portConflict 0xA0) := rfl

/-- A device that passes the last port is reported by its base. -/
example : ofLayout { uart := 0xFC } = .error (.portConflict 0xFC) := rfl

end PortTable

end BankedZ80
