import BankedZ80.Ports

/-!
# Which device decodes a port

`PortLayout.Decodes` says from the layout alone which ports a device decodes. A table that was filled
without a conflict says the same (`PortTable.resolve_eq_some`), and then no port belongs to two devices
(`PortTable.device_unique`).

The table is filled in three loops, one inside the other, and each has its lemma: one port
(`resolve_of_claim`), the ports of one device (`resolve_of_claims`), all devices (`Serves.register`,
`serves_of_ofLayout`).
-/

namespace BankedZ80

/-- A device decodes the ports from its base on, as many as it is wide. -/
def PortLayout.Decodes (l : PortLayout) (device : Device) (port : UInt8) : Prop :=
  (l.base device).toNat ≤ port.toNat ∧ port.toNat < (l.base device).toNat + device.width

instance (l : PortLayout) (device : Device) (port : UInt8) : Decidable (l.Decodes device port) :=
  inferInstanceAs (Decidable (_ ∧ _))

theorem Device.mem_all (device : Device) : device ∈ all := by
  cases device <;> decide

namespace PortTable

variable {layout : PortLayout} {t t' : PortTable} {device : Device} {base port : UInt8}

/-! ### One port -/

/-- A port that is given away was free, and no other port changes. -/
theorem resolve_of_claim {register : Nat} (ok : claim device base t register = .ok t') :
    ∀ port : UInt8,
      (port.toNat = base.toNat + register →
        t.resolve port = none ∧ t'.resolve port = some (device, port - base)) ∧
      (port.toNat ≠ base.toNat + register → t'.resolve port = t.resolve port) := by
  intro port
  have port_lt : port.toNat < 256 := port.toNat_lt
  unfold claim at ok
  dsimp only at ok
  split at ok
  case isFalse => cases ok
  case isTrue inside =>
      split at ok
      case h_1 => cases ok
      case h_2 free =>
          cases ok
          constructor
          · intro here
            have register_eq : register.toUInt8 = port - base := by
              apply UInt8.toNat_inj.1
              rw [UInt8.toNat_sub_of_le _ _ (UInt8.le_iff_toNat_le.2 (by omega)), Nat.toUInt8_eq,
                UInt8.toNat_ofNat']
              omega
            refine ⟨?_, ?_⟩
            · show t.slots[port.toNat] = none
              simpa only [here] using free
            · show (t.slots.set _ _ inside)[port.toNat] = _
              rw [Vector.getElem_set, if_pos here.symm, register_eq]
          · intro elsewhere
            show (t.slots.set _ _ inside)[port.toNat] = t.slots[port.toNat]
            rw [Vector.getElem_set, if_neg (Ne.symm elsewhere)]

/-! ### The ports of one device -/

/-- The same for the first ports of a device, by induction on their number. -/
theorem resolve_of_claims {count : Nat}
    (ok : (List.range count).foldlM (claim device base) t = .ok t') :
    ∀ port : UInt8,
      (base.toNat ≤ port.toNat ∧ port.toNat < base.toNat + count →
        t.resolve port = none ∧ t'.resolve port = some (device, port - base)) ∧
      (¬(base.toNat ≤ port.toNat ∧ port.toNat < base.toNat + count) →
        t'.resolve port = t.resolve port) := by
  induction count generalizing t' with
  | zero =>
      cases ok
      exact fun port => ⟨fun inside => by omega, fun _ => rfl⟩
  | succ count ih =>
      rw [List.range_succ, List.foldlM_append] at ok
      obtain ⟨between, first, ok⟩ := bind_eq_ok.1 ok
      rw [List.foldlM_cons] at ok
      obtain ⟨last, claimed, done⟩ := bind_eq_ok.1 ok
      cases done
      intro port
      obtain ⟨here, elsewhere⟩ := resolve_of_claim claimed port
      obtain ⟨inside, outside⟩ := ih first port
      constructor
      · intro within
        by_cases new : port.toNat = base.toNat + count
        · obtain ⟨free, given⟩ := here new
          rw [← outside (by omega)]
          exact ⟨free, given⟩
        · rw [elsewhere new]
          exact inside (by omega)
      · intro beyond
        rw [elsewhere (by omega), outside (by omega)]

/-! ### All devices -/

/-- The table is what the layout says of the devices that have their ports. -/
def Serves (layout : PortLayout) (served : List Device) (t : PortTable) : Prop :=
  ∀ port device register, t.resolve port = some (device, register) ↔
    device ∈ served ∧ layout.Decodes device port ∧ register = port - layout.base device

theorem serves_empty (layout : PortLayout) : Serves layout [] empty := by
  intro port device register
  have free : empty.resolve port = none := Vector.getElem_replicate port.toNat_lt
  simp [free]

theorem Serves.register {served : List Device} (serves : Serves layout served t)
    (ok : PortTable.register layout t device = .ok t') : Serves layout (served ++ [device]) t' := by
  intro port other register
  obtain ⟨inside, outside⟩ := resolve_of_claims ok port
  rw [List.mem_append, List.mem_singleton]
  by_cases decoded : layout.Decodes device port
  · obtain ⟨free, given⟩ := inside decoded
    rw [given]
    constructor
    · rintro ⟨⟩
      exact ⟨.inr rfl, decoded, rfl⟩
    · rintro ⟨earlier | rfl, decodes, rfl⟩
      · -- The port was free, so no earlier device decodes it.
        rw [(serves port other _).2 ⟨earlier, decodes, rfl⟩] at free
        cases free
      · rfl
  · rw [outside decoded, serves port other register]
    constructor
    · rintro ⟨earlier, rest⟩
      exact ⟨.inl earlier, rest⟩
    · rintro ⟨earlier | rfl, rest⟩
      · exact ⟨earlier, rest⟩
      · exact absurd rest.1 decoded

theorem Serves.foldlM {devices served : List Device} (serves : Serves layout served t)
    (ok : devices.foldlM (PortTable.register layout) t = .ok t') :
    Serves layout (served ++ devices) t' := by
  induction devices generalizing served t with
  | nil =>
      cases ok
      rwa [List.append_nil]
  | cons device rest ih =>
      rw [List.foldlM_cons] at ok
      obtain ⟨next, registered, ok⟩ := bind_eq_ok.1 ok
      have all := ih (serves.register registered) ok
      rwa [List.append_assoc, List.singleton_append] at all

theorem serves_of_ofLayout (made : ofLayout layout = .ok t) : Serves layout Device.all t :=
  (serves_empty layout).foldlM made

/-- **The table of a layout says what the layout says.** -/
theorem resolve_eq_some (made : ofLayout layout = .ok t) {register : UInt8} :
    t.resolve port = some (device, register) ↔
      layout.Decodes device port ∧ register = port - layout.base device := by
  rw [serves_of_ofLayout made port device register]
  exact and_iff_right (Device.mem_all device)

theorem resolve_of_decodes (made : ofLayout layout = .ok t) (decodes : layout.Decodes device port) :
    t.resolve port = some (device, port - layout.base device) :=
  (resolve_eq_some made).2 ⟨decodes, rfl⟩

/-- No port belongs to two devices. -/
theorem device_unique (made : ofLayout layout = .ok t) {other : Device}
    (decodes : layout.Decodes device port) (decodes' : layout.Decodes other port) :
    device = other := by
  have both := (resolve_of_decodes made decodes).symm.trans (resolve_of_decodes made decodes')
  exact congrArg Prod.fst (Option.some.inj both)

end PortTable

end BankedZ80
