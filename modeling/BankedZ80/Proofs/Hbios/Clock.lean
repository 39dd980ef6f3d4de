import BankedZ80.Proofs.Hbios.Calendar
import Mathlib.Data.List.Lex

/-!
# What the clock shows

A number of seconds is shown as a time of day on a date of the calendar that count it
(`DateTime.Shows`). Dates and times are compared from the year on, so as long as the year fits its
field what is shown later is the greater (`fields_lt_of_lt`). The firmware's buffer has the same
numbers in packed digits (`PacksDecimal`). `DateTime.ofUnix_gregorian` puts these together for every
number of seconds.
-/

namespace BankedZ80

/-! ### What the clock shows -/

namespace DateTime

/-- A clock shows a number of seconds since the beginning of 1970, in a year of which it keeps what
fits. -/
structure Shows (t : DateTime) (seconds year : Nat) : Prop where
  hour : t.hour < 24
  minute : t.minute < 60
  second : t.second < 60
  date : Date.IsValid ⟨year, t.month.toNat, t.day.toNat⟩
  counted : Date.count ⟨year, t.month.toNat, t.day.toNat⟩ * 86400 +
    t.hour.toNat * 3600 + t.minute.toNat * 60 + t.second.toNat = seconds
  year : t.year.toNat = year % 65536

theorem shows_ofUnix (seconds : UInt64) :
    (ofUnix seconds).Shows seconds.toNat (Date.ofDays (seconds.toNat / 86400)).year := by
  obtain ⟨valid, counted⟩ := Date.ofDays_date (seconds.toNat / 86400)
  unfold ofUnix
  dsimp only
  generalize Date.ofDays (seconds.toNat / 86400) = date at valid counted ⊢
  have small {n : Nat} (h : n < 256) : n.toUInt8.toNat = n := UInt8.toNat_ofNat_of_lt' h
  have month : date.month.toUInt8.toNat = date.month := by
    have := valid.month
    exact small (by omega)
  have day : date.day.toUInt8.toNat = date.day := by
    have := valid.day
    have := daysInMonth_le date.year date.month
    exact small (by omega)
  have hour : (seconds.toNat % 86400 / 3600).toUInt8.toNat = seconds.toNat % 86400 / 3600 :=
    small (by omega)
  have minute : (seconds.toNat % 86400 % 3600 / 60).toUInt8.toNat =
      seconds.toNat % 86400 % 3600 / 60 := small (by omega)
  have second : (seconds.toNat % 86400 % 60).toUInt8.toNat = seconds.toNat % 86400 % 60 :=
    small (by omega)
  constructor
  case hour =>
      apply UInt8.lt_iff_toNat_lt.2
      rw [hour]
      show _ < 24
      omega
  case minute =>
      apply UInt8.lt_iff_toNat_lt.2
      rw [minute]
      show _ < 60
      omega
  case second =>
      apply UInt8.lt_iff_toNat_lt.2
      rw [second]
      show _ < 60
      omega
  case date =>
      dsimp only
      rw [month, day]
      exact valid
  case counted =>
      dsimp only
      rw [month, day, counted, hour, minute, second]
      omega
  case year =>
      dsimp only
      rw [Nat.toUInt16_eq, UInt16.toNat_ofNat']

/-! ### The order of what is shown -/

/-- What follows the year, the longest units first. -/
def sinceYear (t : DateTime) : List Nat :=
  [t.month.toNat, t.day.toNat, t.hour.toNat, t.minute.toNat, t.second.toNat]

/-- A date and time as its numbers, which are compared from the year on. -/
def fields (t : DateTime) : List Nat := t.year.toNat :: t.sinceYear

variable {t t' : DateTime} {seconds seconds' year year' : Nat}

theorem Shows.time_lt (h : t.Shows seconds year) :
    t.hour.toNat < 24 ∧ t.minute.toNat < 60 ∧ t.second.toNat < 60 :=
  ⟨UInt8.lt_iff_toNat_lt.1 h.hour, UInt8.lt_iff_toNat_lt.1 h.minute, UInt8.lt_iff_toNat_lt.1 h.second⟩

/-- What is shown later is shown at a later second. -/
theorem lt_of_lex (h : t.Shows seconds year) (h' : t'.Shows seconds' year')
    (later : year :: t.sinceYear < year' :: t'.sinceYear) : seconds < seconds' := by
  obtain ⟨hour, minute, second⟩ := h.time_lt
  have counted := h.counted
  have counted' := h'.counted
  have date := @Date.count_lt _ ⟨year', t'.month.toNat, t'.day.toNat⟩ h.date
  unfold sinceYear at later
  simp only [List.cons_lt_cons_iff, List.lt_irrefl, and_false, or_false] at later
  dsimp only at date
  rcases later with hy | ⟨rfl, hm | ⟨hm, hd | ⟨hd, hh | ⟨hh, hmin | ⟨hmin, hs⟩⟩⟩⟩⟩
  · have := date (.inl hy)
    omega
  · have := date (.inr ⟨rfl, .inl hm⟩)
    omega
  · have := date (.inr ⟨rfl, .inr ⟨hm, hd⟩⟩)
    omega
  all_goals
    rw [hm, hd] at counted
    omega

/-- **A later second is shown later.** -/
theorem lex_of_lt (h : t.Shows seconds year) (h' : t'.Shows seconds' year')
    (later : seconds < seconds') : year :: t.sinceYear < year' :: t'.sinceYear := by
  rcases lt_trichotomy (year :: t.sinceYear) (year' :: t'.sinceYear) with before | same | after
  · exact before
  · have counted := h.counted
    have counted' := h'.counted
    unfold sinceYear at same
    simp only [List.cons.injEq, and_true] at same
    obtain ⟨rfl, month, day, hour, minute, second⟩ := same
    rw [month, day, hour, minute, second] at counted
    omega
  · have := lt_of_lex h' h after
    omega

/-- As long as the year fits, its number is the year. -/
theorem fields_lt_of_lt (h : t.Shows seconds year) (h' : t'.Shows seconds' year')
    (later : seconds < seconds') (fits : year' ≤ 65535) : t.fields < t'.fields := by
  have lex := lex_of_lt h h' later
  have le : year ≤ year' := by
    rcases List.cons_lt_cons_iff.1 lex with before | ⟨same, -⟩
    · exact before.le
    · exact same.le
  have shown : t.year.toNat = year := by
    rw [h.year]
    omega
  have shown' : t'.year.toNat = year' := by
    rw [h'.year]
    omega
  rw [fields, fields, shown, shown']
  exact lex

/-! ### Packed digits -/

/-- A number below 100 is packed as its two digits. -/
theorem toNat_packDecimal {v : UInt8} (h : v.toNat < 100) :
    (packDecimal v).toNat = v.toNat / 10 * 16 + v.toNat % 10 := by
  have ones : v.toNat % 10 < 2 ^ 4 := by omega
  have whole := Nat.two_pow_add_eq_or_of_lt ones (v.toNat / 10)
  have tens : (v.toNat / 10) <<< 4 = 2 ^ 4 * (v.toNat / 10) := by
    rw [Nat.shiftLeft_eq, Nat.mul_comm]
  have fits : 2 ^ 4 * (v.toNat / 10) < 2 ^ 8 := by omega
  have shifted : ((v / 10) <<< (4 : UInt8)).toNat = 2 ^ 4 * (v.toNat / 10) := by
    rw [UInt8.toNat_shiftLeft]
    show (v.toNat / 10) <<< 4 % 2 ^ 8 = _
    rw [tens, Nat.mod_eq_of_lt fits]
  have rest : (v % 10).toNat = v.toNat % 10 := UInt8.toNat_mod v 10
  rw [packDecimal, UInt8.toNat_or, shifted, rest, ← whole]
  omega

/-- The number that a byte of two digits stands for. -/
def unpackDecimal (b : UInt8) : Nat := b.toNat / 16 * 10 + b.toNat % 16

/-- The six bytes of the buffer hold decimal digits, and these are the year of the century and the rest
of a date and time. -/
structure PacksDecimal (t : DateTime) : Prop where
  digits : ∀ b ∈ t.toBuffer, b.toNat / 16 ≤ 9 ∧ b.toNat % 16 ≤ 9
  numbers : t.toBuffer.map unpackDecimal = t.year.toNat % 100 :: t.sinceYear

theorem packsDecimal (small : ∀ n ∈ t.sinceYear, n < 100) : t.PacksDecimal := by
  have century : (t.year % 100).toUInt8.toNat = t.year.toNat % 100 := by
    have below : t.year.toNat % 100 < 256 := by omega
    show t.year.toNat % 100 % 256 = _
    exact Nat.mod_eq_of_lt below
  have all : ∀ v ∈ [(t.year % 100).toUInt8, t.month, t.day, t.hour, t.minute, t.second],
      v.toNat < 100 := by
    simp only [sinceYear, List.forall_mem_cons, List.not_mem_nil, false_imp_iff, implies_true,
      and_true] at small ⊢
    exact ⟨by omega, small⟩
  constructor
  case digits =>
      intro b mem
      obtain ⟨v, there, rfl⟩ := List.mem_map.1 mem
      have below := all v there
      rw [toNat_packDecimal below]
      omega
  case numbers =>
      have unpacked : ∀ v ∈ [(t.year % 100).toUInt8, t.month, t.day, t.hour, t.minute, t.second],
          (unpackDecimal ∘ packDecimal) v = v.toNat := by
        intro v there
        have below := all v there
        show unpackDecimal (packDecimal v) = v.toNat
        rw [unpackDecimal, toNat_packDecimal below]
        omega
      rw [toBuffer, List.map_map, List.map_congr_left unpacked, sinceYear, ← century]
      rfl

theorem Shows.small (h : t.Shows seconds year) : ∀ n ∈ t.sinceYear, n < 100 := by
  have month := h.date.month.2
  have day := h.date.day.2.trans (daysInMonth_le _ _)
  obtain ⟨hour, minute, second⟩ := h.time_lt
  dsimp only at month day
  simp only [sinceYear, List.forall_mem_cons, List.not_mem_nil, false_imp_iff, implies_true, and_true]
  omega

/-- **The clock is right** for every number of seconds: it shows a time of day on a date of the
Gregorian calendar that count this number, later than whatever it showed before as long as the year
fits; and its buffer holds the same numbers in decimal digits. -/
theorem ofUnix_gregorian (seconds : UInt64) :
    ∃ year, (ofUnix seconds).Shows seconds.toNat year ∧
      (∀ earlier : UInt64, earlier < seconds → year ≤ 65535 →
        ofUnix earlier ≠ ofUnix seconds ∧ (ofUnix earlier).fields < (ofUnix seconds).fields) ∧
      (ofUnix seconds).PacksDecimal := by
  have shows_now := shows_ofUnix seconds
  refine ⟨_, shows_now, ?_, packsDecimal shows_now.small⟩
  intro earlier before fits
  have lex := fields_lt_of_lt (shows_ofUnix earlier) shows_now (UInt64.lt_iff_toNat_lt.1 before) fits
  refine ⟨?_, lex⟩
  intro same
  rw [same] at lex
  exact List.lt_irrefl _ lex

/-- The last second of a leap day at the end of an era, and the first one after it. -/
example : ofUnix 951868799 = ⟨2000, 2, 29, 23, 59, 59⟩ ∧ ofUnix 951868800 = ⟨2000, 3, 1, 0, 0, 0⟩ := by
  decide +kernel

end DateTime

end BankedZ80
