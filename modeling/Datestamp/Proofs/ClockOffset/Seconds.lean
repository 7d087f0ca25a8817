import Datestamp.ClockOffset
import Datestamp.Failure

/-!
# Seconds and their parts

Seconds and the offsets that are shown for them determine each other, each within its own bounds.
Seconds are given back by their parts exactly below 2³² hours, where no hour loses its high bits
(`toSeconds_ofSeconds_iff`). An offset is given back by its seconds exactly if it is one that can be
shown: minutes and seconds below sixty, and no minus sign before zero (`ofSeconds_toSeconds_iff`).

The second bound does not follow from the first. Where the hour is cut, the parts of negative seconds
may be a zero with a minus sign, which no seconds below the limit have.
-/

namespace Datestamp.ClockOffset

/-! ## Seconds that are given back -/

theorem sign_ofSeconds_eq_minus_iff (seconds : Int) :
    (ofSeconds seconds).sign = .minus ↔ seconds < 0 := by
  show (if seconds < 0 then Sign.minus else .plus) = .minus ↔ seconds < 0
  by_cases h : seconds < 0
  · simp [h]
  · simp [h]

theorem natAbs_toSeconds (o : ClockOffset) : o.toSeconds.natAbs = o.magnitude := by
  unfold toSeconds
  cases o.sign with
  | plus => exact Int.natAbs_natCast _
  | minus => rw [Int.natAbs_neg, Int.natAbs_natCast]

theorem natAbs_toSeconds_ofSeconds (seconds : Int) :
    (ofSeconds seconds).toSeconds.natAbs = seconds.natAbs % limit := by
  rw [natAbs_toSeconds, magnitude_ofSeconds]

theorem toSeconds_ofSeconds_iff (seconds : Int) :
    (ofSeconds seconds).toSeconds = seconds ↔ seconds.natAbs < limit := by
  constructor
  · intro h
    have hmod : seconds.natAbs = seconds.natAbs % limit := by
      rw [← natAbs_toSeconds_ofSeconds, h]
    rw [hmod]
    exact Nat.mod_lt _ (by decide)
  · exact toSeconds_ofSeconds

/-! ## Adding up the parts -/

/-- No step of adding up the parts leaves the numbers of 64 bits. -/
structure SumFits (o : ClockOffset) : Prop where
  hours : FitsInt64 (o.hour.toNat * 3600)
  minutes : FitsInt64 (o.minute.toNat * 60)
  both : FitsInt64 (o.hour.toNat * 3600 + o.minute.toNat * 60)
  magnitude : FitsInt64 o.magnitude
  signed : FitsInt64 o.toSeconds

theorem magnitude_lt (o : ClockOffset) : o.magnitude < 3661 * UInt32.size := by
  have hhour : o.hour.toNat < UInt32.size := o.hour.toNat_lt
  have hminute : o.minute.toNat < UInt32.size := o.minute.toNat_lt
  have hsecond : o.second.toNat < UInt32.size := o.second.toNat_lt
  unfold magnitude
  omega

/-- The partial sums are not greater than the whole. -/
theorem sumFits (o : ClockOffset) : o.SumFits := by
  have hlt : o.magnitude < 3661 * 4294967296 := o.magnitude_lt
  have habs := o.natAbs_toSeconds
  have hsum : o.magnitude = o.hour.toNat * 3600 + o.minute.toNat * 60 + o.second.toNat := rfl
  constructor <;> unfold FitsInt64 <;> omega

/-! ## Offsets that are given back -/

/-- The offsets that are shown for seconds below the limit. -/
structure Proper (o : ClockOffset) : Prop where
  minute_lt : o.minute.toNat < 60
  second_lt : o.second.toNat < 60
  not_negative_zero : o ≠ ⟨.minus, 0, 0, 0⟩

namespace Proper

variable {o : ClockOffset}

/-- With minutes and seconds below sixty, division finds the parts again. -/
theorem parts_eq (h : o.Proper) :
    o.magnitude / 3600 = o.hour.toNat ∧ o.magnitude % 3600 / 60 = o.minute.toNat ∧
      o.magnitude % 3600 % 60 = o.second.toNat := by
  have hminute := h.minute_lt
  have hsecond := h.second_lt
  unfold magnitude
  refine ⟨?_, ?_, ?_⟩ <;> omega

/-- Behind a minus sign some part is not zero. -/
theorem magnitude_pos (h : o.Proper) (hsign : o.sign = .minus) : 0 < o.magnitude := by
  apply Nat.pos_of_ne_zero
  intro hzero
  obtain ⟨sign, hour, minute, second⟩ := o
  have hsum : hour.toNat * 3600 + minute.toNat * 60 + second.toNat = 0 := hzero
  have hhour : hour = 0 := UInt32.toNat_inj.mp (by rw [UInt32.toNat_zero]; omega)
  have hminute : minute = 0 := UInt32.toNat_inj.mp (by rw [UInt32.toNat_zero]; omega)
  have hsecond : second = 0 := UInt32.toNat_inj.mp (by rw [UInt32.toNat_zero]; omega)
  apply h.not_negative_zero
  rw [hhour, hminute, hsecond, show sign = .minus from hsign]

theorem sign_eq (h : o.Proper) : (if o.toSeconds < 0 then Sign.minus else .plus) = o.sign := by
  cases hsign : o.sign with
  | plus =>
      have hnot : ¬ o.toSeconds < 0 := by
        rw [toSeconds, hsign]
        show ¬ (o.magnitude : Int) < 0
        omega
      exact if_neg hnot
  | minus =>
      have hpos := h.magnitude_pos hsign
      have hneg : o.toSeconds < 0 := by
        rw [toSeconds, hsign]
        show -(o.magnitude : Int) < 0
        omega
      exact if_pos hneg

theorem ofSeconds_toSeconds (h : o.Proper) : ofSeconds o.toSeconds = o := by
  obtain ⟨hhour, hminute, hsecond⟩ := h.parts_eq
  rw [ofSeconds, natAbs_toSeconds, h.sign_eq, hhour, hminute, hsecond, UInt32.ofNat_toNat,
    UInt32.ofNat_toNat, UInt32.ofNat_toNat]

end Proper

theorem ofSeconds_toSeconds_iff (o : ClockOffset) : ofSeconds o.toSeconds = o ↔ o.Proper := by
  constructor
  · intro h
    refine ⟨?_, ?_, ?_⟩
    · have hminute := minute_lt o.toSeconds
      rwa [h] at hminute
    · have hsecond := second_lt o.toSeconds
      rwa [h] at hsecond
    · rintro rfl
      exact absurd h (by decide)
  · exact Proper.ofSeconds_toSeconds

/-! ## Both ways -/

/-- **Seconds and offsets determine each other.** The parts of seconds carry their sign, have minutes
and seconds below sixty, and stand for the seconds less whole multiples of 2³² hours; so they give
the seconds back exactly below that limit. The parts of any offset can be added up in 64 bits, and
the sum gives the offset back exactly if it has minutes and seconds below sixty and is not a zero
with a minus sign. -/
theorem seconds_parts_round_trip :
    (∀ seconds : Int,
      ((ofSeconds seconds).sign = .minus ↔ seconds < 0) ∧
      (ofSeconds seconds).minute.toNat < 60 ∧ (ofSeconds seconds).second.toNat < 60 ∧
      (ofSeconds seconds).toSeconds.natAbs = seconds.natAbs % (3600 * UInt32.size) ∧
      ((ofSeconds seconds).toSeconds = seconds ↔ seconds.natAbs < 3600 * UInt32.size)) ∧
    ∀ o : ClockOffset, o.SumFits ∧ (ofSeconds o.toSeconds = o ↔ o.Proper) := by
  constructor
  · intro seconds
    exact ⟨sign_ofSeconds_eq_minus_iff seconds, minute_lt seconds, second_lt seconds,
      natAbs_toSeconds_ofSeconds seconds, toSeconds_ofSeconds_iff seconds⟩
  · intro o
    exact ⟨o.sumFits, ofSeconds_toSeconds_iff o⟩

/-- At the limit below zero the sign is all that is left. -/
example : ofSeconds (-15461882265600) = ⟨.minus, 0, 0, 0⟩ := by decide

end Datestamp.ClockOffset
