/-!
# Offsets on the clock

An offset from UTC is a signed number of seconds, and is shown as a sign, hours, minutes and
seconds. The parts are words of 32 bits: only the hour can outgrow them, and keeps its low bits.
-/

namespace Datestamp

/-- The sign of an offset; zero counts as positive. -/
inductive Sign where
  | plus
  | minus
deriving DecidableEq, Repr

def Sign.symbol : Sign → Char
  | .plus => '+'
  | .minus => '-'

/-- An offset as sign, hours, minutes and seconds. -/
structure ClockOffset where
  sign : Sign
  hour : UInt32
  minute : UInt32
  second : UInt32
deriving DecidableEq, Repr

namespace ClockOffset

def zero : ClockOffset := ⟨.plus, 0, 0, 0⟩

/-- The parts of `seconds`; the sign is minus exactly below zero. -/
def ofSeconds (seconds : Int) : ClockOffset where
  sign := if seconds < 0 then .minus else .plus
  hour := .ofNat (seconds.natAbs / 3600)
  minute := .ofNat (seconds.natAbs % 3600 / 60)
  second := .ofNat (seconds.natAbs % 3600 % 60)

/-- The seconds that the hours, minutes and seconds add up to. -/
def magnitude (o : ClockOffset) : Nat :=
  o.hour.toNat * 3600 + o.minute.toNat * 60 + o.second.toNat

def toSeconds (o : ClockOffset) : Int :=
  match o.sign with
  | .plus => o.magnitude
  | .minus => -o.magnitude

/-- The seconds of 2³² hours: the hour of a greater offset has lost its high bits. -/
def limit : Nat := 15461882265600

theorem ofSeconds_zero : ofSeconds 0 = zero := rfl

/-- The magnitude is that of the seconds, less whole multiples of 2³² hours. -/
theorem magnitude_ofSeconds (seconds : Int) :
    (ofSeconds seconds).magnitude = seconds.natAbs % limit := by
  simp only [magnitude, ofSeconds, UInt32.toNat_ofNat', limit]
  omega

/-- Below the limit no part is cut, and the parts add up to the seconds. -/
theorem toSeconds_ofSeconds {seconds : Int} (h : seconds.natAbs < limit) :
    (ofSeconds seconds).toSeconds = seconds := by
  have hm : (ofSeconds seconds).magnitude = seconds.natAbs := by
    rw [magnitude_ofSeconds, Nat.mod_eq_of_lt h]
  unfold toSeconds
  rw [hm]
  by_cases hs : seconds < 0
  · have hsign : (ofSeconds seconds).sign = .minus := if_pos hs
    rw [hsign]
    show -(seconds.natAbs : Int) = seconds
    omega
  · have hsign : (ofSeconds seconds).sign = .plus := if_neg hs
    rw [hsign]
    show (seconds.natAbs : Int) = seconds
    omega

theorem minute_lt (seconds : Int) : (ofSeconds seconds).minute.toNat < 60 := by
  simp only [ofSeconds, UInt32.toNat_ofNat']
  omega

theorem second_lt (seconds : Int) : (ofSeconds seconds).second.toNat < 60 := by
  simp only [ofSeconds, UInt32.toNat_ofNat']
  omega

end ClockOffset

end Datestamp
