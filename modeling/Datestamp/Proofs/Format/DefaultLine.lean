import Datestamp.Proofs.Format.Meaning
import Datestamp.Proofs.Placeholder.Padding

/-!
# The default line

The default format keeps the fields of its line apart. Six numerals end at a separator that is no
digit, even where a field is wider than its padding; the minus sign of a year before the year 0
stands at the head of the line, where no separator can be. Hour and minute of the offset are side by
side, but the minute is below sixty and takes up the last two characters. So the line tells the date,
the time of day and the offset up to its seconds (`meaning_default_inj`).
-/

namespace Datestamp

/-- Two local times with the same date and the same time of day. -/
structure LocalTime.SameClock (a b : LocalTime) : Prop where
  year : a.year = b.year
  month : a.month = b.month
  day : a.day = b.day
  hour : a.hour = b.hour
  minute : a.minute = b.minute
  second : a.second = b.second

theorem Sign.symbol_inj {a b : Sign} (h : a.symbol = b.symbol) : a = b := by
  revert h
  cases a <;> cases b <;> decide

namespace Format

/-! ## What the default line is made of -/

/-- Date and time of day, to the second. -/
def clock : Text := "%Y-%m-%d %H:%M:%S".toList

theorem meaning_clock_append (fs : Fields) (rest : Text) : meaning fs (clock ++ rest) =
    fs.timeText .year ++ '-' :: (fs.timeText .month ++ '-' :: (fs.timeText .day ++ ' ' ::
    (fs.timeText .hour ++ ':' :: (fs.timeText .minute ++ ':' :: (fs.timeText .second ++
    meaning fs rest))))) := by
  show meaning fs (Directive.token (.time .year) ++ '-' :: (Directive.token (.time .month) ++ '-' ::
    (Directive.token (.time .day) ++ ' ' :: (Directive.token (.time .hour) ++ ':' ::
    (Directive.token (.time .minute) ++ ':' :: (Directive.token (.time .second) ++ rest)))))) = _
  have hminus : '-' ≠ '%' := by decide
  have hblank : ' ' ≠ '%' := by decide
  have hcolon : ':' ≠ '%' := by decide
  simp only [meaning_token_append, meaning_char_of_ne fs hminus, meaning_char_of_ne fs hblank,
    meaning_char_of_ne fs hcolon, Directive.text]

theorem meaning_default (fs : Fields) : meaning fs default =
    fs.timeText .year ++ '-' :: (fs.timeText .month ++ '-' :: (fs.timeText .day ++ ' ' ::
    (fs.timeText .hour ++ ':' :: (fs.timeText .minute ++ ':' :: (fs.timeText .second ++ ' ' ::
    fs.effective.sign.symbol :: (fs.effective.partText .hour ++ fs.effective.partText .minute)))))) := by
  have hblank : ' ' ≠ '%' := by decide
  show meaning fs (clock ++ ' ' :: Directive.token (.offset .effective none)) = _
  rw [meaning_clock_append, meaning_char_of_ne fs hblank, meaning_token]
  rfl

/-! ## Reading it back -/

/-- Hour and minute of an offset, written side by side. -/
theorem hour_minute_inj {o p : ClockOffset} (ho : o.minute.toNat < 60) (hp : p.minute.toNat < 60)
    (h : o.partText .hour ++ o.partText .minute = p.partText .hour ++ p.partText .minute) :
    o.hour = p.hour ∧ o.minute = p.minute := by
  have hlength : (o.partText .minute).length = (p.partText .minute).length := by
    have ho' := Placeholder.length_zeroPadded_two (Nat.lt_trans ho (by decide))
    have hp' := Placeholder.length_zeroPadded_two (Nat.lt_trans hp (by decide))
    exact ho'.trans hp'.symm
  obtain ⟨hhour, hminute⟩ := List.append_inj' h hlength
  have hhour : (o.hour.toNat : Int) = p.hour.toNat := Placeholder.zeroPadded_inj hhour
  have hminute : (o.minute.toNat : Int) = p.minute.toNat := Placeholder.zeroPadded_inj hminute
  constructor
  · apply UInt32.toNat_inj.mp
    omega
  · apply UInt32.toNat_inj.mp
    omega

theorem meaning_default_inj {fs gs : Fields} (hf : fs.effective.minute.toNat < 60)
    (hg : gs.effective.minute.toNat < 60) (h : meaning fs default = meaning gs default) :
    fs.time.SameClock gs.time ∧ fs.effective.sign = gs.effective.sign ∧
      fs.effective.hour = gs.effective.hour ∧ fs.effective.minute = gs.effective.minute := by
  rw [meaning_default, meaning_default] at h
  obtain ⟨hyear, h⟩ := Placeholder.zeroPadded_append_inj (by decide) h
  obtain ⟨hmonth, h⟩ := Placeholder.zeroPadded_append_inj (by decide) h
  obtain ⟨hday, h⟩ := Placeholder.zeroPadded_append_inj (by decide) h
  obtain ⟨hhour, h⟩ := Placeholder.zeroPadded_append_inj (by decide) h
  obtain ⟨hminute, h⟩ := Placeholder.zeroPadded_append_inj (by decide) h
  obtain ⟨hsecond, h⟩ := Placeholder.zeroPadded_append_inj (by decide) h
  obtain ⟨hsign, h⟩ := List.cons.inj h
  refine ⟨⟨hyear, ?_, ?_, ?_, ?_, ?_⟩, Sign.symbol_inj hsign, hour_minute_inj hf hg h⟩
  · exact Int.ofNat.inj hmonth
  · exact Int.ofNat.inj hday
  · exact Int.ofNat.inj hhour
  · exact Int.ofNat.inj hminute
  · exact Int.ofNat.inj hsecond

end Format

end Datestamp
