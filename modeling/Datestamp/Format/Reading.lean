import Datestamp.Format

/-!
# Reading a format directly

What a format stands for, without a template in between: its tokens one after another, each run of
characters as it is and each directive as the value that it shows. This is what the compiled
template has to come to.
-/

namespace Datestamp

/-- The text of one part of an offset: the sign alone, or at least two digits. -/
def ClockOffset.partText (o : ClockOffset) : OffsetPart → Text
  | .sign => [o.sign.symbol]
  | .hour => Placeholder.zeroPadded 2 o.hour.toNat
  | .minute => Placeholder.zeroPadded 2 o.minute.toNat
  | .second => Placeholder.zeroPadded 2 o.second.toNat

/-- The text of one part of a local time. -/
def Fields.timeText (fs : Fields) : TimeField → Text
  | .year => Placeholder.zeroPadded 4 fs.time.year
  | .month => Placeholder.zeroPadded 2 fs.time.month
  | .day => Placeholder.zeroPadded 2 fs.time.day
  | .hour => Placeholder.zeroPadded 2 fs.time.hour
  | .minute => Placeholder.zeroPadded 2 fs.time.minute
  | .second => Placeholder.zeroPadded 2 fs.time.second
  | .weekday => Decimal.numeral fs.time.weekday
  | .yearDay => Placeholder.zeroPadded 3 fs.time.yearDay
  | .zoneName => fs.zoneName

/-- What a directive shows. A whole offset is its sign, its hour and its minute. -/
def Directive.text (fs : Fields) : Directive → Text
  | .percent => ['%']
  | .time f => fs.timeText f
  | .offset kind (some part) => (fs.offset kind).partText part
  | .offset kind none =>
    let o := fs.offset kind
    o.partText .sign ++ o.partText .hour ++ o.partText .minute

namespace Format

def Token.meaning (fs : Fields) : Token → Text
  | .literal run => run
  | .directive d => d.text fs

/-- What a format stands for. -/
def meaning (fs : Fields) (format : Text) : Text := (tokens format).flatMap (Token.meaning fs)

end Format

end Datestamp
