import Datestamp.Placeholder

/-!
# Directives

A directive is a short token in a format that stands for a part of the stamp. There are
twenty-five: `%%` for a percent sign, one letter for each field of the local time, and the family
`%[!*][0-3]z` for the three offsets, whole or one part of them. A directive is recognised by its
token; of several that fit, the longest wins.
-/

namespace Datestamp

inductive Directive where
  | percent
  | time (f : TimeField)
  | offset (kind : OffsetKind) (part : Option OffsetPart)  -- no part: sign, hour and minute
deriving DecidableEq, Repr

namespace Directive

/-! ## The spelling of a directive -/

/-- The letter of a field of the local time. -/
def timeLetter : TimeField → Char
  | .year => 'Y'
  | .month => 'm'
  | .day => 'd'
  | .hour => 'H'
  | .minute => 'M'
  | .second => 'S'
  | .weekday => 'w'
  | .yearDay => 'j'
  | .zoneName => 'Z'

/-- The flag of an offset; the one in effect has none. -/
def kindFlag : OffsetKind → Text
  | .base => ['!']
  | .increment => ['*']
  | .effective => []

/-- The digit of a part of an offset. -/
def partDigit : OffsetPart → Char
  | .sign => '0'
  | .hour => '1'
  | .minute => '2'
  | .second => '3'

/-- The token of a directive. -/
def token : Directive → Text
  | .percent => ['%', '%']
  | .time f => ['%', timeLetter f]
  | .offset kind part => '%' :: kindFlag kind ++ (part.map partDigit).toList ++ ['z']

/-- The table of directives, the longest tokens first. -/
def table : List Directive :=
  [.offset .base (some .sign), .offset .base (some .hour), .offset .base (some .minute),
    .offset .base (some .second),
    .offset .increment (some .sign), .offset .increment (some .hour),
    .offset .increment (some .minute), .offset .increment (some .second),
    .offset .base none, .offset .increment none,
    .offset .effective (some .sign), .offset .effective (some .hour),
    .offset .effective (some .minute), .offset .effective (some .second),
    .offset .effective none,
    .percent, .time .year, .time .month, .time .day, .time .hour, .time .minute, .time .second,
    .time .weekday, .time .yearDay, .time .zoneName]

theorem mem_table (d : Directive) : d ∈ table := by
  rcases d with _ | f | ⟨k, p⟩
  · decide
  · cases f <;> decide
  · rcases k with _ | _ | _ <;> rcases p with _ | _ | _ | _ | _ <;> decide

/-! ## Recognition -/

/-- The longer token of two; on a tie the later. -/
def keepLonger (best : Option Directive) (d : Directive) : Option Directive :=
  match best with
  | none => some d
  | some b => if b.token.length ≤ d.token.length then some d else some b

/-- The directive of a table with the longest token that `t` starts with. -/
def longestIn (ds : List Directive) (t : Text) : Option Directive :=
  (ds.filter fun d => d.token.isPrefixOf t).foldl keepLonger none

/-- The directive at the head of a text. -/
def longest? (t : Text) : Option Directive := longestIn table t

/-! ## What a directive compiles to -/

/-- The placeholder that writes a field of the local time: four digits for the year, three for the
day of the year, two for the others; the weekday is not padded. -/
def timePlaceholder (f : TimeField) : Placeholder :=
  match f with
  | .zoneName => ⟨f.name, false, 0, .text⟩
  | .weekday => ⟨f.name, false, 0, .number⟩
  | .year => ⟨f.name, true, 4, .number⟩
  | .yearDay => ⟨f.name, true, 3, .number⟩
  | .month | .day | .hour | .minute | .second => ⟨f.name, true, 2, .number⟩

/-- The placeholder that writes one part of an offset. -/
def partPlaceholder (kind : OffsetKind) (part : OffsetPart) : Placeholder :=
  match part with
  | .sign => ⟨(Field.offset kind part).name, false, 0, .text⟩
  | .hour | .minute | .second => ⟨(Field.offset kind part).name, true, 2, .number⟩

/-- The placeholders of a directive; a whole offset is its sign, hour and minute. -/
def placeholders : Directive → List Placeholder
  | .percent => []
  | .time f => [timePlaceholder f]
  | .offset kind (some part) => [partPlaceholder kind part]
  | .offset kind none => [.sign, .hour, .minute].map (partPlaceholder kind)

theorem name_timePlaceholder (f : TimeField) : (timePlaceholder f).name = (Field.time f).name := by
  cases f <;> rfl

theorem name_partPlaceholder (kind : OffsetKind) (part : OffsetPart) :
    (partPlaceholder kind part).name = (Field.offset kind part).name := by
  cases part <;> rfl

theorem width_timePlaceholder_le (f : TimeField) : (timePlaceholder f).width ≤ 4 := by
  cases f <;> decide

theorem width_partPlaceholder_le (kind : OffsetKind) (part : OffsetPart) :
    (partPlaceholder kind part).width ≤ 2 := by
  cases part <;> simp [partPlaceholder]

/-- The template text of a directive. -/
def template : Directive → Text
  | .percent => ['%', '%']
  | d => d.placeholders.flatMap fun p => '%' :: p.print

/-! ## A recognised directive is in the table and its token is there -/

theorem mem_of_foldl_keepLonger {ds : List Directive} {best : Option Directive} {d : Directive}
    (h : ds.foldl keepLonger best = some d) : best = some d ∨ d ∈ ds := by
  induction ds generalizing best with
  | nil => exact .inl h
  | cons e ds ih =>
    rcases ih h with h | h
    · unfold keepLonger at h
      split at h
      · simp_all
      · split at h <;> simp_all
    · simp [h]

theorem mem_of_longestIn {ds : List Directive} {t : Text} {d : Directive}
    (h : longestIn ds t = some d) : d ∈ ds ∧ d.token <+: t := by
  rcases mem_of_foldl_keepLonger h with h | h
  · simp at h
  · simpa [List.mem_filter] using h

theorem token_isPrefix_of_longest? {t : Text} {d : Directive} (h : longest? t = some d) :
    d.token <+: t := (mem_of_longestIn h).2

theorem token_length_pos (d : Directive) : 0 < d.token.length := by
  cases d <;> simp [token]

end Directive

end Datestamp
