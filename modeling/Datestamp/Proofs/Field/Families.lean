import Datestamp.Field

/-!
# The three offsets of a stamp

The base, the increment and the offset in effect are computed apart, each from its own number of
seconds, and each is split into a sign and magnitudes. This file shows that they still belong
together when they are read back from the fields by name: the offset in effect is the base and the
increment added up, also where their signs differ. Only an hour that outgrows its word would break
the sum, and only a difference of offsets that outgrows a word of 64 bits has no fields at all.
-/

namespace Datestamp

/-! ## The seconds behind the offsets -/

/-- The seconds of the offset in effect. -/
def Zone.secondsAt (z : Zone) (status : Daylight) : Int :=
  (z.activeOffset? status).getD z.standardOffset

/-- Daylight saving time is in effect, and its offset is too far from the standard one for their
difference to be a number of 64 bits. -/
def Zone.TooFarApart (z : Zone) (status : Daylight) : Prop :=
  status = .active ∧ ∃ d, z.daylightOffset = some d ∧ ¬ FitsInt64 (d - z.standardOffset)

theorem Zone.effective_eq (z : Zone) (status : Daylight) :
    z.effective status = .ofSeconds (z.secondsAt status) := by
  unfold Zone.effective Zone.secondsAt
  cases z.activeOffset? status <;> rfl

theorem Zone.secondsAt_of_none {z : Zone} {status : Daylight}
    (h : z.activeOffset? status = none) : z.secondsAt status = z.standardOffset := by
  rw [Zone.secondsAt, h]
  rfl

/-- The increment is the difference of the seconds, unless they are too far apart. -/
theorem Zone.increment_eq (z : Zone) (status : Daylight) :
    (z.TooFarApart status ∧ z.increment status = .error (.overflow .subtract)) ∨
      (¬ z.TooFarApart status ∧
        z.increment status = .ok (.ofSeconds (z.secondsAt status - z.standardOffset))) := by
  cases ha : z.activeOffset? status with
  | none =>
      right
      constructor
      · rintro ⟨hs, d, hd, -⟩
        rw [Zone.activeOffset?_eq_some_iff.mpr ⟨hs, hd⟩] at ha
        cases ha
      · rw [Zone.increment_of_none ha, Zone.secondsAt_of_none ha, Int.sub_self,
          ClockOffset.ofSeconds_zero]
  | some offset =>
      have hs : z.secondsAt status = offset := by
        rw [Zone.secondsAt, ha]
        rfl
      obtain ⟨hactive, hoffset⟩ := Zone.activeOffset?_eq_some_iff.mp ha
      by_cases hf : FitsInt64 (offset - z.standardOffset)
      · right
        constructor
        · rintro ⟨-, d, hd, hnot⟩
          obtain rfl := Option.some.inj (hoffset.symm.trans hd)
          exact hnot hf
        · rw [hs, Zone.increment_of_fits ha hf]
      · left
        exact ⟨⟨hactive, offset, hoffset, hf⟩, Zone.increment_of_not_fits ha hf⟩

namespace Fields

/-! ## Reading an offset back from its fields -/

/-- The names of the fields. -/
def names : List Text :=
  ["tm_year", "tm_mon", "tm_mday", "tm_hour", "tm_min", "tm_sec", "tm_wday", "tm_yday", "tm_zone",
    "zone_sign", "zone_hour", "zone_min", "zone_sec",
    "dst_sign", "dst_hour", "dst_min", "dst_sec",
    "zd_sign", "zd_hour", "zd_min", "zd_sec"].map String.toList

/-- The value of one part of an offset, looked up by name. -/
def part? (fs : Fields) (kind : OffsetKind) (part : OffsetPart) : Option Value :=
  fs.get? (kind.name ++ '_' :: part.name)

/-- The seconds that the four fields of an offset stand for. -/
def seconds? (fs : Fields) (kind : OffsetKind) : Option Int :=
  match fs.part? kind .sign, fs.part? kind .hour, fs.part? kind .minute, fs.part? kind .second with
  | some (.text ['+']), some (.number h), some (.number m), some (.number s) =>
    some (3600 * h + 60 * m + s)
  | some (.text ['-']), some (.number h), some (.number m), some (.number s) =>
    some (-(3600 * h + 60 * m + s))
  | _, _, _, _ => none

theorem part?_eq (fs : Fields) (kind : OffsetKind) (part : OffsetPart) :
    fs.part? kind part = some ((fs.offset kind).part part) :=
  fs.get?_name (.offset kind part)

theorem seconds?_eq (fs : Fields) (kind : OffsetKind) :
    fs.seconds? kind = some (fs.offset kind).toSeconds := by
  simp only [seconds?, part?_eq, ClockOffset.part]
  cases hs : (fs.offset kind).sign with
  | plus =>
      simp only [Sign.symbol, ClockOffset.toSeconds, hs, ClockOffset.magnitude]
      congr 1
      omega
  | minus =>
      simp only [Sign.symbol, ClockOffset.toSeconds, hs, ClockOffset.magnitude]
      congr 1
      omega

/-- A name has a value exactly if it is one of the names. -/
theorem isSome_get?_iff (fs : Fields) (name : Text) :
    (fs.get? name).isSome = true ↔ name ∈ names := by
  have hall : Field.all.map Field.name = names := by decide
  constructor
  · intro h
    have hne : fs.get? name ≠ none := Option.isSome_iff_ne_none.mp h
    rw [ne_eq, get?_eq_none_iff, Classical.not_forall] at hne
    obtain ⟨f, hf⟩ := hne
    rw [← hall, ← Classical.not_not.mp hf]
    exact List.mem_map_of_mem (Field.mem_all f)
  · intro h
    rw [← hall] at h
    obtain ⟨f, -, rfl⟩ := List.mem_map.mp h
    rw [get?_name]
    rfl

/-! ## What the families have in common -/

/-- The fields of a local time in a zone, as they are found by name. -/
structure Consistent (time : LocalTime) (zone : Zone) (fs : Fields) : Prop where
  /-- The fields are those with a name. -/
  present : ∀ name, (fs.get? name).isSome = true ↔ name ∈ names
  /-- Minutes and seconds are below sixty. -/
  sixty : ∀ kind, ∃ m s : Int, fs.part? kind .minute = some (.number m) ∧
    fs.part? kind .second = some (.number s) ∧ (0 ≤ m ∧ m < 60) ∧ 0 ≤ s ∧ s < 60
  /-- The offset in effect is the sum of the base and the increment. -/
  additive : zone.standardOffset.natAbs < ClockOffset.limit →
    (zone.secondsAt time.daylight).natAbs < ClockOffset.limit →
    (zone.secondsAt time.daylight - zone.standardOffset).natAbs < ClockOffset.limit →
    ∃ base increment effective : Int, fs.seconds? .base = some base ∧
      fs.seconds? .increment = some increment ∧ fs.seconds? .effective = some effective ∧
      effective = base + increment
  /-- Without daylight saving time nothing is added. -/
  plain : time.daylight ≠ .active ∨ zone.daylightOffset = none →
    fs.part? .increment .sign = some (.text ['+']) ∧
      fs.part? .increment .hour = some (.number 0) ∧
      fs.part? .increment .minute = some (.number 0) ∧
      fs.part? .increment .second = some (.number 0) ∧
      ∀ part, fs.part? .effective part = fs.part? .base part

theorem seconds?_of_lt {fs : Fields} {kind : OffsetKind} {seconds : Int}
    (h : fs.offset kind = .ofSeconds seconds) (hlt : seconds.natAbs < ClockOffset.limit) :
    fs.seconds? kind = some seconds := by
  rw [seconds?_eq, h, ClockOffset.toSeconds_ofSeconds hlt]

/-- Offsets that are the splits of their seconds make consistent fields. -/
theorem Consistent.of_ofSeconds {time : LocalTime} {zone : Zone} {fs : Fields}
    (hbase : fs.offset .base = .ofSeconds zone.standardOffset)
    (hincrement : fs.offset .increment =
      .ofSeconds (zone.secondsAt time.daylight - zone.standardOffset))
    (heffective : fs.offset .effective = .ofSeconds (zone.secondsAt time.daylight)) :
    Consistent time zone fs where
  present := isSome_get?_iff fs
  sixty := by
    intro kind
    have hsplit : ∃ seconds, fs.offset kind = .ofSeconds seconds := by
      cases kind with
      | base => exact ⟨_, hbase⟩
      | increment => exact ⟨_, hincrement⟩
      | effective => exact ⟨_, heffective⟩
    obtain ⟨seconds, hsplit⟩ := hsplit
    have hm := ClockOffset.minute_lt seconds
    have hs := ClockOffset.second_lt seconds
    rw [← hsplit] at hm hs
    exact ⟨_, _, part?_eq fs kind .minute, part?_eq fs kind .second, by omega, by omega⟩
  additive := by
    intro hb he hi
    refine ⟨_, _, _, seconds?_of_lt hbase hb, seconds?_of_lt hincrement hi,
      seconds?_of_lt heffective he, ?_⟩
    omega
  plain := by
    intro h
    have hnone : zone.activeOffset? time.daylight = none := by
      rw [Option.eq_none_iff_forall_ne_some]
      intro d hd
      obtain ⟨hactive, hsome⟩ := Zone.activeOffset?_eq_some_iff.mp hd
      rcases h with h | h
      · exact h hactive
      · rw [h] at hsome
        cases hsome
    rw [Zone.secondsAt_of_none hnone, Int.sub_self] at hincrement
    rw [Zone.secondsAt_of_none hnone] at heffective
    have hzero : ∀ part, fs.part? .increment part = some (ClockOffset.zero.part part) := by
      intro part
      rw [part?_eq, hincrement, ClockOffset.ofSeconds_zero]
    refine ⟨hzero .sign, hzero .hour, hzero .minute, hzero .second, ?_⟩
    intro part
    rw [part?_eq, part?_eq, heffective, hbase]

end Fields

/-- **The outcome of building the fields.** It fails only where daylight saving time is in effect and
its offset too far from the standard one, by an overflow of their subtraction. Everywhere else there
are fields, and their three offsets are consistent. -/
theorem fields_of_outcome (time : LocalTime) (zone : Zone) :
    (∀ fault, Fields.of time zone = .error fault ↔
      fault = .overflow .subtract ∧ zone.TooFarApart time.daylight) ∧
      (¬ zone.TooFarApart time.daylight →
        ∃ fs, Fields.of time zone = .ok fs ∧ Fields.Consistent time zone fs) := by
  rcases zone.increment_eq time.daylight with ⟨hfar, hinc⟩ | ⟨hnear, hinc⟩
  · have hof : Fields.of time zone = .error (.overflow .subtract) := by
      rw [Fields.of, hinc]
      rfl
    constructor
    · intro fault
      constructor
      · intro h
        rw [hof] at h
        exact ⟨(Except.error.inj h).symm, hfar⟩
      · rintro ⟨rfl, -⟩
        exact hof
    · intro hnear
      exact absurd hfar hnear
  · constructor
    · intro fault
      constructor
      · intro h
        rw [Fields.of, hinc] at h
        cases h
      · rintro ⟨-, hfar⟩
        exact absurd hfar hnear
    · intro _
      rw [Fields.of, hinc]
      exact ⟨_, rfl, .of_ofSeconds rfl rfl (zone.effective_eq time.daylight)⟩

/-- An increment that takes the offset in effect across zero. -/
theorem fields_of_outcome_across_zero :
    let time : LocalTime := ⟨2018, 1, 2, 9, 42, 20, 1, 2, none, .active, -1830⟩
    let zone : Zone := ⟨5430, some (-1830), "XST".toList, "XDT".toList⟩
    ¬ zone.TooFarApart time.daylight ∧ ∃ fs, Fields.of time zone = .ok fs ∧
      ∃ base increment effective : Int, fs.seconds? .base = some base ∧
        fs.seconds? .increment = some increment ∧ fs.seconds? .effective = some effective ∧
        effective = base + increment ∧ base = 5430 ∧ increment = -7260 := by
  intro time zone
  have hnear : ¬ zone.TooFarApart time.daylight := by
    rintro ⟨-, d, hd, hnot⟩
    obtain rfl := Option.some.inj hd
    exact hnot (by decide)
  obtain ⟨fs, hfs, hc⟩ := (fields_of_outcome time zone).2 hnear
  obtain ⟨base, increment, effective, hb, hi, he, hsum⟩ :=
    hc.additive (by decide) (by decide) (by decide)
  refine ⟨hnear, fs, hfs, base, increment, effective, hb, hi, he, hsum, ?_, ?_⟩
  · obtain rfl := Except.ok.inj hfs
    exact Option.some.inj (hb.symm.trans (Fields.seconds?_of_lt rfl (by decide)))
  · obtain rfl := Except.ok.inj hfs
    exact Option.some.inj (hi.symm.trans (Fields.seconds?_of_lt rfl (by decide)))

end Datestamp
