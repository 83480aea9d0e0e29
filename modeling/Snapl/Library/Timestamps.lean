import Snapl.Library.Calendar
import Snapl.Library.PaddedText

/-!
# Aware timestamps

A timestamp is the reading of a clock, in microseconds, and the offset of the
clock from UTC.  Two timestamps compare as the instants they denote.

The text of a timestamp converted to UTC is read back as the same instant, and
texts of this kind are in the order of the instants: every field is padded to a
fixed width, and the text without microseconds comes before those with some.
A timestamp whose instant no UTC clock can show has no such text.
-/

namespace Snapl.Library

def dayMicros : Nat := 86400000000

/-- The first reading behind the calendar. -/
def clockEnd : Nat := maxOrdinal * dayMicros

/--
The reading of a clock in microseconds since the start of year 1, and the offset
of the clock from UTC.
-/
structure Datetime where
  clock : Nat
  offset : Int
  clockInRange : clock < clockEnd
  offsetInRange : -(dayMicros : Int) < offset ∧ offset < dayMicros
deriving DecidableEq

namespace Datetime

/-- The instant a timestamp denotes, in microseconds since the start of year 1 in UTC. -/
def instant (moment : Datetime) : Int := moment.clock - moment.offset

theorem ordinal_inRange (moment : Datetime) :
    1 ≤ moment.clock / dayMicros + 1 ∧ moment.clock / dayMicros + 1 ≤ maxOrdinal := by
  have bound := moment.clockInRange
  have quotient : moment.clock / dayMicros < maxOrdinal := by
    apply Nat.div_lt_of_lt_mul
    rw [Nat.mul_comm]
    exact bound
  exact ⟨Nat.le_add_left 1 _, quotient⟩

def date (moment : Datetime) : Date := Date.fromordinal (moment.clock / dayMicros + 1) moment.ordinal_inRange

def hour (moment : Datetime) : Nat := moment.clock / 3600000000 % 24

def minute (moment : Datetime) : Nat := moment.clock / 60000000 % 60

def second (moment : Datetime) : Nat := moment.clock / 1000000 % 60

def microsecond (moment : Datetime) : Nat := moment.clock % 1000000

/-- The same instant on a UTC clock, if the calendar has it. -/
def utc? (moment : Datetime) : Option Datetime :=
  if inRange : 0 ≤ moment.instant ∧ moment.instant < clockEnd then
    some
      { clock := moment.instant.toNat
        offset := 0
        clockInRange := by omega
        offsetInRange := by decide }
  else none

/-- The microseconds of a text, which are left out when there are none. -/
def fractionText (microsecond : Nat) : List Char :=
  if microsecond = 0 then [] else '.' :: padded 6 microsecond

/-- The text of a date. -/
def dateText (date : Date) : List Char :=
  padded 4 date.year ++ ['-'] ++ padded 2 date.month ++ ['-'] ++ padded 2 date.day

/-- The text of a reading, down to the seconds. -/
def clockText (moment : Datetime) : List Char :=
  dateText moment.date ++ ['T'] ++ padded 2 moment.hour ++ [':'] ++ padded 2 moment.minute ++ [':'] ++
    padded 2 moment.second

/-- The text of a reading of a UTC clock. -/
def isoformatUtc (moment : Datetime) : List Char :=
  clockText moment ++ (fractionText moment.microsecond ++ "+00:00".toList)

/-- The text of a timestamp in UTC. -/
def utcText? (moment : Datetime) : Option (List Char) := moment.utc?.map isoformatUtc

/-- The date of three numbers, if there is one. -/
def dateOf? (year month day : Nat) : Option Date :=
  if inRange : (1 ≤ year ∧ year ≤ 9999) ∧ (1 ≤ month ∧ month ≤ 12) ∧
      1 ≤ day ∧ day ≤ (monthLengths year).getD (month - 1) 0 then
    some ⟨year, month, day, inRange.1, inRange.2.1, inRange.2.2⟩
  else none

/-- The reading of a date and a time of day, in microseconds, and the offset of the clock. -/
def combine? (date : Date) (time : Nat) (offset : Int) : Option Datetime :=
  if inRange : time < dayMicros ∧ -(dayMicros : Int) < offset ∧ offset < dayMicros then
    some
      { clock := (date.toordinal - 1) * dayMicros + time
        offset := offset
        clockInRange := by
          have ordinal := date.toordinal_le_maxOrdinal
          have positive := date.one_le_toordinal
          have whole : (date.toordinal - 1 + 1) * dayMicros ≤ clockEnd :=
            Nat.mul_le_mul_right dayMicros (by omega)
          rw [Nat.succ_mul] at whole
          omega
        offsetInRange := inRange.2 }
  else none

/-- The microseconds of a text; none are zero. -/
def readFraction : List Char → Option (Nat × List Char)
  | '.' :: rest => readDigits 6 rest
  | rest => some (0, rest)

/-- The sign of an offset. -/
def readSign : List Char → Option (Int × List Char)
  | '+' :: rest => some (1, rest)
  | '-' :: rest => some (-1, rest)
  | _ => none

/-- An offset of hours and minutes at the end of a text, in microseconds. -/
def readOffset (chars : List Char) : Option Int := do
  let (sign, chars) ← readSign chars
  let (hours, chars) ← readDigits 2 chars
  let chars ← readChar ':' chars
  let (minutes, chars) ← readDigits 2 chars
  if minutes < 60 ∧ chars = [] then some (sign * ((hours * 60 + minutes) * 60000000 : Nat)) else none

/-- Read the text of a date. -/
def readDate (chars : List Char) : Option (Date × List Char) := do
  let (year, chars) ← readDigits 4 chars
  let chars ← readChar '-' chars
  let (month, chars) ← readDigits 2 chars
  let chars ← readChar '-' chars
  let (day, chars) ← readDigits 2 chars
  let date ← dateOf? year month day
  some (date, chars)

/-- Read the text of a time of day, in microseconds. -/
def readTime (chars : List Char) : Option (Nat × List Char) := do
  let (hour, chars) ← readDigits 2 chars
  let chars ← readChar ':' chars
  let (minute, chars) ← readDigits 2 chars
  let chars ← readChar ':' chars
  let (second, chars) ← readDigits 2 chars
  let (microsecond, chars) ← readFraction chars
  if hour < 24 ∧ minute < 60 ∧ second < 60 then
    some (((hour * 60 + minute) * 60 + second) * 1000000 + microsecond, chars)
  else none

/-- Read the text of a timestamp with an offset of hours and minutes. -/
def fromisoformat (chars : List Char) : Option Datetime := do
  let (date, chars) ← readDate chars
  let chars ← readChar 'T' chars
  let (time, chars) ← readTime chars
  let offset ← readOffset chars
  combine? date time offset

theorem dateOf?_fields (date : Date) : dateOf? date.year date.month date.day = some date := by
  rw [dateOf?, dif_pos ⟨date.yearInRange, date.monthInRange, date.dayInRange⟩]

theorem readDate_dateText (date : Date) (rest : List Char) :
    readDate (dateText date ++ rest) = some (date, rest) := by
  have year : date.year < 10 ^ 4 := by have := date.yearInRange; omega
  have month : date.month < 10 ^ 2 := by have := date.monthInRange; omega
  have day : date.day < 10 ^ 2 := by have := date.day_le; omega
  simp only [readDate, dateText, List.append_assoc, readDigits_padded year,
    readDigits_padded month, readDigits_padded day, List.cons_append, List.nil_append, readChar_cons,
    Option.bind_eq_bind, Option.bind_some, dateOf?_fields]

theorem readFraction_fractionText {microsecond : Nat} (small : microsecond < 1000000)
    (rest : List Char) :
    readFraction (fractionText microsecond ++ ('+' :: rest)) = some (microsecond, '+' :: rest) := by
  rw [fractionText]
  split_ifs with zero
  · rw [zero]
    rfl
  · exact @readDigits_padded 6 _ small _

theorem readOffset_utc : readOffset "+00:00".toList = some 0 := by
  decide

theorem readTime_texts
    {hour minute second microsecond : Nat} (hourSmall : hour < 24) (minuteSmall : minute < 60)
    (secondSmall : second < 60) (microsecondSmall : microsecond < 1000000) (rest : List Char) :
    readTime (padded 2 hour ++ ':' :: (padded 2 minute ++ ':' :: (padded 2 second ++
      (fractionText microsecond ++ '+' :: rest)))) =
      some (((hour * 60 + minute) * 60 + second) * 1000000 + microsecond, '+' :: rest) := by
  simp only [readTime, readDigits_padded (show hour < 10 ^ 2 by omega),
    readDigits_padded (show minute < 10 ^ 2 by omega),
    readDigits_padded (show second < 10 ^ 2 by omega), readChar_cons,
    readFraction_fractionText microsecondSmall, Option.bind_eq_bind, Option.bind_some,
    if_pos (And.intro hourSmall (And.intro minuteSmall secondSmall))]

/-- The fields of the time of day make up the reading inside the day. -/
theorem time_eq (moment : Datetime) :
    ((moment.hour * 60 + moment.minute) * 60 + moment.second) * 1000000 + moment.microsecond =
      moment.clock % dayMicros := by
  rw [hour, minute, second, microsecond, dayMicros]
  omega

theorem combine?_fields {moment : Datetime} (utc : moment.offset = 0) :
    combine? moment.date (((moment.hour * 60 + moment.minute) * 60 + moment.second) * 1000000 +
      moment.microsecond) 0 = some moment := by
  have inside : moment.clock % dayMicros < dayMicros := Nat.mod_lt _ (by decide)
  have ordinal : moment.date.toordinal = moment.clock / dayMicros + 1 :=
    Date.toordinal_fromordinal _ _
  rw [time_eq, combine?, dif_pos ⟨inside, by decide⟩]
  congr 1
  cases moment with
  | mk clock offset clockInRange offsetInRange =>
      cases utc
      simp only [mk.injEq]
      rw [ordinal, Nat.add_sub_cancel]
      exact ⟨Nat.div_add_mod' clock dayMicros, rfl⟩

/-- A text is read by its date, its time of day and its offset. -/
theorem fromisoformat_eq
    {chars timeChars offsetChars : List Char} {date : Date} {time : Nat} {offset : Int}
    (readsDate : readDate chars = some (date, 'T' :: timeChars))
    (readsTime : readTime timeChars = some (time, offsetChars))
    (readsOffset : readOffset offsetChars = some offset) :
    fromisoformat chars = combine? date time offset := by
  simp only [fromisoformat, readsDate, readChar_cons, readsTime, readsOffset,
    Option.bind_eq_bind, Option.bind_some]

/-- The text of the reading of a UTC clock is read back. -/
theorem fromisoformat_isoformatUtc {moment : Datetime} (utc : moment.offset = 0) :
    fromisoformat (isoformatUtc moment) = some moment := by
  have hourSmall : moment.hour < 24 := Nat.mod_lt _ (by decide)
  have minuteSmall : moment.minute < 60 := Nat.mod_lt _ (by decide)
  have secondSmall : moment.second < 60 := Nat.mod_lt _ (by decide)
  have microsecondSmall : moment.microsecond < 1000000 := Nat.mod_lt _ (by decide)
  have offsetText : "+00:00".toList = '+' :: "00:00".toList := rfl
  have readsTime := readTime_texts hourSmall minuteSmall secondSmall microsecondSmall
    "00:00".toList
  have text : isoformatUtc moment = dateText moment.date ++ 'T' :: (padded 2 moment.hour ++
      ':' :: (padded 2 moment.minute ++ ':' :: (padded 2 moment.second ++
        (fractionText moment.microsecond ++ '+' :: "00:00".toList)))) := by
    simp only [isoformatUtc, clockText, offsetText, List.append_assoc, List.cons_append,
      List.nil_append]
  rw [text, fromisoformat_eq (readDate_dateText _ _) readsTime readOffset_utc]
  exact combine?_fields utc

theorem instant_utc? {moment utc : Datetime} (converted : moment.utc? = some utc) :
    utc.instant = moment.instant ∧ utc.offset = 0 := by
  rw [utc?] at converted
  split_ifs at converted with inRange
  cases converted
  refine ⟨?_, rfl⟩
  change (moment.instant.toNat : Int) - 0 = moment.instant
  omega

/-- One instant is shown by one UTC clock. -/
theorem utc?_eq_of_instant {moment other : Datetime} (same : moment.instant = other.instant) :
    moment.utc? = other.utc? := by
  simp only [utc?, same]

/-- The text without microseconds comes first. -/
theorem fractionText_lt_iff {microsecond other : Nat} (small : microsecond < 1000000)
    (otherSmall : other < 1000000) (rest : List Char) :
    fractionText microsecond ++ '+' :: rest < fractionText other ++ '+' :: rest ↔
      microsecond < other := by
  have order : '+' < '.' := by decide
  rw [fractionText, fractionText]
  split_ifs with zero otherZero otherZero
  · rw [zero, otherZero]
    exact ⟨fun less => absurd less (List.lt_irrefl _), fun less => absurd less (by decide)⟩
  · rw [List.nil_append, List.cons_append, List.cons_lt_cons_iff]
    exact ⟨fun _ => by omega, fun _ => .inl order⟩
  · rw [List.nil_append, List.cons_append, List.cons_lt_cons_iff]
    constructor
    · rintro (less | ⟨same, -⟩)
      · exact absurd less (by decide)
      · exact absurd same (by decide)
    · intro less
      omega
  · have digits := (@comparable_padded 6 _ _ small otherSmall).separated ('+' :: rest)
    rw [List.cons_append, List.cons_append, List.cons_lt_cons_iff, digits.lt]
    simp

theorem comparable_dateText (date other : Date) :
    Comparable (dateText date) (dateText other) date.rank other.rank := by
  have year : date.year < 10 ^ 4 := by have := date.yearInRange; omega
  have month : date.month < 10 ^ 2 := by have := date.monthInRange; omega
  have day : date.day < 10 ^ 2 := by have := date.day_le; omega
  have otherYear : other.year < 10 ^ 4 := by have := other.yearInRange; omega
  have otherMonth : other.month < 10 ^ 2 := by have := other.monthInRange; omega
  have otherDay : other.day < 10 ^ 2 := by have := other.day_le; omega
  have years := (comparable_padded year otherYear).separated ['-']
  have months := (years.append (comparable_padded month otherMonth) month otherMonth).separated
    ['-']
  exact months.append (comparable_padded day otherDay) day otherDay

theorem comparable_clockText (moment other : Datetime) :
    Comparable (clockText moment) (clockText other)
      (((moment.date.rank * 24 + moment.hour) * 60 + moment.minute) * 60 + moment.second)
      (((other.date.rank * 24 + other.hour) * 60 + other.minute) * 60 + other.second) := by
  have hour : ∀ moment : Datetime, moment.hour < 24 := fun _ => Nat.mod_lt _ (by decide)
  have minute : ∀ moment : Datetime, moment.minute < 60 := fun _ => Nat.mod_lt _ (by decide)
  have second : ∀ moment : Datetime, moment.second < 60 := fun _ => Nat.mod_lt _ (by decide)
  have fits : ∀ {value : Nat}, value < 60 → value < 10 ^ 2 := by
    intro value small
    omega
  have hours := ((comparable_dateText moment.date other.date).separated ['T']).append
    (comparable_padded (fits (Nat.lt_trans (hour moment) (by decide)))
      (fits (Nat.lt_trans (hour other) (by decide)))) (hour moment) (hour other)
  have minutes := (hours.separated [':']).append
    (comparable_padded (fits (minute moment)) (fits (minute other))) (minute moment)
      (minute other)
  exact (minutes.separated [':']).append
    (comparable_padded (fits (second moment)) (fits (second other))) (second moment)
      (second other)

/-- Numbers of mixed radix whose leading digits are in the same order are so themselves. -/
theorem mixed_lt_iff
    {high otherHigh rank otherRank radix low otherLow : Nat}
    (small : low < radix) (otherSmall : otherLow < radix)
    (less : high < otherHigh ↔ rank < otherRank) (more : otherHigh < high ↔ otherRank < rank) :
    rank * radix + low < otherRank * radix + otherLow ↔
      high * radix + low < otherHigh * radix + otherLow := by
  have step : ∀ {first second lower upper : Nat}, lower < radix → first < second →
      first * radix + lower < second * radix + upper := by
    intro first second lower upper bound order
    have next : (first + 1) * radix ≤ second * radix := Nat.mul_le_mul_right radix order
    rw [Nat.succ_mul] at next
    omega
  rcases Nat.lt_trichotomy high otherHigh with order | same | order
  · exact iff_of_true (step small (less.1 order)) (step small order)
  · have equal : rank = otherRank := by omega
    rw [same, equal]
    omega
  · exact iff_of_false (Nat.lt_asymm (step otherSmall (more.1 order)))
      (Nat.lt_asymm (step otherSmall order))

/-- The seconds of a reading. -/
def seconds (moment : Datetime) : Nat :=
  (moment.hour * 60 + moment.minute) * 60 + moment.second

theorem seconds_lt (moment : Datetime) : moment.seconds < 86400 := by
  have hour : moment.hour < 24 := Nat.mod_lt _ (by decide)
  have minute : moment.minute < 60 := Nat.mod_lt _ (by decide)
  have second : moment.second < 60 := Nat.mod_lt _ (by decide)
  rw [seconds]
  omega

/-- The days, the seconds and the microseconds of a reading. -/
theorem clock_eq (moment : Datetime) :
    moment.clock =
      (moment.clock / dayMicros * 86400 + moment.seconds) * 1000000 + moment.microsecond := by
  have time := moment.time_eq
  have days := Nat.div_add_mod' moment.clock dayMicros
  rw [seconds]
  rw [dayMicros] at *
  omega

/-- Texts of UTC clocks are in the order of the readings. -/
theorem isoformatUtc_lt_iff (moment other : Datetime) :
    isoformatUtc moment < isoformatUtc other ↔ moment.clock < other.clock := by
  have comparable := comparable_clockText moment other
  have micros := Nat.mod_lt moment.clock (show 0 < 1000000 by decide)
  have otherMicros := Nat.mod_lt other.clock (show 0 < 1000000 by decide)
  have fraction := fractionText_lt_iff micros otherMicros "00:00".toList
  have ordinal : moment.date.toordinal = moment.clock / dayMicros + 1 :=
    Date.toordinal_fromordinal _ _
  have otherOrdinal : other.date.toordinal = other.clock / dayMicros + 1 :=
    Date.toordinal_fromordinal _ _
  have dates := Date.toordinal_lt_iff moment.date other.date
  have otherDates := Date.toordinal_lt_iff other.date moment.date
  rw [ordinal, otherOrdinal, Nat.add_lt_add_iff_right] at dates
  rw [ordinal, otherOrdinal, Nat.add_lt_add_iff_right] at otherDates
  have bySeconds := mixed_lt_iff moment.seconds_lt other.seconds_lt dates otherDates
  have bySecondsReverse := mixed_lt_iff other.seconds_lt moment.seconds_lt otherDates dates
  have digits : ∀ moment : Datetime,
      ((moment.date.rank * 24 + moment.hour) * 60 + moment.minute) * 60 + moment.second =
        moment.date.rank * 86400 + moment.seconds := by
    intro moment
    rw [seconds]
    omega
  have offsetText : "+00:00".toList = '+' :: "00:00".toList := rfl
  rw [isoformatUtc, isoformatUtc, append_lt_append_iff comparable.length, comparable.lt,
    comparable.eq, digits, digits, offsetText, microsecond, microsecond, fraction,
    clock_eq moment, clock_eq other, microsecond, microsecond]
  omega

/-- Texts of timestamps in UTC are in the order of the instants. -/
theorem utcText_lt_iff {moment other utc otherUtc : Datetime}
    (converted : moment.utc? = some utc) (otherConverted : other.utc? = some otherUtc) :
    isoformatUtc utc < isoformatUtc otherUtc ↔ moment.instant < other.instant := by
  obtain ⟨same, offset⟩ := instant_utc? converted
  obtain ⟨otherSame, otherOffset⟩ := instant_utc? otherConverted
  rw [isoformatUtc_lt_iff, ← same, ← otherSame, instant, instant, offset, otherOffset]
  omega

end Datetime

end Snapl.Library
