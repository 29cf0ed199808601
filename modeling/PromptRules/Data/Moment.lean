/-!
# Moments

Days of the calendar, perhaps with a time of day and the distance of its clock from
universal time. A moment is checked when it is made: a month has its days, and a clock is
less than a day off.

Results:
* `make_day`: every day of a month can be named.
-/

namespace PromptRules.Data

/-- A time of day. -/
structure Clock where
  hour : Nat
  minute : Nat
  second : Nat := 0
  /-- Millionths of a second. -/
  micros : Nat := 0
  /-- The minutes that the clock is ahead of universal time, if that is told. -/
  ahead : Option Int := none
deriving DecidableEq, Repr

/-- A day, perhaps with a time. -/
structure Moment where
  year : Nat
  month : Nat
  day : Nat
  clock : Option Clock := none
deriving DecidableEq, Repr

namespace Moment

/-- Why there is no such moment. -/
inductive Fault where
  | year (year : Nat)
  | month
  | day
  | hour
  | minute
  | second
  | ahead (minutes : Int)
deriving DecidableEq, Repr

/-! ## The calendar -/

/-- Whether a year has a leap day. -/
def isLeap (year : Nat) : Bool := year % 4 == 0 && (year % 100 != 0 || year % 400 == 0)

/-- The number of days of a month. -/
def monthLength (year month : Nat) : Nat :=
  if month = 2 then if isLeap year then 29 else 28
  else if month ∈ [4, 6, 9, 11] then 30
  else 31

/-- A moment, if there is such a one. The clock's distance is looked at first, then the
    fields from the greatest to the least. -/
def make (year month day : Nat) (clock : Option Clock) : Except Fault Moment := do
  if let some ahead := clock.bind Clock.ahead then
    if 1440 ≤ ahead.natAbs then throw (.ahead ahead)
  if year = 0 then throw (.year year)
  if month = 0 || 12 < month then throw .month
  if day = 0 || monthLength year month < day then throw .day
  if let some c := clock then
    if 23 < c.hour then throw .hour
    if 59 < c.minute then throw .minute
    if 59 < c.second then throw .second
  return ⟨year, month, day, clock⟩

theorem make_day {year month day : Nat} (hy : year ≠ 0) (hm : month ≠ 0 ∧ month ≤ 12)
    (hd : day ≠ 0 ∧ day ≤ monthLength year month) :
    make year month day none = .ok ⟨year, month, day, none⟩ := by
  have h₁ : ¬12 < month := by omega
  have h₂ : ¬monthLength year month < day := by omega
  simp [make, hy, hm.1, hd.1, h₁, h₂, pure, Except.pure]

/-! ## Points in time -/

/-- The number of days up to the first one of a year. -/
def daysBefore (year : Nat) : Nat :=
  let y := year - 1
  365 * y + y / 4 - y / 100 + y / 400

/-- The number of a day, counted on from the first one of year one. -/
def dayNumber (m : Moment) : Nat :=
  (List.range (m.month - 1)).foldl (fun days i => days + monthLength m.year (i + 1))
    (daysBefore m.year) + m.day

/-- The millionths of a second from the start of year one, by the clock of the moment. -/
def micros (m : Moment) (c : Clock) : Int :=
  (((m.dayNumber * 24 + c.hour) * 60 + c.minute) * 60 + c.second) * 1000000 + c.micros

/-- Whether two moments are the same point in time. A day is no point, and a clock whose
    distance is not told cannot be compared with one that tells it. -/
def same (m n : Moment) : Bool :=
  match m.clock, n.clock with
  | some c, some d =>
    match c.ahead, d.ahead with
    | some a, some b => m.micros c - a * 60000000 == n.micros d - b * 60000000
    | none, none => m == n
    | _, _ => false
  | none, none => m == n
  | _, _ => false

/-! ## In writing -/

/-- A number with at least so many digits. -/
def padded (width n : Nat) : String :=
  let ds := Nat.toDigits 10 n
  String.ofList (List.replicate (width - ds.length) '0' ++ ds)

/-- A clock's distance from universal time: its sign, hours and minutes. -/
def distance (ahead : Int) : String :=
  (if ahead < 0 then "-" else "+") ++ padded 2 (ahead.natAbs / 60) ++ ":"
    ++ padded 2 (ahead.natAbs % 60)

/-- A time of day. -/
def clockText (c : Clock) : String :=
  ":".intercalate [padded 2 c.hour, padded 2 c.minute, padded 2 c.second]
    ++ (if c.micros = 0 then "" else "." ++ padded 6 c.micros)
    ++ ((c.ahead.map distance).getD "")

/-- A moment: the day, a space and the time. -/
def text (m : Moment) : String :=
  "-".intercalate [padded 4 m.year, padded 2 m.month, padded 2 m.day]
    ++ match m.clock with
      | some c => " " ++ clockText c
      | none => ""

/-- A span of minutes as messages show it: whole days and the seconds beyond them. -/
def spanLiteral (minutes : Int) : String :=
  let days := Int.fdiv minutes 1440
  let seconds := Int.fmod minutes 1440 * 60
  let parts := (if days = 0 then [] else ["days=" ++ toString days])
    ++ (if seconds = 0 then [] else ["seconds=" ++ toString seconds])
  "datetime.timedelta(" ++ (if parts.isEmpty then "0" else ", ".intercalate parts) ++ ")"

/-- A clock's distance from universal time as messages show it. -/
def aheadLiteral (ahead : Int) : String :=
  if ahead = 0 then "datetime.timezone.utc" else "datetime.timezone(" ++ spanLiteral ahead ++ ")"

/-- A moment as messages show it; seconds and their parts are left out when they are zero. -/
def literal (m : Moment) : String :=
  let day := [m.year, m.month, m.day]
  match m.clock with
  | none => "datetime.date(" ++ ", ".intercalate (day.map toString) ++ ")"
  | some c =>
    let fine := if c.micros ≠ 0 then [c.second, c.micros] else if c.second ≠ 0 then [c.second] else []
    let fields := (day ++ [c.hour, c.minute] ++ fine).map toString
    let ahead := match c.ahead with
      | some a => ["tzinfo=" ++ aheadLiteral a]
      | none => []
    "datetime.datetime(" ++ ", ".intercalate (fields ++ ahead) ++ ")"

/-- The wording of a fault. -/
def Fault.message : Fault → String
  | .year n => "year " ++ toString n ++ " is out of range"
  | .month => "month must be in 1..12"
  | .day => "day is out of range for month"
  | .hour => "hour must be in 0..23"
  | .minute => "minute must be in 0..59"
  | .second => "second must be in 0..59"
  | .ahead minutes =>
    "offset must be a timedelta strictly between -timedelta(hours=24) and timedelta(hours=24), not "
      ++ spanLiteral minutes ++ "."

end Moment

end PromptRules.Data
