/-!
# Dates and times

A timestamp is a date, optionally with a time of day down to microseconds and an offset from
UTC in minutes. Its text is `YYYY-MM-DD`, then for a time a space, `HH:MM:SS`, a fraction of six
digits when there are microseconds, and the offset as `+HH:MM` or `-HH:MM`. As a literal it is
written as a call that builds it, with the fields in order and trailing zero seconds and
microseconds left out.
-/

namespace Templating

/-- A time of day with an optional offset from UTC in minutes. -/
structure Clock where
  hour : Nat
  minute : Nat
  second : Nat
  micro : Nat
  offset : Option Int
  deriving DecidableEq, Repr

/-- A date with an optional time of day. -/
structure Stamp where
  year : Nat
  month : Nat
  day : Nat
  clock : Option Clock
  deriving DecidableEq, Repr

namespace Stamp

/-- The decimal digits of `n`, at least `width` of them. -/
def padded (width n : Nat) : String :=
  let ds := Nat.toDigits 10 n
  String.ofList (List.replicate (width - ds.length) '0' ++ ds)

/-- Whether a year has a 29th of February. -/
def leap (y : Nat) : Bool := y % 4 == 0 && (y % 100 != 0 || y % 400 == 0)

/-- The number of days of a month. -/
def monthDays (y m : Nat) : Nat :=
  match m with
  | 2 => if leap y then 29 else 28
  | 4 | 6 | 9 | 11 => 30
  | _ => 31

/-- Whether the fields make a date and time that exist: years from 1 to 9999, offsets within a
day. -/
def valid (t : Stamp) : Bool :=
  1 ≤ t.year && t.year ≤ 9999 && 1 ≤ t.month && t.month ≤ 12 && 1 ≤ t.day &&
    t.day ≤ monthDays t.year t.month &&
    match t.clock with
    | none => true
    | some c => c.hour < 24 && c.minute < 60 && c.second < 60 && c.micro < 1000000 &&
        match c.offset with
        | some o => o.natAbs < 24 * 60
        | none => true

/-- The text of an offset from UTC. -/
def offsetText (o : Int) : String :=
  (if o < 0 then "-" else "+") ++ padded 2 (o.natAbs / 60) ++ ":" ++ padded 2 (o.natAbs % 60)

/-- The text of a timestamp. -/
def text (t : Stamp) : String :=
  let date := padded 4 t.year ++ "-" ++ padded 2 t.month ++ "-" ++ padded 2 t.day
  match t.clock with
  | none => date
  | some c =>
      date ++ " " ++ padded 2 c.hour ++ ":" ++ padded 2 c.minute ++ ":" ++ padded 2 c.second ++
        (if c.micro == 0 then "" else "." ++ padded 6 c.micro) ++
        (match c.offset with
          | some o => offsetText o
          | none => "")

/-- An offset from UTC written as the zone that holds it. -/
def zoneLiteral (o : Int) : String :=
  if o == 0 then "datetime.timezone.utc"
  else
    let secs := o * 60
    let days := secs.fdiv 86400
    let rest := secs.fmod 86400
    let fields := (if days != 0 then ["days=" ++ toString days] else []) ++
      (if rest != 0 then ["seconds=" ++ toString rest] else [])
    "datetime.timezone(datetime.timedelta(" ++ ", ".intercalate fields ++ "))"

/-- A timestamp written as a literal. -/
def literal (t : Stamp) : String :=
  match t.clock with
  | none => "datetime.date(" ++ ", ".intercalate ([t.year, t.month, t.day].map toString) ++ ")"
  | some c =>
      let base := [t.year, t.month, t.day, c.hour, c.minute]
      let fields := if c.micro != 0 then base ++ [c.second, c.micro]
        else if c.second != 0 then base ++ [c.second] else base
      let zone := match c.offset with
        | some o => [("tzinfo=" ++ zoneLiteral o)]
        | none => []
      "datetime.datetime(" ++ ", ".intercalate (fields.map toString ++ zone) ++ ")"

end Stamp

end Templating
