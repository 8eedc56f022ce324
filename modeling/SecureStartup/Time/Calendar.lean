import SecureStartup.Text.Digit
import SecureStartup.Text.Split

/-!
  Dates and times of the Gregorian calendar, and their ISO 8601 texts.

  A `DateTime` counts microseconds and may carry an offset from UTC in seconds.  Two times with an
  offset are compared as instants; a time without one is comparable only with its like.

  The clock of a host is such a time.  Its stamps differ from place to place: with milliseconds in
  lines of JSON (`millisUtc`) and of plain files (`stampMillis`), with seconds on the console (`stamp`),
  in the names of log files (`fileStamp`) and in trace ids (`traceStamp`).  Documents hold dates and
  times too; those are read from and written as ISO texts, whose years always have four digits, while
  the year of a stamp has as many as it needs.
-/

namespace SecureStartup

open SecureStartup.Text

/-- A calendar date. -/
structure Date where
  year : Nat
  month : Nat
  day : Nat
  deriving DecidableEq, Inhabited, Repr

/-- A date, a time of day to the microsecond, and possibly an offset from UTC in seconds. -/
structure DateTime where
  date : Date
  hour : Nat
  minute : Nat
  second : Nat
  micro : Nat
  offset : Option Int
  deriving DecidableEq, Inhabited, Repr

namespace Date

/-- Leap years of the Gregorian calendar. -/
def isLeap (y : Nat) : Bool := y % 4 == 0 && (y % 100 != 0 || y % 400 == 0)

/-- Days of a month (zero for what is no month). -/
def daysIn (y m : Nat) : Nat :=
  if m == 2 then (if isLeap y then 29 else 28)
  else if m == 4 || m == 6 || m == 9 || m == 11 then 30
  else if 1 ≤ m && m ≤ 12 then 31 else 0

/-- A day number that grows by one from each date to the next. -/
def dayNumber (d : Date) : Int :=
  let y : Int := if d.month ≤ 2 then d.year - 1 else d.year
  let m : Int := if d.month ≤ 2 then d.month + 9 else d.month - 3
  365 * y + y / 4 - y / 100 + y / 400 + (153 * m + 2) / 5 + d.day

/-- The date that is some days after 1 March of the year 0. -/
def ofDaysSinceMarch (n : Nat) : Date :=
  let era := n / 146097
  let ofEra := n % 146097
  let year := (ofEra - ofEra / 1460 + ofEra / 36524 - ofEra / 146096) / 365
  let ofYear := ofEra - (365 * year + year / 4 - year / 100)
  let m := (5 * ofYear + 2) / 153
  let day := ofYear - (153 * m + 2) / 5 + 1
  let month := if m < 10 then m + 3 else m - 9
  ⟨year + era * 400 + (if month ≤ 2 then 1 else 0), month, day⟩

/-- `2026-01-05`. -/
def iso (d : Date) : List Char :=
  padded 4 d.year ++ '-' :: (padded 2 d.month ++ '-' :: padded 2 d.day)

/-- The date in log lines and the names of log folders: as `iso`, but the year has no leading
zeros. -/
def logText (d : Date) : List Char :=
  padded 1 d.year ++ '-' :: (padded 2 d.month ++ '-' :: padded 2 d.day)

end Date

namespace DateTime

/-- The time of day with microseconds when there are any: `14:30:07.123456`. -/
def timeText (t : DateTime) : List Char :=
  padded 2 t.hour ++ ':' :: (padded 2 t.minute ++ ':' :: padded 2 t.second)
    ++ (if t.micro == 0 then [] else '.' :: padded 6 t.micro)

/-- An offset as `+01:00`, with seconds when there are any. -/
def offsetText (o : Int) : List Char :=
  let n := o.natAbs
  (if o < 0 then '-' else '+') :: (padded 2 (n / 3600) ++ ':' :: padded 2 (n / 60 % 60))
    ++ (if n % 60 == 0 then [] else ':' :: padded 2 (n % 60))

/-- The time that is some seconds and nanoseconds after the epoch, in UTC. -/
def ofEpoch (seconds nanos : Nat) : DateTime :=
  let rest := seconds % 86400
  ⟨.ofDaysSinceMarch (seconds / 86400 + 719468), rest / 3600, rest / 60 % 60, rest % 60,
    nanos / 1000, none⟩

/-- Date and time with `sep` between them, and the offset if there is one. -/
def textWith (sep : Char) (t : DateTime) : String :=
  String.ofList (t.date.iso ++ sep :: t.timeText ++ (t.offset.map offsetText).getD [])

/-- ISO 8601: `2026-01-05T14:30:07.123456`. -/
def iso (t : DateTime) : String := textWith 'T' t

/-- Microseconds on one time line; times with an offset are moved to UTC. -/
def instant (t : DateTime) : Int :=
  let secs : Int := t.date.dayNumber * 86400 + t.hour * 3600 + t.minute * 60 + t.second
  (secs - t.offset.getD 0) * 1000000 + t.micro

/-- The same instant, where both or neither have an offset. -/
def same (s t : DateTime) : Bool :=
  s.offset.isSome == t.offset.isSome && s.instant == t.instant

/-- `14:30:07` after the date, without fractions: the stamp of a console line. -/
def seconds (t : DateTime) : List Char :=
  padded 2 t.hour ++ ':' :: (padded 2 t.minute ++ ':' :: padded 2 t.second)

/-- `2026-01-05 14:30:07`. -/
def stamp (t : DateTime) : String := String.ofList (t.date.logText ++ ' ' :: t.seconds)

/-- `2026-01-05T14:30:07.123Z`: milliseconds, cut off and not rounded. -/
def millisUtc (t : DateTime) : String :=
  String.ofList (t.date.logText ++ 'T' :: t.seconds ++ '.' :: padded 3 (t.micro / 1000) ++ ['Z'])

/-- `2026-01-05 14:30:07,123`. -/
def stampMillis (t : DateTime) : String :=
  String.ofList (t.date.logText ++ ' ' :: t.seconds ++ ',' :: padded 3 (t.micro / 1000))

/-- `0105_1430`: the stamp in a log file's name. -/
def fileStamp (t : DateTime) : String :=
  String.ofList (padded 2 t.date.month ++ padded 2 t.date.day ++ '_' :: padded 2 t.hour
    ++ padded 2 t.minute)

/-- `20260105-143007`: the stamp in a trace id. -/
def traceStamp (t : DateTime) : String :=
  String.ofList (padded 1 t.date.year ++ padded 2 t.date.month ++ padded 2 t.date.day ++ '-' ::
    (padded 2 t.hour ++ padded 2 t.minute ++ padded 2 t.second))

end DateTime

/-! ## Reading ISO texts -/

/-- A number of ASCII digits, or none. -/
def asciiNat? (s : List Char) : Option Nat :=
  if !s.isEmpty && s.all isAsciiDigit then some (natOfDigits 10 s) else none

/-- The numbers of a text of two-digit groups, which may stand together or behind colons. -/
def pairsOfIso? (s : List Char) : Option (List Nat) :=
  match s with
  | a :: b :: ':' :: r => do return (← asciiNat? [a, b]) :: (← pairsOfIso? r)
  | a :: b :: r => do return (← asciiNat? [a, b]) :: (← pairsOfIso? r)
  | [_] => none
  | [] => some []

/-- `2026-01-05` or `20260105`. -/
def Date.ofIso? (s : List Char) : Option Date := do
  let rest := s.drop 4
  let parts ← match splitOn '-' rest with
    | [[], m, d] => some (m, d)
    | [md] => if md.length == 4 then some (md.splitAt 2) else none
    | _ => none
  return ⟨← asciiNat? (s.take 4), ← asciiNat? parts.1, ← asciiNat? parts.2⟩

/-- An offset: `Z`, or `+hh:mm`, or `+hh:mm:ss`. -/
def offsetOfIso? (s : List Char) : Option Int :=
  match s with
  | ['Z'] => some 0
  | c :: r =>
    if c == '+' || c == '-' then do
      let parts ← pairsOfIso? r
      let n : Int := parts.getD 0 0 * 3600 + parts.getD 1 0 * 60 + parts.getD 2 0
      return if c == '-' then -n else n
    else none
  | [] => none

/-- A date, and a time separated from it by one character; the time, its smaller parts and the
offset may be missing. -/
def DateTime.ofIso? (s : List Char) : Option DateTime := do
  let width := if s[4]? == some '-' then 10 else 8
  let date ← Date.ofIso? (s.take width)
  let (time, tail) := (s.drop (width + 1)).span fun c => c != 'Z' && c != '+' && c != '-'
  let offset ← if tail.isEmpty then some none else (offsetOfIso? tail).map some
  let (clock, fraction) := time.span fun c => c != '.' && c != ','
  let micro ← if fraction.isEmpty then some 0
    else asciiNat? ((fraction.drop 1 ++ List.replicate 6 '0').take 6)
  let parts ← pairsOfIso? clock
  return ⟨date, parts.getD 0 0, parts.getD 1 0, parts.getD 2 0, micro, offset⟩

end SecureStartup
