import SecureStartup.Failure.Basic
import SecureStartup.Number.Reader
import SecureStartup.Text.LetterCase

/-!
  What a scalar of a YAML document means.

  A plain scalar without a tag gets its type from its form: one of the words for truth values and
  nothing, a whole number (decimal, binary, octal, hexadecimal, or in base sixty with colons), a
  double, a date, a time.  Everything else is text.  A line feed at the very end does not count for
  the form.  Reading a scalar as the type it looks like may still fail, since `2020-13-45` looks like
  a date and is none.

  The forms are those of YAML 1.1: `yes` and `off` are truth values, `0o17` is a text and `017` is
  fifteen, and `1:30` is ninety.
-/

namespace SecureStartup.Yaml

open SecureStartup.Text

/-- The full form of a standard tag. -/
def standardTag (name : String) : String := "tag:yaml.org,2002:" ++ name

/-! ## Forms -/

/-- The words for truth values. -/
def truthWords : List (String × Bool) :=
  [("yes", true), ("no", false), ("true", true), ("false", false), ("on", true), ("off", false)]

/-- A word in lower case, with a capital, or in capitals. -/
def isCased (words : List String) (s : List Char) : Bool :=
  words.any fun w =>
    let cs := w.toList
    s == cs || s == cs.map Char.toUpper
      || s == (cs.take 1).map Char.toUpper ++ cs.drop 1

/-- A nonempty text of certain characters and underscores. -/
def isRunOf (p : Char → Bool) (s : List Char) : Bool :=
  !s.isEmpty && s.all fun c => p c || c == '_'

/-- A digit, then digits and underscores. -/
def isDigits (s : List Char) : Bool :=
  (s.head?.map isAsciiDigit).getD false && s.all fun c => isAsciiDigit c || c == '_'

/-- A text without its sign, if it has one. -/
def unsigned : List Char → List Char
  | '+' :: r | '-' :: r => r
  | s => s

/-- A part below sixty after a colon. -/
def isSixtieth (s : List Char) : Bool :=
  match s with
  | [a] => isAsciiDigit a
  | [a, b] => '0' ≤ a && a ≤ '5' && isAsciiDigit b
  | _ => false

/-- Parts in base sixty: some digits, then at least one part below sixty. -/
def isSexagesimal (s : List Char) : Bool :=
  match splitOn ':' s with
  | first :: second :: more => isDigits first && (second :: more).all isSixtieth
  | _ => false

/-- The form of a whole number. -/
def isIntForm (s : List Char) : Bool :=
  let body := unsigned s
  match body with
  | '0' :: 'b' :: r => isRunOf (fun c => c == '0' || c == '1') r
  | '0' :: 'x' :: r =>
    isRunOf (fun c => isAsciiDigit c || ('a' ≤ c && c ≤ 'f') || ('A' ≤ c && c ≤ 'F')) r
  | '0' :: r => r.isEmpty || isRunOf (fun c => '0' ≤ c && c ≤ '7') r
  | _ => isDigits body || isSexagesimal body

/-- An exponent with its sign, or nothing. -/
def isExponent : List Char → Bool
  | [] => true
  | e :: sign :: r =>
    (e == 'e' || e == 'E') && (sign == '+' || sign == '-') && !r.isEmpty && r.all isAsciiDigit
  | _ => false

/-- Digits and underscores, then possibly an exponent. -/
def isFraction (s : List Char) : Bool :=
  isExponent (s.dropWhile fun c => isAsciiDigit c || c == '_')

/-- The form of a double. -/
def isFloatForm (s : List Char) : Bool :=
  let body := unsigned s
  let named := fun (word : String) (t : List Char) =>
    t.head? == some '.' && isCased [word] (t.drop 1)
  let written := match cutFirst '.' body with
    | (whole, some r) =>
      (isDigits whole && isFraction r)
        || (isSexagesimal whole && r.all fun c => isAsciiDigit c || c == '_')
    | (_, none) => false
  let bare := match s with
    | '.' :: d :: r => isAsciiDigit d && isFraction r
    | _ => false
  written || bare || named "inf" body || s == ".nan".toList || s == ".NaN".toList
    || s == ".NAN".toList

/-- The parts of a time stamp, as digits. -/
structure Stamp where
  year : List Char
  month : List Char
  day : List Char
  /-- Hour, minute, second and fraction. -/
  clock : Option (List Char × List Char × List Char × List Char)
  /-- Sign, hours and minutes of an offset; a `Z` has no hours. -/
  zone : Option (Char × List Char × List Char)

/-- At least `least` and at most `most` digits. -/
def digitsUpTo? (least most : Nat) (s : List Char) : Option (List Char × List Char) :=
  let ds := (s.take most).takeWhile isAsciiDigit
  if least ≤ ds.length then some (ds, s.drop ds.length) else none

/-- Go past a character. -/
def past? (c : Char) : List Char → Option (List Char)
  | a :: r => if a == c then some r else none
  | [] => none

/-- Blanks inside a time stamp. -/
def skipGaps (s : List Char) : List Char := s.dropWhile fun c => c == ' ' || c == '\t'

/-- The offset that ends a time stamp. -/
def zone? (s : List Char) : Option (Option (Char × List Char × List Char)) :=
  match skipGaps s with
  | [] => if s.isEmpty then some none else none
  | ['Z'] => some (some ('Z', [], []))
  | c :: r =>
    if c == '+' || c == '-' then do
      let (hours, r) ← digitsUpTo? 1 2 r
      match r with
      | [] => some (some (c, hours, []))
      | _ =>
        let (minutes, r) ← (past? ':' r).bind (digitsUpTo? 2 2)
        if r.isEmpty then some (some (c, hours, minutes)) else none
    else none

/-- The time of day in a time stamp, with the offset. -/
def clock? (s : List Char) :
    Option ((List Char × List Char × List Char × List Char) ×
      Option (Char × List Char × List Char)) := do
  let (hour, s) ← digitsUpTo? 1 2 s
  let (minute, s) ← (past? ':' s).bind (digitsUpTo? 2 2)
  let (second, s) ← (past? ':' s).bind (digitsUpTo? 2 2)
  let (fraction, s) := match s with
    | '.' :: r => (r.takeWhile isAsciiDigit, r.dropWhile isAsciiDigit)
    | _ => ([], s)
  return ((hour, minute, second, fraction), ← zone? s)

/-- The parts of a time stamp. -/
def stamp? (s : List Char) : Option Stamp := do
  let (year, s) ← digitsUpTo? 4 4 s
  let (month, s) ← (past? '-' s).bind (digitsUpTo? 1 2)
  let (day, s) ← (past? '-' s).bind (digitsUpTo? 1 2)
  match s with
  | [] => return ⟨year, month, day, none, none⟩
  | c :: r =>
    let (clock, zone) ←
      if c == 'T' || c == 't' then clock? r
      else if c == ' ' || c == '\t' then clock? (skipGaps r)
      else none
    return ⟨year, month, day, some clock, zone⟩

/-- The form of a time stamp: a date alone has two digits for month and day. -/
def isStampForm (s : List Char) : Bool :=
  match stamp? s with
  | some t => t.clock.isSome || (t.month.length == 2 && t.day.length == 2)
  | none => false

/-- A text without the line feed at its end, if it has one. -/
def withoutFinalBreak (s : List Char) : List Char :=
  if s.getLast? == some '\n' then s.dropLast else s

/-- **The tag of a plain scalar** without one, from its form. -/
def impliedTag (text : String) : String :=
  let s := withoutFinalBreak text.toList
  let isOne := fun (words : List String) => words.contains (String.ofList s)
  let name :=
    if text == "" then "null"
    else if isCased (truthWords.map (·.1)) s then "bool"
    else if isFloatForm s then "float"
    else if isIntForm s then "int"
    else if isOne ["<<"] then "merge"
    else if isOne ["~"] || isCased ["null"] s then "null"
    else if isStampForm s then "timestamp"
    else if isOne ["="] then "value"
    else if isOne ["!", "&", "*"] then "yaml"
    else "str"
  standardTag name

/-! ## Meaning -/

/-- The value of a digit in any base up to sixteen. -/
def digitIn? (base : Nat) (c : Char) : Option Nat :=
  let d := match digitValue? c with
    | some d => some d
    | none =>
      if 'a' ≤ c && c ≤ 'f' then some (c.toNat - 87)
      else if 'A' ≤ c && c ≤ 'F' then some (c.toNat - 55)
      else none
  d.bind fun d => if d < base then some d else none

/-- A whole number in a base; a mark for the base may stand in front. -/
def intIn? (base : Nat) (mark : Char) (s : List Char) : Option Int := do
  let (negative, body) := Number.sign (Number.bare s)
  let body := match body with
    | '0' :: m :: r => if m.toLower == mark then r else body
    | _ => body
  if body.isEmpty then none
  let ds ← body.mapM (digitIn? base)
  let n : Int := (ds.foldl (fun acc d => acc * base + d) 0 : Nat)
  return if negative then -n else n

/-- How much of a text is shown when it is no whole number. -/
def shownWidth : Nat := 200

/-- The failure to read a whole number. -/
def notInt (base : Nat) (s : List Char) : Failure :=
  let shown := String.ofList ((quoted (String.ofList s)).toList.take shownWidth)
  .invalid (.other s!"invalid literal for int() with base {base}: {shown}")

/-- A whole number in a base, or the failure to read it. -/
def intIn (base : Nat) (mark : Char) (s : List Char) : Except Failure Int :=
  match intIn? base mark s with
  | some n => .ok n
  | none => .error (notInt base s)

/-- The failure to read a whole number of too many digits. -/
def tooLong (digits : Nat) : Failure :=
  .invalid (.other (s!"Exceeds the limit ({Number.maxDigits} digits) for integer string conversion: "
    ++ s!"value has {digits} digits; use sys.set_int_max_str_digits() to increase the limit"))

/-- A whole number in decimal, or the failure to read it. -/
def decimalInt (s : List Char) : Except Failure Int :=
  match Number.readInt? (String.ofList s) with
  | some n => .ok n
  | none =>
    -- the digits are counted before what follows them is looked at
    match Number.digitRun? (Number.sign (Number.bare s)).2 with
    | some (ds, r) =>
      if Number.maxDigits < ds.length && r.head? != some '_' then .error (tooLong ds.length)
      else .error (notInt 10 s)
    | none => .error (notInt 10 s)

/-- The sign and the rest of a number; there has to be something to look at. -/
def signed (s : List Char) : Except Failure (Bool × List Char) :=
  match s with
  | [] => .error (.mismatch .noIndex)
  | '-' :: r => .ok (true, r)
  | '+' :: r => .ok (false, r)
  | s => .ok (false, s)

/-- A text as a whole number. -/
def readInt (text : String) : Except Failure Value := do
  let (negative, body) ← signed (text.toList.filter (· != '_'))
  let n ← match body with
    | [] => throw (.mismatch .noIndex)
    | ['0'] => pure 0
    | '0' :: 'b' :: r => intIn 2 'b' r
    | '0' :: 'x' :: r => intIn 16 'x' r
    | '0' :: _ => intIn 8 'o' body
    | _ =>
      if body.contains ':' then do
        let parts ← (splitOn ':' body).mapM decimalInt
        pure (parts.foldl (fun acc d => acc * 60 + d) 0)
      else decimalInt body
  return .int (if negative then -n else n)

/-- A text as a double without words and colons. -/
def plainFloat (s : List Char) : Except Failure Binary64 :=
  match Number.readFloat? (String.ofList s) with
  | some x => .ok x
  | none =>
    .error (.invalid (.other s!"could not convert string to float: {quoted (String.ofList s)}"))

/-- Parts in base sixty, the last one first, summed from the last on; their unit has to be a
    double. -/
def sumSixtieths : List Binary64 → Int → Binary64 → Except Failure Binary64
  | [], _, acc => .ok acc
  | x :: xs, base, acc =>
    match Binary64.ofInt? base with
    | none => .error (.mismatch .outOfRange)
    | some unit => sumSixtieths xs (base * 60) (acc.add (x.mul unit))

/-- A text as a double. -/
def readFloat (text : String) : Except Failure Value := do
  let (negative, body) ← signed (lowerText (text.toList.filter (· != '_')))
  let x ←
    if body == ".inf".toList then pure (Binary64.infinite false)
    else if body == ".nan".toList then pure Binary64.nan
    else if body.contains ':' then do
      let parts ← (splitOn ':' body).mapM plainFloat
      sumSixtieths parts.reverse 1 (Binary64.zero false)
    else plainFloat body
  return .float (if negative then x.negate else x)

/-- A text as a truth value. -/
def readTruth (text : String) : Except Failure Value :=
  let word := String.ofList (lowerText text.toList)
  match truthWords.find? fun w => w.1 == word with
  | some (_, b) => .ok (.bool b)
  | none => .error (.mismatch (.noKey (.str word)))

/-- A failure of a part of a date or time. -/
def badPart (text : String) : Failure := .invalid (.other text)

/-- A date of the calendar. -/
def checkedDate (y m d : Nat) : Except Failure Date :=
  if y == 0 then .error (badPart s!"year {y} is out of range")
  else if m == 0 || 12 < m then .error (badPart "month must be in 1..12")
  else if d == 0 || Date.daysIn y m < d then .error (badPart "day is out of range for month")
  else .ok ⟨y, m, d⟩

/-- An offset from UTC of less than a day. -/
def checkedOffset (zone : Option (Char × List Char × List Char)) : Except Failure (Option Int) :=
  match zone with
  | none => .ok none
  | some (sign, hours, minutes) =>
    let span : Int := natOfDigits 10 hours * 3600 + natOfDigits 10 minutes * 60
    let offset := if sign == '-' then -span else span
    if span < 86400 then .ok (some offset)
    else .error (badPart ("offset must be a timedelta strictly between -timedelta(hours=24) and "
      ++ s!"timedelta(hours=24), not {Value.spanText offset}."))

/-- A text as a date or a time. -/
def readStamp (text : String) : Except Failure Value := do
  match stamp? (withoutFinalBreak text.toList) with
  | none => throw (.mismatch .noPart)
  | some t =>
    let number := natOfDigits 10
    match t.clock with
    | none => return .date (← checkedDate (number t.year) (number t.month) (number t.day))
    | some (hour, minute, second, fraction) =>
      let offset ← checkedOffset t.zone
      let date ← checkedDate (number t.year) (number t.month) (number t.day)
      let (h, m, s) := (number hour, number minute, number second)
      if 23 < h then throw (badPart "hour must be in 0..23")
      if 59 < m then throw (badPart "minute must be in 0..59")
      if 59 < s then throw (badPart "second must be in 0..59")
      let micro := number ((fraction ++ List.replicate 6 '0').take 6)
      return .datetime ⟨date, h, m, s, micro, offset⟩

/-! ## Bytes -/

/-- The value of a character of base 64. -/
def sixBits? (c : Char) : Option Nat :=
  if 'A' ≤ c && c ≤ 'Z' then some (c.toNat - 65)
  else if 'a' ≤ c && c ≤ 'z' then some (c.toNat - 71)
  else if isAsciiDigit c then some (c.toNat + 4)
  else if c == '+' then some 62
  else if c == '/' then some 63
  else none

/-- The bytes of base 64 text.  Other characters do not count; the text ends where padding completes
    a group of four.  `held` are the characters of the open group, `pads` the padding in it. -/
def bytesOfSixBits : List Char → List Nat → Nat → Option (List UInt8)
  | [], held, _ => if held.isEmpty then some [] else none
  | c :: r, held, pads =>
    if c == '=' then
      if 2 ≤ held.length then
        if 4 ≤ held.length + pads + 1 then
          match held with
          | [a, b] => some [UInt8.ofNat (a * 4 + b / 16)]
          | [a, b, d] => some [UInt8.ofNat (a * 4 + b / 16), UInt8.ofNat (b % 16 * 16 + d / 4)]
          | _ => none
        else bytesOfSixBits r held (pads + 1)
      else bytesOfSixBits r held pads
    else
      match sixBits? c with
      | none => bytesOfSixBits r held pads
      | some v =>
        match held with
        | [a, b, d] =>
          (bytesOfSixBits r [] 0).map fun more =>
            UInt8.ofNat (a * 4 + b / 16) :: UInt8.ofNat (b % 16 * 16 + d / 4)
              :: UInt8.ofNat (d % 4 * 64 + v) :: more
        | _ => bytesOfSixBits r (held ++ [v]) 0

/-- A text as bytes. -/
def readBytes (text : String) : Except Failure Value :=
  let s := text.toList
  if s.any fun c => 127 < c.toNat then .error .malformed
  else
    match bytesOfSixBits s [] 0 with
    | some bs => .ok (.bytes bs)
    | none => .error .malformed

end SecureStartup.Yaml
