import SecureStartup.Number.Binary64
import SecureStartup.Text.Blank
import SecureStartup.Text.Digit

/-!
  Reading numbers out of free text.

  Blanks around the number do not count, digits may be of any script, and a single underscore may
  stand between two digits.  A whole number has at most 4300 digits.  A double may also be one of the
  words `nan`, `inf` and `infinity`, in ASCII letters of any case.

  This is what the conversions of `exit_code` and `duration_ms` do with a text (`_ensure_type`).  The
  readers of parts hand back what follows the part; a number is what leaves nothing over.
-/

namespace SecureStartup.Number

open SecureStartup.Text

/-- Blanks that may stand around a number: all but the four information separators. -/
def isNumberBlank (c : Char) : Bool := isBlank c && !(28 ≤ c.toNat && c.toNat < 32)

/-- A text without the blanks around it. -/
def bare (s : List Char) : List Char :=
  ((s.dropWhile isNumberBlank).reverse.dropWhile isNumberBlank).reverse

/-- A text is a word of ASCII letters, in any case; the word is given in small letters. -/
def isWord (word : String) (s : List Char) : Bool := s.map Char.toLower == word.toList

/-- What may follow a digit: more digits, each with at most one underscore in front.  Their values,
    and what follows the last one. -/
def moreDigits : List Char → List Nat × List Char
  | [] => ([], [])
  | [c] =>
    match digitValue? c with
    | some d => ([d], [])
    | none => ([], [c])
  | c :: c' :: r =>
    match digitValue? c, c == '_', digitValue? c' with
    | some d, _, _ =>
      let (ds, rest) := moreDigits (c' :: r)
      (d :: ds, rest)
    | none, true, some d =>
      let (ds, rest) := moreDigits r
      (d :: ds, rest)
    | none, _, _ => ([], c :: c' :: r)

/-- Digits with single underscores between them: their values, and what follows the last digit.
    None when the text does not start with a digit. -/
def digitRun? : List Char → Option (List Nat × List Char)
  | [] => none
  | c :: r =>
    (digitValue? c).map fun d =>
      let (ds, rest) := moreDigits r
      (d :: ds, rest)

/-- The number that digit values write. -/
def natOfValues (ds : List Nat) : Nat := ds.foldl (fun acc d => acc * 10 + d) 0

/-- A sign in front: whether it is negative, and what follows. -/
def sign : List Char → Bool × List Char
  | '-' :: r => (true, r)
  | '+' :: r => (false, r)
  | s => (false, s)

/-- The longest whole number that is read. -/
def maxDigits : Nat := 4300

/-- A whole number, written in decimal. -/
def readInt? (s : String) : Option Int :=
  let (negative, body) := sign (bare s.toList)
  match digitRun? body with
  | some (ds, []) =>
    if maxDigits < ds.length then none
    else
      let n : Int := natOfValues ds
      some (if negative then -n else n)
  | _ => none

/-- The exponent part, when there is one: its value and what follows. -/
def exponentPart : List Char → Int × List Char
  | c :: r =>
    if c == 'e' || c == 'E' then
      let (negative, body) := sign r
      match digitRun? body with
      | some (ds, rest) =>
        let n : Int := natOfValues ds
        (if negative then -n else n, rest)
      | none => (0, c :: r)
    else (0, c :: r)
  | [] => (0, [])

/-- Digits before the point, after it, and what follows; at least one digit in all. -/
def mantissaPart? (s : List Char) : Option (List Nat × List Nat × List Char) :=
  match digitRun? s with
  | some (ds, '.' :: r) =>
    match digitRun? r with
    | some (fs, rest) => some (ds, fs, rest)
    | none => some (ds, [], r)
  | some (ds, rest) => some (ds, [], rest)
  | none =>
    match s with
    | '.' :: r => (digitRun? r).map fun (fs, rest) => ([], fs, rest)
    | _ => none

/-- A double: a decimal with optional point and exponent, or one of the words. -/
def readFloat? (s : String) : Option Binary64 :=
  let (negative, body) := sign (bare s.toList)
  if isWord "nan" body then some .nan
  else if isWord "inf" body || isWord "infinity" body then some (.infinite negative)
  else
    match mantissaPart? body with
    | some (ds, fs, rest) =>
      match exponentPart rest with
      | (e, []) => some (Binary64.ofDecimal negative (natOfValues (ds ++ fs)) (e - fs.length))
      | _ => none
    | none => none

end SecureStartup.Number
