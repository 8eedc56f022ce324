import SecureStartup.Value.Basic
import SecureStartup.Text.Split
import SecureStartup.Text.Code

/-!
  Reading JSON.

  Numbers without point and exponent are integers of any size, all others doubles.  JSON has no
  numbers but the finite ones; with `words` set, `NaN`, `Infinity` and `-Infinity` are read as well.
  Of two members with one name the later one wins.  The readers consume a list of characters and
  hand back the rest; `fuel` bounds the nesting plus the number of items, and the length of the text
  is always enough.

  The program writes JSON and does not read it.  This reader stands for whoever reads its lines: that a
  line says what was logged means that reading it gives the entry back (`decode?`).
-/

namespace SecureStartup.Json

open SecureStartup.Text

/-- JSON's own blanks. -/
def isSpace (c : Char) : Bool := c == ' ' || c == '\n' || c == '\r' || c == '\t'

/-- Drop JSON's blanks in front. -/
def skip (s : List Char) : List Char := s.dropWhile isSpace

/-- Whether a character is a hexadecimal digit. -/
def isHex (c : Char) : Bool :=
  isAsciiDigit c || ('a' ≤ c && c ≤ 'f') || ('A' ≤ c && c ≤ 'F')

/-- Four hexadecimal digits. -/
def unit? : List Char → Option (Nat × List Char)
  | a :: b :: c :: d :: r =>
    if [a, b, c, d].all isHex then some (natOfDigits 16 [a, b, c, d], r) else none
  | _ => none

/-- The code of two units that form a pair. -/
def pairCode? (high low : Nat) : Option Nat :=
  if 0xd800 ≤ high && high < 0xdc00 && 0xdc00 ≤ low && low < 0xe000 then
    some (0x10000 + (high - 0xd800) * 0x400 + (low - 0xdc00))
  else none

/-- The code that starts with a unit: two units may form a pair. -/
def unitCode (a : Nat) (r : List Char) : Nat × List Char :=
  let paired := match r with
    | '\\' :: 'u' :: r => (unit? r).bind fun (b, r) => (pairCode? a b).map fun n => (n, r)
    | _ => none
  paired.getD (a, r)

/-- The letter escapes. -/
def escape? (c : Char) : Option Char :=
  match c with
  | '"' => some '"'
  | '\\' => some '\\'
  | '/' => some '/'
  | 'b' => some (Char.ofNat 8)
  | 'f' => some (Char.ofNat 12)
  | 'n' => some '\n'
  | 'r' => some '\r'
  | 't' => some '\t'
  | _ => none

/-- The rest of a string after its opening quote: its characters, and what follows the closing
    quote.  Control characters have to be escaped. -/
def stringTail? : Nat → List Char → Option (List Char × List Char)
  | 0, _ => none
  | _ + 1, [] => none
  | n + 1, c :: r =>
    if c == '"' then some ([], r)
    else if c == '\\' then
      match r with
      | 'u' :: r => do
        let (a, r) ← unit? r
        let (code, r) := unitCode a r
        let (s, rest) ← stringTail? n r
        return (spell code ++ s, rest)
      | e :: r => do
        let c ← escape? e
        let (s, rest) ← stringTail? n r
        return (c :: s, rest)
      | [] => none
    else if c.toNat < 32 then none
    else do
      let (s, rest) ← stringTail? n r
      return (c :: s, rest)

/-- A run of ASCII digits and what follows. -/
def digits (s : List Char) : List Char × List Char :=
  (s.takeWhile isAsciiDigit, s.dropWhile isAsciiDigit)

/-- A fraction, when there is one. -/
def fraction? : List Char → Option (List Char) × List Char
  | '.' :: r => if (digits r).1.isEmpty then (none, '.' :: r) else (some (digits r).1, (digits r).2)
  | s => (none, s)

/-- An exponent, when there is one. -/
def exponent? : List Char → Option Int × List Char
  | c :: r =>
    if c == 'e' || c == 'E' then
      let (negative, body) := match r with
        | '-' :: b => (true, b)
        | '+' :: b => (false, b)
        | b => (false, b)
      let (ds, rest) := digits body
      if ds.isEmpty then (none, c :: r)
      else
        let n : Int := natOfDigits 10 ds
        (some (if negative then -n else n), rest)
    else (none, c :: r)
  | [] => (none, [])

/-- Whether digits begin with a zero that is not the only one. -/
def hasLeadingZero : List Char → Bool
  | '0' :: _ :: _ => true
  | _ => false

/-- The number that digits before the point, digits after it and an exponent write: whole when there
    is nothing but the first. -/
def numberOf (negative : Bool) (ds : List Char) (fs : Option (List Char)) (e : Option Int) : Value :=
  match fs, e with
  | none, none =>
    let n : Int := natOfDigits 10 ds
    .int (if negative then -n else n)
  | _, _ =>
    let fs := fs.getD []
    .float (Binary64.ofDecimal negative (natOfDigits 10 (ds ++ fs)) (e.getD 0 - fs.length))

/-- A number after its sign. -/
def number? (words negative : Bool) (s : List Char) : Option (Value × List Char) :=
  let (ds, r) := digits s
  if ds.isEmpty then
    match words, dropLead "Infinity".toList s with
    | true, some r => some (.float (.infinite negative), r)
    | _, _ => none
  else if hasLeadingZero ds then none
  else
    let (fs, r) := fraction? r
    let (e, r) := exponent? r
    some (numberOf negative ds fs e, r)

/-- The words. -/
def word? (words : Bool) (s : List Char) : Option (Value × List Char) :=
  match dropLead "null".toList s, dropLead "true".toList s, dropLead "false".toList s,
    dropLead "NaN".toList s with
  | some r, _, _, _ => some (.none, r)
  | _, some r, _, _ => some (.bool true, r)
  | _, _, some r, _ => some (.bool false, r)
  | _, _, _, some r => if words then some (.float .nan, r) else none
  | _, _, _, _ => none

mutual

/-- A value, and what follows it. -/
def value? (words : Bool) : Nat → List Char → Option (Value × List Char)
  | 0, _ => none
  | n + 1, s =>
    match s with
    | '"' :: r => do
      let (t, r) ← stringTail? (r.length + 1) r
      return (.str (String.ofList t), r)
    | '[' :: r =>
      match skip r with
      | ']' :: r => some (.list [], r)
      | r => do
        let (xs, r) ← items? words n r
        return (.list xs, r)
    | '\x7b' :: r =>
      match skip r with
      | '\x7d' :: r => some (.map [], r)
      | r => do
        let (es, r) ← members? words n r
        return (.map (Entries.ofPairs es), r)
    | '-' :: r => number? words true r
    | _ => (word? words s).orElse fun _ => number? words false s

/-- The items of an array after its bracket, up to and with the closing one. -/
def items? (words : Bool) : Nat → List Char → Option (List Value × List Char)
  | 0, _ => none
  | n + 1, s => do
    let (x, r) ← value? words n (skip s)
    match skip r with
    | ',' :: r => do
      let (xs, r) ← items? words n r
      return (x :: xs, r)
    | ']' :: r => return ([x], r)
    | _ => none

/-- The members of an object after its brace, up to and with the closing one. -/
def members? (words : Bool) : Nat → List Char → Option (List (Value × Value) × List Char)
  | 0, _ => none
  | n + 1, s =>
    match skip s with
    | '"' :: r => do
      let (k, r) ← stringTail? (r.length + 1) r
      match skip r with
      | ':' :: r => do
        let (v, r) ← value? words n (skip r)
        let e := (Value.str (String.ofList k), v)
        match skip r with
        | ',' :: r => do
          let (es, r) ← members? words n r
          return (e :: es, r)
        | '\x7d' :: r => return ([e], r)
        | _ => none
      | _ => none
    | _ => none

end

/-- **The value that a JSON text writes**; blanks around it do not count. -/
def decode? (words : Bool) (text : String) : Option Value :=
  let s := skip text.toList
  match value? words (s.length + 1) s with
  | some (v, r) => if (skip r).isEmpty then some v else none
  | none => none

/-- The value that a text with nothing but characters writes, the words included. -/
def read? (text : String) : Option Value := decode? true (spelled text)

end SecureStartup.Json
