import SecureStartup.Text.Printable
import SecureStartup.Text.Code
import SecureStartup.Text.Digit

/-!
  Quoted texts, as they appear inside messages and inside the text of lists and mappings.

  The quote is `'`, or `"` when the text holds a `'` and no `"`.  The quote itself and the backslash
  are written with a backslash in front, tab, line feed and carriage return by their letters, and
  every other unprintable character by its code in two, four or eight hexadecimal digits.
-/

namespace SecureStartup.Text

/-- The quote that a text is written with. -/
def quoteFor (s : List Char) : Char :=
  if s.contains '\'' && !s.contains '"' then '"' else '\''

/-- A code in hexadecimal digits. -/
def escapedCode (n : Nat) : List Char :=
  if n < 0x100 then ['\\', 'x'] ++ paddedHex 2 n
  else if n < 0x10000 then ['\\', 'u'] ++ paddedHex 4 n
  else ['\\', 'U'] ++ paddedHex 8 n

/-- One code of a quoted text. -/
def quotedLetter (quote : Char) (n : Nat) : List Char :=
  match spell n with
  | [c] =>
    if c == quote || c == '\\' then ['\\', c]
    else if c == '\t' then ['\\', 't']
    else if c == '\n' then ['\\', 'n']
    else if c == '\r' then ['\\', 'r']
    else if isPrintable c then [c]
    else escapedCode n
  | _ => escapedCode n

/-- The quoted form of a text. -/
def quoted (s : String) : String :=
  let cs := s.toList
  let q := quoteFor cs
  String.ofList (q :: (codes cs).flatMap (quotedLetter q) ++ [q])

/-- One byte of a quoted byte string: ASCII that can be shown is, the rest by its code. -/
def quotedByte (quote : Char) (b : UInt8) : List Char :=
  let c := Char.ofNat b.toNat
  if c == quote || c == '\\' then ['\\', c]
  else if c == '\t' then ['\\', 't']
  else if c == '\n' then ['\\', 'n']
  else if c == '\r' then ['\\', 'r']
  else if 32 ≤ b.toNat && b.toNat < 127 then [c]
  else ['\\', 'x'] ++ paddedHex 2 b.toNat

/-- The quoted form of a byte string, with `b` in front. -/
def quotedBytes (bs : List UInt8) : String :=
  let q := quoteFor (bs.map fun b => Char.ofNat b.toNat)
  String.ofList ('b' :: q :: bs.flatMap (quotedByte q) ++ [q])

end SecureStartup.Text
