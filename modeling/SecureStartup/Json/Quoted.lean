import SecureStartup.Text.Digit
import SecureStartup.Text.Code

/-!
  JSON strings.

  Quote, backslash and the control characters below U+0020 are escaped, by letter where there is one
  and else by code.  With `ascii` set, every character outside the printable ASCII range is written
  by its UTF-16 code units.

  So a string never holds a line break of its own, which is why a line of the log is one line, whatever
  is logged.
-/

namespace SecureStartup.Json

open SecureStartup.Text

/-- A UTF-16 code unit. -/
def unitText (n : Nat) : List Char := '\\' :: 'u' :: paddedHex 4 n

/-- A code by its UTF-16 code units. -/
def codeText (n : Nat) : List Char :=
  if n < 0x10000 then unitText n
  else unitText (0xd800 + (n - 0x10000) / 0x400) ++ unitText (0xdc00 + (n - 0x10000) % 0x400)

/-- One character of a string. -/
def charText (ascii : Bool) (c : Char) : List Char :=
  if c == '"' || c == '\\' then ['\\', c]
  else if c == '\n' then ['\\', 'n']
  else if c == '\r' then ['\\', 'r']
  else if c == '\t' then ['\\', 't']
  else if c.toNat == 12 then ['\\', 'f']
  else if c.toNat == 8 then ['\\', 'b']
  else if c.toNat < 32 || (ascii && 126 < c.toNat) then codeText c.toNat
  else [c]

/-- One code of a string. -/
def letterText (ascii : Bool) (n : Nat) : List Char :=
  match spell n with
  | [c] => charText ascii c
  | cs => if ascii then codeText n else cs

/-- A string with its quotes. -/
def quote (ascii : Bool) (s : List Char) : List Char :=
  '"' :: (codes s).flatMap (letterText ascii) ++ ['"']

end SecureStartup.Json
