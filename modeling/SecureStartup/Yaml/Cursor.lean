import SecureStartup.Text.Split
import SecureStartup.Text.Digit

/-!
  A place in a YAML text.

  The layout of a YAML document carries its structure, so a place knows its line and column besides
  the text that is left.  Line breaks are the line feed, the carriage return (alone or before a line
  feed), the next-line character and the two Unicode separators; a byte-order mark has no width.

  All that is read of a document is read by moving such a place forward.  Characters are counted as the
  text has them, and indentation is compared by columns.
-/

namespace SecureStartup.Yaml

open SecureStartup.Text

/-- A place in a text: what is left, and where it starts. -/
structure Cursor where
  rest : List Char
  /-- How many characters are left; this bounds every loop over them. -/
  left : Nat
  left_eq : left = rest.length
  line : Nat := 0
  column : Nat := 0

instance : Inhabited Cursor := ⟨[], 0, rfl, 0, 0⟩

/-- The character that stands for the end of the text. -/
def endMark : Char := Char.ofNat 0

/-- A character that ends a line. -/
def isBreak (c : Char) : Bool :=
  c == '\n' || c == '\r' || c.toNat == 0x85 || c.toNat == 0x2028 || c.toNat == 0x2029

/-- A line break or the end of the text. -/
def isBreakOrEnd (c : Char) : Bool := isBreak c || c == endMark

/-- A space, a line break or the end. -/
def isSpaceOrEnd (c : Char) : Bool := c == ' ' || isBreakOrEnd c

/-- A space, a tab, a line break or the end. -/
def isGap (c : Char) : Bool := c == '\t' || isSpaceOrEnd c

/-- Letters, digits, dash and underscore of ASCII. -/
def isWordChar (c : Char) : Bool :=
  isAsciiDigit c || ('a' ≤ c && c ≤ 'z') || ('A' ≤ c && c ≤ 'Z') || c == '-' || c == '_'

namespace Cursor

/-- The character `n` places ahead, or the end mark. -/
def peekAt (c : Cursor) (n : Nat) : Char := (c.rest[n]?).getD endMark

/-- The next character, or the end mark. -/
def peek (c : Cursor) : Char := c.peekAt 0

/-- The beginning of a text. -/
def ofList (cs : List Char) : Cursor := ⟨cs, cs.length, rfl, 0, 0⟩

/-- Go past one character. -/
def next (c : Cursor) : Cursor :=
  match h : c.rest with
  | [] => c
  | a :: r =>
    have hr : c.left - 1 = r.length := by simp [c.left_eq, h]
    if a == '\n' || a.toNat == 0x85 || a.toNat == 0x2028 || a.toNat == 0x2029
        || (a == '\r' && r.head? != some '\n') then
      ⟨r, c.left - 1, hr, c.line + 1, 0⟩
    else if a.toNat == 0xfeff then ⟨r, c.left - 1, hr, c.line, c.column⟩
    else ⟨r, c.left - 1, hr, c.line, c.column + 1⟩

/-- Go past several characters. -/
def skip (c : Cursor) : Nat → Cursor
  | 0 => c
  | n + 1 => c.next.skip n

/-- The longest run of characters with a property, and the place after it. -/
def span (c : Cursor) (p : Char → Bool) : List Char × Cursor :=
  let run := c.rest.takeWhile p
  (run, c.skip run.length)

/-- Go past the characters with a property. -/
def skipWhile (c : Cursor) (p : Char → Bool) : Cursor := (c.span p).2

/-- Go past a line break, if one is next: the break in its normal form, and the place after it. -/
def lineBreak (c : Cursor) : List Char × Cursor :=
  match c.rest with
  | '\r' :: '\n' :: _ => (['\n'], c.skip 2)
  | a :: _ =>
    if a == '\r' || a == '\n' || a.toNat == 0x85 then (['\n'], c.next)
    else if a.toNat == 0x2028 || a.toNat == 0x2029 then ([a], c.next)
    else ([], c)
  | [] => ([], c)

/-- Go past a comment, if one is next. -/
def skipComment (c : Cursor) : Cursor :=
  if c.peek == '#' then c.skipWhile (fun a => !isBreakOrEnd a) else c

/-- Whether three equal characters and a gap are next, as at the marks around documents. -/
def atMark (c : Cursor) (a : Char) : Bool :=
  c.peek == a && c.peekAt 1 == a && c.peekAt 2 == a && isGap (c.peekAt 3)

/-- Whether the line starts with a mark around documents. -/
def atDocumentMark (c : Cursor) : Bool := c.atMark '-' || c.atMark '.'

end Cursor

end SecureStartup.Yaml
