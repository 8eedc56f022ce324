/-
  Blank characters: what may stand around a value without belonging to it.

  A setting is read off a file that people write by hand, so the text around it is trimmed before it
  is looked at: the cluster's authentication method (`is_cluster_secure`), the numbers in log fields, and
  what the lister of a credential cache prints.  "Blank" is Unicode's white space (25 code points)
  together with the four information separators U+001C..U+001F: 29 characters, no more.  A zero-width
  space, a byte-order mark and the Mongolian vowel separator are NOT blank.

  Trimming drops blanks at the ends and nothing else.
-/

namespace SecureStartup.Text

/-! ## The class -/

/-- `isBlank c` — `c` is Unicode white space or one of the separators U+001C..U+001F. -/
def isBlank (c : Char) : Bool :=
  let n := c.toNat
  (9 ≤ n && n ≤ 13) || (28 ≤ n && n ≤ 32) || n == 0x85 || n == 0xa0 || n == 0x1680
    || (0x2000 ≤ n && n ≤ 0x200a) || n == 0x2028 || n == 0x2029 || n == 0x202f
    || n == 0x205f || n == 0x3000

/-! ## Trimming -/

/-- Drop the blanks in front. -/
def trimStart (s : List Char) : List Char := s.dropWhile isBlank

/-- Drop the blanks at the end. -/
def trimEnd (s : List Char) : List Char := (s.reverse.dropWhile isBlank).reverse

/-- Drop the blanks on both sides. -/
def trim (s : List Char) : List Char := trimEnd (trimStart s)

end SecureStartup.Text
