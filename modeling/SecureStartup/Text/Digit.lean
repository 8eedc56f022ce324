/-
  Decimal digits of every script (Unicode 14).

  A number may be written with the digits of any script; each script's digits are ten consecutive
  code points that start with its zero, so a table of zeros is enough.

  The other half of this file writes numbers, in ASCII digits: as they are, or padded to a width, as
  dates, times and escapes need them.
-/

namespace SecureStartup.Text

/-- The zero of every run of ten decimal digits. -/
def digitZeros : List Nat := [
  0x30, 0x660, 0x6f0, 0x7c0, 0x966, 0x9e6, 0xa66, 0xae6,
  0xb66, 0xbe6, 0xc66, 0xce6, 0xd66, 0xde6, 0xe50, 0xed0,
  0xf20, 0x1040, 0x1090, 0x17e0, 0x1810, 0x1946, 0x19d0, 0x1a80,
  0x1a90, 0x1b50, 0x1bb0, 0x1c40, 0x1c50, 0xa620, 0xa8d0, 0xa900,
  0xa9d0, 0xa9f0, 0xaa50, 0xabf0, 0xff10, 0x104a0, 0x10d30, 0x11066,
  0x110f0, 0x11136, 0x111d0, 0x112f0, 0x11450, 0x114d0, 0x11650, 0x116c0,
  0x11730, 0x118e0, 0x11950, 0x11c50, 0x11d50, 0x11da0, 0x16a60, 0x16ac0,
  0x16b50, 0x1d7ce, 0x1d7d8, 0x1d7e2, 0x1d7ec, 0x1d7f6, 0x1e140, 0x1e2f0,
  0x1e950, 0x1fbf0]

/-- The value of a decimal digit, whatever its script. -/
def digitValue? (c : Char) : Option Nat :=
  (digitZeros.find? fun z => z ≤ c.toNat && c.toNat < z + 10).map (c.toNat - ·)

/-- A digit's value is below ten. -/
theorem digitValue?_lt {c : Char} {d : Nat} (h : digitValue? c = some d) : d < 10 := by
  unfold digitValue? at h
  obtain ⟨z, hz, rfl⟩ := Option.map_eq_some_iff.1 h
  have := List.find?_some hz
  simp only [Bool.and_eq_true, decide_eq_true_eq] at this
  omega

/-- ASCII digits only. -/
def isAsciiDigit (c : Char) : Bool := '0' ≤ c && c ≤ '9'

/-- The number that ASCII digits write in a base, most significant digit first; letters count from
    ten on.  Characters that are no digit of any base count as zero, so callers test them first. -/
def natOfDigits (base : Nat) (s : List Char) : Nat :=
  s.foldl (fun acc c => acc * base + asciiValue c) 0
where
  /-- The value of one ASCII digit or letter. -/
  asciiValue (c : Char) : Nat :=
    if '0' ≤ c && c ≤ '9' then c.toNat - 48
    else if 'a' ≤ c && c ≤ 'z' then c.toNat - 87
    else if 'A' ≤ c && c ≤ 'Z' then c.toNat - 55
    else 0

/-- The digits of a number in a base up to sixteen, most significant first, at least one. -/
def digitsOfNat (base n : Nat) : List Char := Nat.toDigits base n

/-- Exactly `width` decimal digits of a number, with zeros in front (and more when it is larger). -/
def padded (width n : Nat) : List Char :=
  let ds := digitsOfNat 10 n
  List.replicate (width - ds.length) '0' ++ ds

/-- Exactly `width` hexadecimal digits. -/
def paddedHex (width n : Nat) : List Char :=
  let ds := digitsOfNat 16 n
  List.replicate (width - ds.length) '0' ++ ds

end SecureStartup.Text
