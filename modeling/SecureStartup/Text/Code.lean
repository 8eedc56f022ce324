/-
  The codes of a text.

  A text is a sequence of codes.  Nearly all of them are characters, but an escape such as `\ud800` can
  put half of a surrogate pair into a text, and no character has that code.  Such a half is SPELLED by
  two characters: the mark U+FFFF, which Unicode reserves for use inside programs, and the character
  `0x100000` above the half.  The mark, where a text has it, is spelled in the same way, so different
  sequences of codes have different spellings (`codes_flatMap_spell`).  Every other code is spelled by
  itself.

  Whatever counts or cuts a text does so by codes (`letterCount`, `takeLetters`), and so does whatever
  writes one.  Where a text has to become bytes, as a path for the system or as the name of a variable,
  the halves of one range stand for single bytes (`isByteHalf`), and those of no other range can be
  written at all (`firstLostHalves?`).
-/

namespace SecureStartup.Text

/-- The character that stands in front of a code without a character of its own. -/
def mark : Char := Char.ofNat 0xffff

/-- Whether a number is the code of half of a surrogate pair. -/
def isHalf (n : Nat) : Bool := 0xd800 ≤ n && n < 0xe000

/-- How far the character after the mark lies above the code that it spells. -/
def standInOffset : Nat := 0x100000

/-- The characters of a code. -/
def spell (n : Nat) : List Char :=
  if isHalf n || n == 0xffff then [mark, Char.ofNat (n + standInOffset)] else [Char.ofNat n]

/-- The characters of a code; none beyond the last code. -/
def spell? (n : Nat) : Option (List Char) := if n < 0x110000 then some (spell n) else none

/-- A text as it is spelled here, from one that has nothing but characters. -/
def spelled (s : String) : String := String.ofList (s.toList.flatMap fun c => spell c.toNat)

/-- The codes that characters spell. -/
def codes : List Char → List Nat
  | [] => []
  | [c] => [c.toNat]
  | c :: d :: r => if c = mark then (d.toNat - standInOffset) :: codes r else c.toNat :: codes (d :: r)

/-- A text with nothing but characters; U+FFFD stands where there are halves. -/
def plainText (s : String) : String :=
  String.ofList ((codes s.toList).map fun n => Char.ofNat (if isHalf n then 0xfffd else n))

/-- The characters of a text, code by code. -/
def letters (s : List Char) : List (List Char) := (codes s).map spell

/-- How many codes a text has: the mark is never the whole of one. -/
def letterCount (s : List Char) : Nat := s.countP (· != mark)

/-- The text of the first `n` codes. -/
def takeLetters (n : Nat) (s : List Char) : List Char := ((letters s).take n).flatten

/-- Whether a code is a half by which a byte is written that is no part of a character. -/
def isByteHalf (n : Nat) : Bool := 0xdc80 ≤ n && n ≤ 0xdcff

/-- The first halves in a row that no bytes can be written for, and how many codes are before them. -/
def firstLostHalves? (s : List Char) : Option (Nat × List Nat) :=
  (((codes s).findIdx? fun n => isHalf n && !isByteHalf n)).map fun k =>
    (k, ((codes s).drop k).takeWhile isHalf)

/-- The order of texts by their codes. -/
def lexLE (s t : List Char) : Bool := go (codes s) (codes t)
where
  /-- The order of codes, one after the other. -/
  go : List Nat → List Nat → Bool
    | [], _ => true
    | _ :: _, [] => false
    | a :: s, b :: t => if a == b then go s t else a < b

/-- A code outside the surrogate range is that of its character. -/
theorem toNat_ofNat {n : Nat} (h : n.isValidChar) : (Char.ofNat n).toNat = n := by
  unfold Char.ofNat
  rw [dif_pos h]
  rfl

/-- A character that is not the mark spells its own code, whatever follows. -/
theorem codes_cons {c : Char} (h : c ≠ mark) (r : List Char) : codes (c :: r) = c.toNat :: codes r := by
  cases r <;> simp [codes, h]

/-- The characters that spell a code are read as that code, whatever follows. -/
theorem codes_spell_append {n : Nat} (h : n < 0x110000) (r : List Char) :
    codes (spell n ++ r) = n :: codes r := by
  unfold spell
  split
  case isTrue hs =>
    have hv : (n + standInOffset).isValidChar := by
      simp only [isHalf, Bool.or_eq_true, Bool.and_eq_true, decide_eq_true_eq, beq_iff_eq] at hs
      unfold Nat.isValidChar standInOffset
      omega
    have hc : (Char.ofNat (n + standInOffset)).toNat - standInOffset = n := by
      rw [toNat_ofNat hv, Nat.add_sub_cancel]
    rw [List.cons_append, List.cons_append, List.nil_append, codes, if_pos rfl, hc]
  case isFalse hs =>
    have hv : n.isValidChar := by
      simp only [isHalf, Bool.or_eq_true, Bool.and_eq_true, decide_eq_true_eq, beq_iff_eq] at hs
      unfold Nat.isValidChar
      omega
    have hm : Char.ofNat n ≠ mark := by
      intro e
      have : n = 0xffff := by
        rw [← toNat_ofNat hv, e]
        exact toNat_ofNat (by unfold Nat.isValidChar; omega)
      exact hs (by rw [this]; rfl)
    rw [List.cons_append, List.nil_append, codes_cons hm, toNat_ofNat hv]

/-- **Every sequence of codes is read back from its spelling**, so no two have the same one. -/
theorem codes_flatMap_spell (ns : List Nat) (h : ∀ n ∈ ns, n < 0x110000) :
    codes (ns.flatMap spell) = ns := by
  induction ns with
  | nil => rfl
  | cons n ns ih =>
    rw [List.flatMap_cons, codes_spell_append (h n List.mem_cons_self),
      ih fun m hm => h m (List.mem_cons_of_mem n hm)]

end SecureStartup.Text
