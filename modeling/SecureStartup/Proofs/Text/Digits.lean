import Mathlib.Algebra.Ring.Nat
import Mathlib.Data.List.Basic
import SecureStartup.Text.Digit

/-!
  Numbers and the digits that write them.

  The digits of a number write that number, in base ten (`natOfDigits_toDigits`) and in base sixteen
  (`toDigits_hex`).  Zeros in front of digits do not count, whatever the base; behind them they count
  ten each.  Exponents are written with zeros in front (`1e-05`), units with four digits, and the decimals
  of large doubles with zeros behind.
-/

namespace SecureStartup.Text

/-- Zeros in front do not count. -/
theorem natOfDigits_zeros (base k : Nat) (ds : List Char) :
    natOfDigits base (List.replicate k '0' ++ ds) = natOfDigits base ds := by
  have hzeros : natOfDigits base (List.replicate k '0') = 0 := by
    induction k with
    | zero => rfl
    | succ k ih =>
      rw [List.replicate_succ, ← ih]
      show (List.replicate k '0').foldl _ (0 * base + 0) = _
      rw [Nat.zero_mul]
      rfl
  unfold natOfDigits at hzeros ⊢
  rw [List.foldl_append, hzeros]

/-! ## Base ten -/

/-- A run of ASCII digits, not empty. -/
structure IsDigits (ds : List Char) : Prop where
  ne_nil : ds ≠ []
  digits : ∀ c ∈ ds, isAsciiDigit c = true

theorem toDigits_isDigits (n : Nat) : IsDigits (Nat.toDigits 10 n) := by
  constructor
  · exact List.ne_nil_of_length_pos Nat.length_toDigits_pos
  · intro c hc
    exact Nat.isDigit_of_mem_toDigits (by decide) (by decide) hc

theorem IsDigits.append {ds es : List Char} (hd : IsDigits ds) (he : ∀ c ∈ es, isAsciiDigit c = true) :
    IsDigits (ds ++ es) := by
  constructor
  · exact List.append_ne_nil_of_left_ne_nil hd.ne_nil es
  · intro c hc
    rcases List.mem_append.mp hc with h | h
    · exact hd.digits c h
    · exact he c h

/-- The number that digits write. -/
theorem natOfDigits_eq_ofDigitChars {ds : List Char} (hd : ∀ c ∈ ds, isAsciiDigit c = true) :
    natOfDigits 10 ds = Nat.ofDigitChars 10 ds 0 := by
  unfold natOfDigits
  rw [Nat.ofDigitChars_eq_foldl]
  refine List.foldl_ext _ _ 0 fun acc c hc => ?_
  have hvalue : natOfDigits.asciiValue c = c.toNat - 48 := if_pos (hd c hc)
  rw [hvalue, Nat.mul_comm]
  rfl

theorem natOfDigits_toDigits (n : Nat) : natOfDigits 10 (Nat.toDigits 10 n) = n := by
  rw [natOfDigits_eq_ofDigitChars (toDigits_isDigits n).digits, Nat.ofDigitChars_ten_toDigits]

theorem isAsciiDigit_of_mem_zeros {k : Nat} {c : Char} (h : c ∈ List.replicate k '0') :
    isAsciiDigit c = true := by
  rw [(List.mem_replicate.mp h).2]
  rfl

/-- Zeros behind count ten each. -/
theorem natOfDigits_append_zeros (k : Nat) {ds : List Char} (hd : ∀ c ∈ ds, isAsciiDigit c = true) :
    natOfDigits 10 (ds ++ List.replicate k '0') = natOfDigits 10 ds * 10 ^ k := by
  have hall : ∀ c ∈ ds ++ List.replicate k '0', isAsciiDigit c = true := by
    intro c hc
    exact (List.mem_append.mp hc).elim (hd c) isAsciiDigit_of_mem_zeros
  rw [natOfDigits_eq_ofDigitChars hall, natOfDigits_eq_ofDigitChars hd, Nat.ofDigitChars_append,
    Nat.ofDigitChars_replicate_zero, Nat.mul_comm]

/-! ## Base sixteen -/

/-- A digit of base sixteen as it is written: a decimal digit, or a small letter. -/
def IsHexDigit (c : Char) : Prop := isAsciiDigit c = true ∨ 'a' ≤ c ∧ c ≤ 'f'

instance (c : Char) : Decidable (IsHexDigit c) :=
  inferInstanceAs (Decidable (isAsciiDigit c = true ∨ 'a' ≤ c ∧ c ≤ 'f'))

theorem digitChar_hex : ∀ d < 16,
    IsHexDigit (Nat.digitChar d) ∧ natOfDigits.asciiValue (Nat.digitChar d) = d := by
  decide

/-- **The hexadecimal digits of a number** write it.  By induction, from the last digit on. -/
theorem toDigits_hex (n : Nat) :
    (∀ c ∈ Nat.toDigits 16 n, IsHexDigit c) ∧ natOfDigits 16 (Nat.toDigits 16 n) = n := by
  induction n using Nat.strongRecOn with
  | ind n ih =>
    rcases Nat.lt_or_ge n 16 with hlt | hge
    · obtain ⟨hdigit, hvalue⟩ := digitChar_hex n hlt
      rw [Nat.toDigits_of_lt_base hlt]
      refine ⟨List.forall_mem_singleton.mpr hdigit, ?_⟩
      show 0 * 16 + natOfDigits.asciiValue (Nat.digitChar n) = n
      rw [hvalue, Nat.zero_mul, Nat.zero_add]
    · obtain ⟨hdigits, hfront⟩ := ih (n / 16) (by omega)
      obtain ⟨hdigit, hvalue⟩ := digitChar_hex (n % 16) (Nat.mod_lt n (by decide))
      rw [Nat.toDigits_of_base_le (by decide) hge]
      refine ⟨fun c hc => ?_, ?_⟩
      · rcases List.mem_append.mp hc with hc | hc
        · exact hdigits c hc
        · rw [List.mem_singleton.mp hc]
          exact hdigit
      · have hsplit : natOfDigits 16 (Nat.toDigits 16 (n / 16) ++ [(n % 16).digitChar]) =
            natOfDigits 16 (Nat.toDigits 16 (n / 16)) * 16 +
              natOfDigits.asciiValue (n % 16).digitChar := List.foldl_concat ..
        rw [hsplit, hfront, hvalue]
        omega

/-- **Four digits** are enough for a number of sixteen bits. -/
theorem paddedHex_four {n : Nat} (hn : n < 0x10000) :
    ∃ a b c d, paddedHex 4 n = [a, b, c, d] ∧ natOfDigits 16 [a, b, c, d] = n ∧
      ∀ x ∈ [a, b, c, d], IsHexDigit x := by
  obtain ⟨hdigits, hvalue⟩ := toDigits_hex n
  have hfew : (Nat.toDigits 16 n).length ≤ 4 :=
    (Nat.length_toDigits_le_iff (by decide) (by decide)).mpr hn
  have hlen : (paddedHex 4 n).length = 4 := by
    unfold paddedHex digitsOfNat
    rw [List.length_append, List.length_replicate]
    omega
  obtain ⟨a, b, c, d, hfour⟩ : ∃ a b c d, paddedHex 4 n = [a, b, c, d] := by
    match paddedHex 4 n, hlen with
    | [a, b, c, d], _ => exact ⟨a, b, c, d, rfl⟩
  refine ⟨a, b, c, d, hfour, ?_, ?_⟩
  · rw [← hfour]
    unfold paddedHex digitsOfNat
    rw [natOfDigits_zeros, hvalue]
  · intro x hx
    rw [← hfour] at hx
    rcases List.mem_append.mp hx with hzero | hdigit
    · exact .inl (isAsciiDigit_of_mem_zeros hzero)
    · exact hdigits x hdigit

end SecureStartup.Text
