import Mathlib.Algebra.Order.Field.Basic
import Mathlib.Algebra.Order.Field.Power
import Mathlib.Algebra.Order.Ring.Rat
import Mathlib.Tactic.FieldSimp
import Mathlib.Tactic.Linarith
import Mathlib.Tactic.NormNum
import Mathlib.Tactic.Positivity
import Mathlib.Tactic.Ring
import SecureStartup.Number.Binary64

/-!
  Rounding to the nearest double.

  A positive ratio `q` is rounded in three steps, each of which is right because it is the only one
  that could be:

  1. The exponent is the one whose unit leaves 53 bits in front of the point, or the least one
     (`Fits`, `Fits.unique`).
  2. In these units the ratio is rounded to a whole number, of two equally near ones to the even one
     (`Rounds`, `Rounds.unique`).
  3. If that is a number of 54 bits, the exponent is one larger (`assembled`).

  `ofRatio_eq` puts them together.  What follows from it is stated about doubles:

  * `ofRatio_canonical` — the mantissa has the bits it should have;
  * `ofRatio_of_within` — a ratio in the interval around a double is rounded to it;
  * `ofInt?_eq_none_iff` — from where on whole numbers are beyond all doubles.

  The first is what lets doubles be compared by their fields; the second is all that reading a double back
  needs to know about rounding; and the third is when `float(n)` fails for a whole number.
-/

namespace SecureStartup.Binary64

/-! ## Doubles -/

/-- **The doubles**: a mantissa has at most 53 bits, and fewer only with the least exponent. -/
structure IsDouble (m : Nat) (e : Int) : Prop where
  bits : m < 2 ^ 53
  least : minExponent ≤ e
  most : e ≤ maxExponent
  full : 2 ^ 52 ≤ m ∨ e = minExponent

/-- A number is written with the mantissa and exponent of a double. -/
def IsCanonical : Binary64 → Prop
  | finite _ m e => IsDouble m e
  | _ => True

/-- Neither infinite nor not-a-number. -/
def IsFinite : Binary64 → Prop
  | finite _ _ _ => True
  | _ => False

theorem isDouble_zero : IsDouble 0 minExponent := ⟨by decide, by decide, by decide, .inr rfl⟩

theorem zero_canonical (negative : Bool) : (zero negative).IsCanonical := isDouble_zero

/-! ## Units -/

theorem two_zpow_pos (e : Int) : (0 : ℚ) < 2 ^ e := zpow_pos (by norm_num) e

theorem two_zpow_succ (e : Int) : (2 : ℚ) ^ (e + 1) = 2 * 2 ^ e := by
  rw [zpow_add_one₀ (by norm_num), mul_comm]

theorem inUnits_pos (num : Nat) {den : Nat} (hden : 0 < den) (e : Int) : 0 < (inUnits num den e).2 := by
  unfold inUnits
  split
  · exact Nat.mul_pos hden (Nat.pow_pos (by decide))
  · exact hden

/-- A ratio in other units. -/
theorem inUnits_eq (num : Nat) {den : Nat} (hden : 0 < den) (e : Int) :
    ((inUnits num den e).1 : ℚ) / (inUnits num den e).2 = num / den / 2 ^ e := by
  have hden' : (den : ℚ) ≠ 0 := by positivity
  unfold inUnits
  rcases lt_or_ge e 0 with he | he
  · obtain ⟨k, rfl⟩ : ∃ k : Nat, e = -(k : Int) := ⟨(-e).toNat, by omega⟩
    rw [if_neg (by omega), neg_neg]
    show ((num * 2 ^ k : Nat) : ℚ) / den = num / den / 2 ^ (-(k : Int))
    push_cast
    rw [zpow_neg, zpow_natCast]
    field_simp
  · obtain ⟨k, rfl⟩ := Int.eq_ofNat_of_zero_le he
    rw [if_pos he]
    show (num : ℚ) / ((den * 2 ^ k : Nat) : ℚ) = num / den / 2 ^ (k : Int)
    push_cast
    rw [zpow_natCast, div_div]

/-! ## Whole numbers -/

/-- **A ratio is rounded to a whole number**: to the nearest, and of two to the even one. -/
structure Rounds (q : ℚ) (k : Nat) : Prop where
  above : (k : ℚ) - 1 / 2 ≤ q
  below : q ≤ k + 1 / 2
  even : q = k - 1 / 2 ∨ q = k + 1 / 2 → k % 2 = 0

/-- There is one nearest whole number. -/
theorem Rounds.unique {q : ℚ} {k k' : Nat} (h : Rounds q k) (h' : Rounds q k') : k = k' := by
  -- two of them could only be neighbours, with the ratio halfway, and one of them is odd
  have hno : ∀ {a b : Nat}, Rounds q a → Rounds q b → ¬ a < b := by
    intro a b ha hb hlt
    have hle : (a : ℚ) + 1 ≤ b := by exact_mod_cast hlt
    have h1 := ha.below
    have h2 := hb.above
    have hqa : q = a + 1 / 2 := by linarith
    have hqb : q = b - 1 / 2 := by linarith
    have hnext : (b : ℚ) = ((a + 1 : Nat) : ℚ) := by
      push_cast
      linarith
    have hnext' : b = a + 1 := by exact_mod_cast hnext
    have heven := ha.even (.inr hqa)
    have heven' := hb.even (.inl hqb)
    omega
  exact Nat.le_antisymm (Nat.not_lt.mp (hno h' h)) (Nat.not_lt.mp (hno h h'))

theorem roundRatio_rounds (n : Nat) {m : Nat} (hm : 0 < m) : Rounds ((n : ℚ) / m) (roundRatio n m) := by
  have hm' : (0 : ℚ) < m := by exact_mod_cast hm
  -- the whole part, and what is left over
  have hsplit : (n : ℚ) / m = (n / m : Nat) + ((n % m : Nat) : ℚ) / m := by
    have hn : (n : ℚ) = m * (n / m : Nat) + (n % m : Nat) := by exact_mod_cast (Nat.div_add_mod n m).symm
    rw [div_eq_iff hm'.ne', add_mul, div_mul_cancel₀ _ hm'.ne', mul_comm]
    exact hn
  have hlt : ((n % m : Nat) : ℚ) / m < 1 := by
    rw [div_lt_one hm']
    exact_mod_cast Nat.mod_lt n hm
  have hge : 0 ≤ ((n % m : Nat) : ℚ) / m := by positivity
  have hhalf : (m < 2 * (n % m) ↔ 1 / 2 < ((n % m : Nat) : ℚ) / m) ∧
      (2 * (n % m) = m ↔ ((n % m : Nat) : ℚ) / m = 1 / 2) := by
    constructor
    · rw [div_lt_div_iff₀ (by norm_num) hm', one_mul, mul_comm]
      exact_mod_cast Iff.rfl
    · rw [div_eq_div_iff hm'.ne' (by norm_num), one_mul, mul_comm]
      exact_mod_cast Iff.rfl
  unfold roundRatio
  generalize hq : n / m = w at *
  generalize ((n % m : Nat) : ℚ) / m = r at *
  have hup : (decide (m < 2 * (n % m)) || (2 * (n % m) == m && w % 2 == 1)) = true ↔
      1 / 2 < r ∨ (r = 1 / 2 ∧ w % 2 = 1) := by
    rw [← hhalf.1, ← hhalf.2]
    simp
  rw [hsplit]
  by_cases h : 1 / 2 < r ∨ (r = 1 / 2 ∧ w % 2 = 1)
  · rw [if_pos (hup.mpr h)]
    have hr : 1 / 2 ≤ r := h.elim le_of_lt fun h => h.1.ge
    constructor
    · push_cast
      linarith
    · push_cast
      linarith
    · push_cast
      rintro (he | he)
      · rcases h with hr' | ⟨-, hodd⟩
        · linarith
        · omega
      · linarith
  · rw [if_neg fun hc => h (hup.mp hc)]
    obtain ⟨hr, htie⟩ := not_or.mp h
    constructor
    · linarith
    · linarith
    · rintro (he | he)
      · linarith
      · have hr' : r = 1 / 2 := by linarith
        have hodd : w % 2 ≠ 1 := fun hodd => htie ⟨hr', hodd⟩
        omega

/-! ## The exponent -/

/-- **The exponent of a positive ratio**: in its units the ratio has 53 bits in front of the point, or
    fewer, and then it is the least one. -/
structure Fits (q : ℚ) (e : Int) : Prop where
  least : minExponent ≤ e
  below : q / 2 ^ e < 2 ^ 53
  above : 2 ^ 52 ≤ q / 2 ^ e ∨ e = minExponent

/-- There is one exponent. -/
theorem Fits.unique {q : ℚ} {e e' : Int} (h : Fits q e) (h' : Fits q e') : e = e' := by
  have hno : ∀ {a b : Int}, Fits q a → Fits q b → ¬ a < b := by
    intro a b ha hb hlt
    have habove : 2 ^ 52 ≤ q / 2 ^ b := hb.above.resolve_right fun h => by
      have := ha.least
      omega
    have hpow : (2 : ℚ) ^ (a + 1) ≤ 2 ^ b := zpow_le_zpow_right₀ (by norm_num) hlt
    have hlow := (le_div_iff₀ (two_zpow_pos b)).mp habove
    have hhigh := (div_lt_iff₀ (two_zpow_pos a)).mp ha.below
    rw [two_zpow_succ] at hpow
    linarith
  have hle := Int.not_lt.mp (hno h h')
  have hge := Int.not_lt.mp (hno h' h)
  omega

/-- A positive whole number between powers of two. -/
theorem log2_bounds {n : Nat} (hn : 0 < n) :
    (2 : ℚ) ^ (n.log2 : Int) ≤ n ∧ (n : ℚ) < 2 * 2 ^ (n.log2 : Int) := by
  rw [zpow_natCast]
  constructor
  · exact_mod_cast Nat.log2_self_le hn.ne'
  · have h := Nat.lt_log2_self (n := n)
    rw [Nat.pow_succ] at h
    have h' : n < 2 * 2 ^ n.log2 := by omega
    exact_mod_cast h'

/-- A positive ratio between powers of two. -/
theorem ratio_bounds {num den : Nat} (hnum : 0 < num) (hden : 0 < den) :
    (2 : ℚ) ^ ((num.log2 : Int) - den.log2) / 2 ≤ (num : ℚ) / den ∧
      (num : ℚ) / den < 2 * 2 ^ ((num.log2 : Int) - den.log2) := by
  have hden' : (0 : ℚ) < den := by exact_mod_cast hden
  obtain ⟨hn, hn'⟩ := log2_bounds hnum
  obtain ⟨hd, hd'⟩ := log2_bounds hden
  have hpow : (2 : ℚ) ^ (num.log2 : Int) =
      2 ^ ((num.log2 : Int) - den.log2) * 2 ^ (den.log2 : Int) := by
    rw [← zpow_add₀ (by norm_num)]
    congr 1
    omega
  have hp := two_zpow_pos ((num.log2 : Int) - den.log2)
  generalize (2 : ℚ) ^ ((num.log2 : Int) - den.log2) = p at *
  constructor
  · rw [le_div_iff₀ hden']
    nlinarith
  · rw [div_lt_iff₀ hden']
    nlinarith

/-- The whole part of a ratio is below a whole number when the ratio is. -/
theorem div_lt_iff_ratio_lt {a b k : Nat} (hb : 0 < b) : a / b < k ↔ (a : ℚ) / b < k := by
  have hb' : (0 : ℚ) < b := by exact_mod_cast hb
  rw [Nat.div_lt_iff_lt_mul hb, div_lt_iff₀ hb']
  exact_mod_cast Iff.rfl

/-- An exponent with 53 bits in front of the point, or the least one if that is larger. -/
theorem fits_max {q : ℚ} (hq : 0 ≤ q) {e : Int} (hbelow : q / 2 ^ e < 2 ^ 53)
    (habove : 2 ^ 52 ≤ q / 2 ^ e) : Fits q (max e minExponent) := by
  rcases Int.le_total minExponent e with he | he
  · rw [max_eq_left he]
    exact ⟨he, hbelow, .inl habove⟩
  · rw [max_eq_right he]
    refine ⟨le_refl _, lt_of_le_of_lt ?_ hbelow, .inr rfl⟩
    exact div_le_div_of_nonneg_left hq (two_zpow_pos e) (zpow_le_zpow_right₀ (by norm_num) he)

/-- **The exponent that is found** is the right one: there are two candidates, and the number of bits
    in the units of one of them decides. -/
theorem fittingExponent_fits {num den : Nat} (hnum : 0 < num) (hden : 0 < den) :
    Fits ((num : ℚ) / den) (fittingExponent num den) := by
  have hq : (0 : ℚ) ≤ (num : ℚ) / den := by positivity
  obtain ⟨hlow, hhigh⟩ := ratio_bounds hnum hden
  unfold fittingExponent
  simp only
  have hunits := inUnits_eq num hden ((num.log2 : Int) - den.log2 - 52)
  have hpos := inUnits_pos num hden ((num.log2 : Int) - den.log2 - 52)
  generalize (num.log2 : Int) - den.log2 = d at *
  generalize inUnits num den (d - 52) = units at *
  generalize (num : ℚ) / den = q at *
  have hp := two_zpow_pos d
  have h52 : (2 : ℚ) ^ (d - 52) = 2 ^ d / 2 ^ 52 := by
    rw [zpow_sub₀ (by norm_num)]
    norm_num
  have h53 : (2 : ℚ) ^ (d - 53) = 2 ^ d / 2 ^ 53 := by
    rw [zpow_sub₀ (by norm_num)]
    norm_num
  -- The quotient of whole numbers says on which side of a power of two the ratio lies.
  have hsmall : units.1 / units.2 < Nat.pow 2 52 ↔ q < 2 ^ d := by
    have hcast : ((Nat.pow 2 52 : Nat) : ℚ) = 2 ^ 52 := Nat.cast_pow 2 52
    rw [div_lt_iff_ratio_lt hpos, hunits, h52, hcast, div_lt_iff₀ (by positivity),
      mul_div_cancel₀ _ (by norm_num)]
  generalize (2 : ℚ) ^ d = p at *
  by_cases hlt : q < p
  · rw [if_pos (hsmall.mpr hlt)]
    apply fits_max hq
    · rw [h53, div_lt_iff₀ (by positivity), mul_div_cancel₀ _ (by norm_num)]
      exact hlt
    · rw [h53, le_div_iff₀ (by positivity)]
      linarith
  · rw [if_neg fun h => hlt (hsmall.mp h)]
    apply fits_max hq
    · rw [h52, div_lt_iff₀ (by positivity)]
      linarith
    · rw [h52, le_div_iff₀ (by positivity), mul_div_cancel₀ _ (by norm_num)]
      exact not_lt.mp hlt

/-! ## Putting it together -/

/-- A double from a rounded mantissa: one of 54 bits counts as the next power of two. -/
def assembled (negative : Bool) (k : Nat) (e : Int) : Binary64 :=
  if k = 2 ^ 53 then (if maxExponent < e + 1 then .infinite negative else .finite negative (2 ^ 52) (e + 1))
  else if maxExponent < e then .infinite negative else .finite negative k e

/-- **A positive ratio is rounded** with its exponent, to its nearest whole number of units. -/
theorem ofRatio_eq (negative : Bool) {num den : Nat} (hnum : 0 < num) (hden : 0 < den) {e : Int}
    {k : Nat} (he : Fits ((num : ℚ) / den) e) (hk : Rounds ((num : ℚ) / den / 2 ^ e) k) :
    ofRatio negative num den = assembled negative k e := by
  have hexp : fittingExponent num den = e := (fittingExponent_fits hnum hden).unique he
  have hround : roundRatio (inUnits num den e).1 (inUnits num den e).2 = k := by
    refine Rounds.unique ?_ hk
    rw [← inUnits_eq num hden]
    exact roundRatio_rounds _ (inUnits_pos num hden e)
  unfold ofRatio assembled
  have hzero : (num == 0) = false := beq_eq_false_iff_ne.mpr hnum.ne'
  rw [hzero, hexp]
  have h52 : Nat.pow 2 52 = 2 ^ 52 := rfl
  have h53 : Nat.pow 2 53 = 2 ^ 53 := rfl
  simp only [Bool.false_eq_true, if_false, hround, beq_iff_eq, h52, h53]
  split <;> rfl

/-- Every ratio has a nearest whole number of units. -/
theorem exists_rounds (num : Nat) {den : Nat} (hden : 0 < den) (e : Int) :
    ∃ k, Rounds ((num : ℚ) / den / 2 ^ e) k := by
  rw [← inUnits_eq num hden]
  exact ⟨_, roundRatio_rounds _ (inUnits_pos num hden e)⟩

/-- **Rounding gives a double.** -/
theorem ofRatio_canonical (negative : Bool) (num : Nat) {den : Nat} (hden : 0 < den) :
    (ofRatio negative num den).IsCanonical := by
  rcases Nat.eq_zero_or_pos num with rfl | hnum
  · exact zero_canonical negative
  · have he := fittingExponent_fits hnum hden
    generalize fittingExponent num den = e at he
    obtain ⟨k, hk⟩ := exists_rounds num hden e
    rw [ofRatio_eq negative hnum hden he hk]
    -- in its units the ratio is below a number of 54 bits, and so is what it is rounded to, or equal
    have hle : k ≤ 2 ^ 53 := by
      have h : (k : ℚ) < (2 ^ 53 + 1 : Nat) := by
        push_cast
        linarith [hk.above, he.below]
      have h' : k < 2 ^ 53 + 1 := by exact_mod_cast h
      omega
    have hfull : 2 ^ 52 ≤ k ∨ e = minExponent := by
      refine he.above.imp_left fun h => ?_
      have h' : ((2 ^ 52 : Nat) : ℚ) < (k + 1 : Nat) := by
        push_cast
        linarith [hk.below]
      have h'' : 2 ^ 52 < k + 1 := by exact_mod_cast h'
      omega
    have hleast := he.least
    unfold assembled
    split
    · split
      · trivial
      · exact ⟨by decide, by omega, by omega, .inl (le_refl _)⟩
    · split
      · trivial
      · exact ⟨by omega, hleast, by omega, hfull⟩

/-- What a decimal is rounded to is a double. -/
theorem ofDecimal_canonical (negative : Bool) (digits : Nat) (exponent : Int) :
    (ofDecimal negative digits exponent).IsCanonical := by
  unfold ofDecimal
  simp only
  split_ifs
  · exact zero_canonical negative
  · trivial
  · exact zero_canonical negative
  · exact ofRatio_canonical negative _ Nat.one_pos
  · exact ofRatio_canonical negative _ (Nat.pow_pos (by decide))

/-! ## The interval around a double -/

/-- **The ratios that are rounded to a double.**  The double below a power of two is only half as far
    away as the others; the ends belong to the interval when the mantissa is even. -/
structure Within (m : Nat) (e : Int) (q : ℚ) : Prop where
  low : (m : ℚ) - (if m = 2 ^ 52 ∧ e ≠ minExponent then 1 / 4 else 1 / 2) ≤ q / 2 ^ e
  high : q / 2 ^ e ≤ m + 1 / 2
  ends : q / 2 ^ e = m - (if m = 2 ^ 52 ∧ e ≠ minExponent then 1 / 4 else 1 / 2) ∨
    q / 2 ^ e = m + 1 / 2 → m % 2 = 0

theorem Within.half_le {m : Nat} {e : Int} {q : ℚ} (h : Within m e q) : (m : ℚ) - 1 / 2 ≤ q / 2 ^ e := by
  have hlow := h.low
  split at hlow <;> linarith

/-- **What lies in the interval around a double is rounded to it.** -/
theorem ofRatio_of_within (negative : Bool) {num den m : Nat} {e : Int} (hnum : 0 < num)
    (hden : 0 < den) (hm : IsDouble m e) (h : Within m e ((num : ℚ) / den)) :
    ofRatio negative num den = .finite negative m e := by
  have hlow := h.half_le
  have hhigh := h.high
  have hbits : (m : ℚ) + 1 ≤ 2 ^ 53 := by exact_mod_cast hm.bits
  have hmost := hm.most
  have hleast := hm.least
  by_cases hfull : 2 ^ 52 ≤ (num : ℚ) / den / 2 ^ e ∨ e = minExponent
  -- the exponent of the double is the one that fits
  · have hfits : Fits ((num : ℚ) / den) e := ⟨hleast, by linarith, hfull⟩
    have hrounds : Rounds ((num : ℚ) / den / 2 ^ e) m := by
      refine ⟨hlow, hhigh, ?_⟩
      rintro (htie | htie)
      · by_cases hc : m = 2 ^ 52 ∧ e ≠ minExponent
        · rw [hc.1]
          decide
        · exact h.ends (.inl (by rw [if_neg hc]; exact htie))
      · exact h.ends (.inr htie)
    have hne : m ≠ 2 ^ 53 := hm.bits.ne
    rw [ofRatio_eq negative hnum hden hfits hrounds, assembled, if_neg hne, if_neg (by omega)]
  · -- just below a power of two: in the smaller units it is rounded up to it
    obtain ⟨hbelow, hne⟩ := not_or.mp hfull
    have hm52 : m = 2 ^ 52 := by
      have hge : 2 ^ 52 ≤ m := hm.full.resolve_right hne
      have hlt : (m : ℚ) < (2 ^ 52 + 1 : Nat) := by
        push_cast
        linarith [not_le.mp hbelow]
      have hlt' : m < 2 ^ 52 + 1 := by exact_mod_cast hlt
      omega
    have hquarter := h.low
    rw [if_pos ⟨hm52, hne⟩, hm52] at hquarter
    push_cast at hquarter
    have htwice : (num : ℚ) / den / 2 ^ (e - 1) = 2 * ((num : ℚ) / den / 2 ^ e) := by
      have hpow : (2 : ℚ) ^ e = 2 * 2 ^ (e - 1) := by
        rw [← two_zpow_succ, sub_add_cancel]
      rw [hpow]
      field_simp
    have hfits : Fits ((num : ℚ) / den) (e - 1) := by
      refine ⟨by omega, ?_, .inl ?_⟩
      · rw [htwice]
        linarith [not_le.mp hbelow]
      · rw [htwice]
        linarith
    have hrounds : Rounds ((num : ℚ) / den / 2 ^ (e - 1)) (2 ^ 53) := by
      rw [htwice]
      refine ⟨?_, ?_, fun _ => by decide⟩
      · push_cast
        linarith
      · push_cast
        linarith [not_le.mp hbelow]
    rw [ofRatio_eq negative hnum hden hfits hrounds, assembled, if_pos rfl, if_neg (by omega), hm52,
      sub_add_cancel]

/-! ## Beyond all doubles -/

theorem assembled_eq_infinite_iff {negative : Bool} {k : Nat} {e : Int} :
    (∃ b, assembled negative k e = .infinite b) ↔ maxExponent < e ∨ (k = 2 ^ 53 ∧ e = maxExponent) := by
  unfold assembled
  constructor
  · rintro ⟨b, hb⟩
    split at hb
    · split at hb
      · omega
      · exact nomatch hb
    · split at hb
      · omega
      · exact nomatch hb
  · intro h
    split
    · exact ⟨negative, if_pos (by omega)⟩
    · exact ⟨negative, if_pos (by omega)⟩

theorem ofInt?_eq_none_iff_infinite (i : Int) :
    ofInt? i = none ↔ ∃ b, ofRatio (i < 0) i.natAbs 1 = .infinite b := by
  unfold ofInt?
  split
  case h_1 b hb => exact ⟨fun _ => ⟨b, hb⟩, fun _ => rfl⟩
  case h_2 hother => exact ⟨nofun, fun ⟨b, hb⟩ => absurd hb (hother b)⟩

/-- What is below a number of 54 bits is rounded to it from halfway on. -/
theorem Rounds.eq_top_iff {y : ℚ} {k : Nat} (hk : Rounds y k) (hy : y < 2 ^ 53) :
    k = 2 ^ 53 ↔ 2 ^ 53 - 1 / 2 ≤ y := by
  constructor
  · rintro rfl
    have h := hk.above
    push_cast at h
    exact h
  · intro h
    have hge : ((2 ^ 53 - 1 : Nat) : ℚ) ≤ k := by
      rw [Nat.cast_sub (by decide)]
      push_cast
      linarith [hk.below]
    have hlt : (k : ℚ) < ((2 ^ 53 + 1 : Nat) : ℚ) := by
      push_cast
      linarith [hk.above]
    have hge' : 2 ^ 53 - 1 ≤ k := by exact_mod_cast hge
    have hlt' : k < 2 ^ 53 + 1 := by exact_mod_cast hlt
    by_contra hne
    -- the number below is odd, so a ratio halfway is not rounded to it
    have hodd : k = 2 ^ 53 - 1 := by omega
    have hcast : (k : ℚ) = 2 ^ 53 - 1 := by
      rw [hodd, Nat.cast_sub (by decide)]
      push_cast
      ring
    have htie : y = k + 1 / 2 := by linarith [hk.below]
    have heven := hk.even (.inr htie)
    omega

/-- The largest ratio that is not beyond all doubles, by the exponent and the rounded mantissa. -/
theorem Fits.beyond_iff {q : ℚ} {e : Int} {k : Nat} (he : Fits q e) (hk : Rounds (q / 2 ^ e) k) :
    (maxExponent < e ∨ (k = 2 ^ 53 ∧ e = maxExponent)) ↔ (2 ^ 54 - 1) * 2 ^ (970 : Int) ≤ q := by
  have h971 : (2 : ℚ) ^ (971 : Int) = 2 * 2 ^ (970 : Int) := two_zpow_succ 970
  have h972 : (2 : ℚ) ^ (972 : Int) = 2 * (2 * 2 ^ (970 : Int)) := by
    rw [← h971]
    exact two_zpow_succ 971
  -- By the exponent: from 972 on all is beyond, up to 970 nothing is, and at 971 rounding decides.
  have hlarge : 972 ≤ e → (2 : ℚ) ^ 54 * 2 ^ (970 : Int) ≤ q := by
    intro hle
    have hpow : (2 : ℚ) ^ (972 : Int) ≤ 2 ^ e := zpow_le_zpow_right₀ (by norm_num) hle
    have hnot : e ≠ minExponent := by
      unfold minExponent
      omega
    have h := (le_div_iff₀ (two_zpow_pos e)).mp (he.above.resolve_right hnot)
    rw [h972] at hpow
    generalize (2 : ℚ) ^ (970 : Int) = P at *
    linarith
  have hsmall : e ≤ 970 → q < 2 ^ 53 * 2 ^ (970 : Int) := by
    intro hle
    have hpow : (2 : ℚ) ^ e ≤ 2 ^ (970 : Int) := zpow_le_zpow_right₀ (by norm_num) hle
    have h := (div_lt_iff₀ (two_zpow_pos e)).mp he.below
    generalize (2 : ℚ) ^ (970 : Int) = P at *
    linarith
  have hmiddle : e = 971 → (k = 2 ^ 53 ↔ ((2 : ℚ) ^ 54 - 1) * 2 ^ (970 : Int) ≤ q) := by
    rintro rfl
    rw [hk.eq_top_iff he.below, h971, le_div_iff₀ (mul_pos two_pos (two_zpow_pos 970)), ← mul_assoc]
    norm_num
  have hP := two_zpow_pos 970
  unfold maxExponent
  generalize (2 : ℚ) ^ (970 : Int) = P at *
  constructor
  · rintro (hgt | ⟨hk', heq⟩)
    · linarith only [hlarge (by omega), hP]
    · exact (hmiddle heq).mp hk'
  · intro hle
    rcases lt_trichotomy e 971 with hlt | heq | hgt
    · linarith only [hsmall (by omega), hle, hP]
    · exact .inr ⟨(hmiddle heq).mpr hle, heq⟩
    · exact .inl hgt

/-- **From halfway to the next power of two on**, whole numbers are beyond all doubles. -/
theorem ofInt?_eq_none_iff (i : Int) : ofInt? i = none ↔ 2 ^ 1024 - 2 ^ 970 ≤ i.natAbs := by
  rw [ofInt?_eq_none_iff_infinite]
  have hbound : 2 ^ 1024 - 2 ^ 970 = (2 ^ 54 - 1) * 2 ^ 970 := by
    rw [Nat.sub_mul, ← Nat.pow_add, Nat.one_mul]
  rw [hbound]
  generalize hn : i.natAbs = n
  rcases Nat.eq_zero_or_pos n with rfl | hpos
  · have hzero : ∀ b, ofRatio (i < 0) 0 1 ≠ .infinite b := nofun
    have hB : 0 < (2 ^ 54 - 1) * 2 ^ 970 := by positivity
    exact ⟨fun ⟨b, hb⟩ => absurd hb (hzero b), fun h => absurd h (Nat.not_le.mpr hB)⟩
  · have he := fittingExponent_fits hpos Nat.one_pos
    generalize fittingExponent n 1 = e at he
    obtain ⟨k, hk⟩ := exists_rounds n Nat.one_pos e
    have hcast : (((2 ^ 54 - 1) * 2 ^ 970 : Nat) : ℚ) = ((2 : ℚ) ^ 54 - 1) * 2 ^ (970 : Int) := by
      rw [Nat.cast_mul, Nat.cast_pow, Nat.cast_sub (by decide), Nat.cast_pow, Nat.cast_one,
        Nat.cast_ofNat]
      rfl
    rw [ofRatio_eq _ hpos Nat.one_pos he hk, assembled_eq_infinite_iff, he.beyond_iff hk, ← hcast,
      Nat.cast_one, div_one]
    exact Nat.cast_le

end SecureStartup.Binary64
