import Mathlib.Data.Nat.Cast.Order.Field
import SecureStartup.Number.Shortest
import SecureStartup.Proofs.Number.Nearest

/-!
  A double is read back from its shortest decimal.

  Doubles are written with as few digits as still tell them apart from their neighbours: what lies nearer
  to a double than to any other is an interval around it (`Within`), and the search tries one digit, then
  two, up to seventeen, for a decimal in it.

  1. Whatever the search accepts on some decimal grid lies in the interval around the double
     (`within_of_accepts`).
  2. With seventeen digits it accepts something: the grid is finer than the interval is wide
     (`exists_decimal?`).  So the search never comes out empty (`shortest_within`).
  3. A decimal in the interval is rounded to the double (`ofDecimal_of_within`).

  That there is no shorter one is not needed here: what is asked of a log line or a document is that its
  numbers are read back.
-/

namespace SecureStartup.Binary64

/-! ## Powers of ten -/

theorem ten_zpow_pos (j : Int) : (0 : ℚ) < 10 ^ j := zpow_pos (by norm_num) j

/-- Between which powers of ten a positive number lies. -/
theorem toDigits_bounds {n : Nat} (hn : 0 < n) :
    (10 : ℚ) ^ ((Nat.toDigits 10 n).length - 1 : Int) ≤ n ∧
      (n : ℚ) < 10 ^ ((Nat.toDigits 10 n).length : Int) := by
  have hlen : 0 < (Nat.toDigits 10 n).length := Nat.length_toDigits_pos
  generalize hl : (Nat.toDigits 10 n).length = l at *
  have hlt : n < 10 ^ l := (Nat.length_toDigits_le_iff (by decide) hlen).mp hl.le
  have hge : 10 ^ (l - 1) ≤ n := by
    rcases Nat.eq_zero_or_pos (l - 1) with h0 | hpos
    · rw [h0]
      exact hn
    · by_contra h
      have := (Nat.length_toDigits_le_iff (by decide) hpos).mpr (Nat.not_le.mp h)
      omega
  constructor
  · rw [show (l : Int) - 1 = ((l - 1 : Nat) : Int) by omega, zpow_natCast]
    exact_mod_cast hge
  · rw [zpow_natCast]
    exact_mod_cast hlt

/-- The magnitude of a ratio is not too large. -/
theorem magnitude_le {num den : Nat} (hnum : 0 < num) (hden : 0 < den) :
    (10 : ℚ) ^ (magnitude num den - 1) ≤ num / den := by
  have hnum' : (0 : ℚ) < num := by exact_mod_cast hnum
  have hden' : (0 : ℚ) < den := by exact_mod_cast hden
  unfold magnitude
  split
  case isTrue hle =>
    have hpos : 0 < num / den := Nat.div_pos hle hden
    refine le_trans (toDigits_bounds hpos).1 ?_
    exact Nat.cast_div_le
  case isFalse hlt =>
    have hpos : 0 < den / num := Nat.div_pos (by omega) hnum
    have hlast : (den : ℚ) / num < 10 ^ ((Nat.toDigits 10 (den / num)).length : Int) := by
      have h : den / num + 1 ≤ 10 ^ (Nat.toDigits 10 (den / num)).length :=
        (Nat.length_toDigits_le_iff (by decide) Nat.length_toDigits_pos).mp (le_refl _)
      have h' : den < num * (den / num + 1) := Nat.lt_mul_div_succ den hnum
      rw [div_lt_iff₀ hnum', zpow_natCast]
      have h'' : den < 10 ^ (Nat.toDigits 10 (den / num)).length * num := by
        rw [Nat.mul_comm]
        exact Nat.lt_of_lt_of_le h' (Nat.mul_le_mul_left num h)
      exact_mod_cast h''
    rw [show 1 - ((Nat.toDigits 10 (den / num)).length : Int) - 1 =
      -((Nat.toDigits 10 (den / num)).length : Int) by omega, zpow_neg, ← inv_div]
    exact inv_anti₀ (by positivity) hlast.le

/-! ## Decimals -/

/-- The value of a decimal. -/
def Decimal.value (d : Decimal) : ℚ := d.digits * 10 ^ d.exponent

/-- **Trailing zeros** do not change the value. -/
theorem Decimal.trimmed_value (fuel : Nat) (d : Decimal) : (d.trimmed fuel).value = d.value := by
  induction fuel generalizing d with
  | zero => rfl
  | succ fuel ih =>
    unfold trimmed
    split
    case isTrue h =>
      obtain ⟨hne, hmod⟩ : d.digits ≠ 0 ∧ d.digits % 10 = 0 := by simpa using h
      rw [ih]
      unfold value
      have hdigits : (d.digits : ℚ) = (d.digits / 10 : Nat) * 10 := by
        exact_mod_cast (Nat.div_mul_cancel (Nat.dvd_of_mod_eq_zero hmod)).symm
      rw [hdigits, zpow_add_one₀ (by norm_num)]
      ring
    case isFalse => rfl

theorem Decimal.trimmed_digits {d : Decimal} (hd : 0 < d.digits) (fuel : Nat) :
    0 < (d.trimmed fuel).digits := by
  induction fuel generalizing d with
  | zero => exact hd
  | succ fuel ih =>
    unfold trimmed
    split
    case isTrue h =>
      obtain ⟨hne, hmod⟩ : d.digits ≠ 0 ∧ d.digits % 10 = 0 := by simpa using h
      apply ih
      show 0 < d.digits / 10
      omega
    case isFalse => exact hd

/-! ## The search -/

section

variable {m : Nat} {e : Int}

/-- A step of the grid with exponent `j`, and a quarter step of the double, as whole numbers. -/
def Interval.steps (v : Interval) (j : Int) : Nat × Nat :=
  (v.unit.2 * Nat.pow 10 j.toNat, v.unit.1 * Nat.pow 10 (-j).toNat)

/-- The quarter step of a double as a ratio. -/
theorem unit_eq (m : Nat) (e : Int) : 0 < (Interval.of m e).unit.1 ∧ 0 < (Interval.of m e).unit.2 ∧
    ((Interval.of m e).unit.1 : ℚ) / (Interval.of m e).unit.2 = 2 ^ (e - 2) := by
  unfold Interval.of
  simp only
  split
  case isTrue h =>
    obtain ⟨k, hk⟩ := Int.eq_ofNat_of_zero_le h
    rw [hk]
    refine ⟨Nat.pow_pos (by decide), Nat.one_pos, ?_⟩
    show ((2 ^ k : Nat) : ℚ) / (1 : Nat) = 2 ^ (k : Int)
    push_cast
    rw [div_one, zpow_natCast]
  case isFalse h =>
    obtain ⟨k, hk⟩ : ∃ k : Nat, e - 2 = -(k : Int) := ⟨(-(e - 2)).toNat, by omega⟩
    rw [hk, neg_neg]
    refine ⟨Nat.one_pos, Nat.pow_pos (by decide), ?_⟩
    show ((1 : Nat) : ℚ) / ((2 ^ k : Nat) : ℚ) = 2 ^ (-(k : Int))
    push_cast
    rw [zpow_neg, zpow_natCast, one_div]

theorem ten_zpow_toNat (j : Int) : (10 : ℚ) ^ j * ((10 ^ (-j).toNat : Nat) : ℚ) =
    ((10 ^ j.toNat : Nat) : ℚ) := by
  push_cast
  rcases le_total 0 j with hj | hj
  · obtain ⟨k, rfl⟩ := Int.eq_ofNat_of_zero_le hj
    simp
  · obtain ⟨k, rfl⟩ : ∃ k : Nat, j = -(k : Int) := ⟨(-j).toNat, by omega⟩
    simp

/-- **Quarter steps and grid steps on one scale.** -/
theorem exists_scale (m : Nat) (e j : Int) : ∃ w : ℚ, 0 < w ∧
    (((Interval.of m e).steps j).2 : ℚ) = 2 ^ (e - 2) * w ∧
    (((Interval.of m e).steps j).1 : ℚ) = 10 ^ j * w := by
  unfold Interval.steps
  obtain ⟨hpos1, hpos2, hunit⟩ := unit_eq m e
  generalize (Interval.of m e).unit = u at *
  have hten : 0 < 10 ^ (-j).toNat := Nat.pow_pos (by decide)
  have hpos : 0 < u.2 * 10 ^ (-j).toNat := Nat.mul_pos hpos2 hten
  have hu2 : (u.2 : ℚ) ≠ 0 := by
    have : (0 : ℚ) < u.2 := by exact_mod_cast hpos2
    exact this.ne'
  refine ⟨((u.2 * 10 ^ (-j).toNat : Nat) : ℚ), by exact_mod_cast hpos, ?_, ?_⟩
  · show ((u.1 * 10 ^ (-j).toNat : Nat) : ℚ) = _
    rw [← hunit, Nat.cast_mul, Nat.cast_mul, ← mul_assoc, div_mul_cancel₀ _ hu2]
  · show ((u.2 * 10 ^ j.toNat : Nat) : ℚ) = _
    rw [Nat.cast_mul, Nat.cast_mul, ← ten_zpow_toNat]
    ring

/-- The lower end of the interval, in quarter steps. -/
theorem low_eq {m : Nat} (hm : 0 < m) (e : Int) : ((Interval.of m e).low : ℚ) =
    4 * ((m : ℚ) - (if m = 2 ^ 52 ∧ e ≠ minExponent then 1 / 4 else 1 / 2)) := by
  have hpow : Nat.pow 2 52 = 2 ^ 52 := rfl
  unfold Interval.of
  simp only [hpow, Bool.and_eq_true, beq_iff_eq, bne_iff_ne]
  split
  · rw [Nat.cast_sub (by omega)]
    push_cast
    ring
  · rw [Nat.cast_sub (by omega)]
    push_cast
    ring

/-- A decimal between the ends, or at one that counts, is rounded to the double. -/
theorem within_of_ends {m : Nat} {e : Int} {q : ℚ} (hm : 0 < m)
    (hlow : (Interval.of m e).low * 2 ^ (e - 2) < q ∨
      (m % 2 = 0 ∧ (Interval.of m e).low * 2 ^ (e - 2) = q))
    (hhigh : q < (Interval.of m e).high * 2 ^ (e - 2) ∨
      (m % 2 = 0 ∧ q = (Interval.of m e).high * 2 ^ (e - 2))) : Within m e q := by
  -- The interval counts in quarters of the unit, so that its ends are whole numbers.
  have hunit : (2 : ℚ) ^ e = 4 * 2 ^ (e - 2) := by
    rw [zpow_sub₀ (by norm_num)]
    ring
  have hhigh' : ((Interval.of m e).high : ℚ) = 4 * ((m : ℚ) + 1 / 2) := by
    unfold Interval.of
    push_cast
    ring
  have hU := two_zpow_pos (e - 2)
  rw [low_eq hm] at hlow
  rw [hhigh'] at hhigh
  generalize hg : (m : ℚ) - (if m = 2 ^ 52 ∧ e ≠ minExponent then 1 / 4 else 1 / 2) = low at *
  constructor
  · rw [hg, hunit, le_div_iff₀ (by linarith)]
    rcases hlow with h | ⟨-, h⟩ <;> linarith
  · rw [hunit, div_le_iff₀ (by linarith)]
    rcases hhigh with h | ⟨-, h⟩ <;> linarith
  · rw [hg, hunit]
    rintro (h | h)
    · rw [div_eq_iff (by linarith)] at h
      exact (hlow.resolve_left (by linarith)).1
    · rw [div_eq_iff (by linarith)] at h
      exact (hhigh.resolve_left (by linarith)).1

/-- Natural numbers on the common scale. -/
theorem scaled_lt_iff {up grid a c : Nat} {u t w : ℚ} (hw : 0 < w) (hup : (up : ℚ) = u * w)
    (hgrid : (grid : ℚ) = t * w) :
    (a * up < c * grid ↔ a * u < c * t) ∧ (c * grid < a * up ↔ c * t < a * u) ∧
      (a * up = c * grid ↔ a * u = c * t) := by
  have ha : ((a * up : Nat) : ℚ) = a * u * w := by
    rw [Nat.cast_mul, hup, mul_assoc]
  have hc : ((c * grid : Nat) : ℚ) = c * t * w := by
    rw [Nat.cast_mul, hgrid, mul_assoc]
  refine ⟨?_, ?_, ?_⟩
  · rw [← Nat.cast_lt (α := ℚ), ha, hc, mul_lt_mul_iff_left₀ hw]
  · rw [← Nat.cast_lt (α := ℚ), ha, hc, mul_lt_mul_iff_left₀ hw]
  · rw [← Nat.cast_inj (R := ℚ), ha, hc, mul_left_inj' hw.ne']

end

/-- **The test of a candidate**: between the ends of the interval, or at one that belongs to it. -/
def Interval.Accepts (v : Interval) (j : Int) (c : Nat) : Prop :=
  (v.low * (v.steps j).2 < c * (v.steps j).1 ∨
      (v.closed = true ∧ v.low * (v.steps j).2 = c * (v.steps j).1)) ∧
    (c * (v.steps j).1 < v.high * (v.steps j).2 ∨
      (v.closed = true ∧ c * (v.steps j).1 = v.high * (v.steps j).2))

/-- **The search on a grid** looks at the two neighbours of the double there. -/
theorem Interval.decimal?_cases (v : Interval) (k : Int) (n : Nat) :
    (∃ c, v.decimal? k n = some ⟨c, k - n⟩ ∧ 0 < c ∧ v.Accepts (k - n) c) ∨
      (v.decimal? k n = none ∧ (v.value * (v.steps (k - n)).2 / (v.steps (k - n)).1 = 0 ∨
          ¬ v.Accepts (k - n) (v.value * (v.steps (k - n)).2 / (v.steps (k - n)).1)) ∧
        ¬ v.Accepts (k - n) (v.value * (v.steps (k - n)).2 / (v.steps (k - n)).1 + 1)) := by
  have htest : ∀ c, ((v.low * (v.steps (k - n)).2 < c * (v.steps (k - n)).1 ||
        (v.closed && v.low * (v.steps (k - n)).2 == c * (v.steps (k - n)).1)) &&
      (c * (v.steps (k - n)).1 < v.high * (v.steps (k - n)).2 ||
        (v.closed && c * (v.steps (k - n)).1 == v.high * (v.steps (k - n)).2))) = true ↔
      v.Accepts (k - n) c := by
    intro c
    simp only [Accepts, Bool.and_eq_true, Bool.or_eq_true, decide_eq_true_eq, beq_iff_eq]
  unfold decimal?
  extract_lets j up grid
  dsimp -zeta only
  extract_lets inside d below above
  -- What the search tests of a neighbour is that the interval accepts it.
  have hin : ∀ c, inside c = true ↔ v.Accepts (k - n) c := htest
  split
  case h_1 hlow hhigh =>
    obtain ⟨hne, hd⟩ := (Bool.and_eq_true _ _).mp hlow
    left
    split
    · exact ⟨d, rfl, Nat.pos_of_ne_zero (bne_iff_ne.mp hne), (hin d).mp hd⟩
    · exact ⟨d + 1, rfl, Nat.succ_pos d, (hin _).mp hhigh⟩
  case h_2 hlow _ =>
    obtain ⟨hne, hd⟩ := (Bool.and_eq_true _ _).mp hlow
    exact .inl ⟨d, rfl, Nat.pos_of_ne_zero (bne_iff_ne.mp hne), (hin d).mp hd⟩
  case h_3 _ hhigh =>
    exact .inl ⟨d + 1, rfl, Nat.succ_pos d, (hin _).mp hhigh⟩
  case h_4 hlow hhigh =>
    have hno : ∀ c, inside c = false → ¬ v.Accepts (k - n) c := by
      intro c hc h
      rw [(hin c).mpr h] at hc
      exact nomatch hc
    refine .inr ⟨rfl, ?_, hno _ hhigh⟩
    rcases Bool.and_eq_false_iff.mp hlow with hz | hd
    · exact .inl (bne_eq_false_iff_eq.mp hz)
    · exact .inr (hno d hd)

section

variable {m : Nat} {e : Int}

/-- **What passes the test** lies in the interval around the double. -/
theorem within_of_accepts {j : Int} {c : Nat} (hm : 0 < m) (h : (Interval.of m e).Accepts j c) :
    Within m e (Decimal.value ⟨c, j⟩) := by
  obtain ⟨w, hw, hup, hgrid⟩ := exists_scale m e j
  obtain ⟨hlt, -, heq⟩ := scaled_lt_iff (a := (Interval.of m e).low) (c := c) hw hup hgrid
  obtain ⟨-, hgt, heq'⟩ := scaled_lt_iff (a := (Interval.of m e).high) (c := c) hw hup hgrid
  have hclosed : (Interval.of m e).closed = true ↔ m % 2 = 0 := beq_iff_eq
  obtain ⟨hlow, hhigh⟩ := h
  refine within_of_ends hm ?_ ?_
  · exact hlow.imp hlt.mp fun h => ⟨hclosed.mp h.1, heq.mp h.2⟩
  · exact hhigh.imp hgt.mp fun h => ⟨hclosed.mp h.1, (heq'.mp h.2.symm).symm⟩

/-- The ends of an interval are so far apart that no grid of seventeen digits misses it. -/
theorem width_lt (hm : IsDouble m e) (hpos : 0 < m) :
    4 * m < 10 ^ 16 * ((Interval.of m e).high - (Interval.of m e).low) := by
  have hbits := hm.bits
  have hpow : Nat.pow 2 52 = 2 ^ 52 := rfl
  unfold Interval.of
  simp only [hpow, Bool.and_eq_true, beq_iff_eq]
  split
  · omega
  · omega

/-- In front of the point of a grid with seventeen digits. -/
theorem digits_le {m : Nat} {e k : Int} (hpos : 0 < m)
    (hk : magnitude (4 * m * (Interval.of m e).unit.1) (Interval.of m e).unit.2 = k) :
    10 ^ 16 * ((Interval.of m e).steps (k - (17 : Nat))).1 ≤
      4 * m * ((Interval.of m e).steps (k - (17 : Nat))).2 := by
  obtain ⟨hu1, hu2, hunit⟩ := unit_eq m e
  obtain ⟨w, hw, hup, hgrid⟩ := exists_scale m e (k - (17 : Nat))
  have hmag := magnitude_le (Nat.mul_pos (show 0 < 4 * m by omega) hu1) hu2
  have hten : (10 : ℚ) ^ (k - 1) = 10 ^ 16 * 10 ^ (k - (17 : Nat)) := by
    rw [show k - 1 = 16 + (k - (17 : Nat)) by push_cast; ring, zpow_add₀ (by norm_num)]
    norm_num
  rw [hk, hten, Nat.cast_mul, mul_div_assoc, hunit] at hmag
  have h : ((10 ^ 16 * ((Interval.of m e).steps (k - (17 : Nat))).1 : Nat) : ℚ) ≤
      ((4 * m * ((Interval.of m e).steps (k - (17 : Nat))).2 : Nat) : ℚ) := by
    rw [Nat.cast_mul, Nat.cast_mul, hup, hgrid, ← mul_assoc, ← mul_assoc]
    push_cast at hmag ⊢
    exact mul_le_mul_of_nonneg_right hmag hw.le
  exact_mod_cast h

/-- Between two neighbours that are both missed the interval would have to fit. -/
theorem width_le {low high d g u : Nat} (hbelow : d * g ≤ low * u) (habove : high * u ≤ (d + 1) * g) :
    (high - low) * u ≤ g := by
  rw [Nat.sub_mul]
  rw [Nat.succ_mul] at habove
  omega

/-- **Seventeen digits are enough**: the grid is finer than the interval is wide. -/
theorem exists_decimal? (hm : IsDouble m e) (hpos : 0 < m) :
    ∃ d, (Interval.of m e).decimal?
      (magnitude (4 * m * (Interval.of m e).unit.1) (Interval.of m e).unit.2) 17 = some d := by
  generalize hk : magnitude (4 * m * (Interval.of m e).unit.1) (Interval.of m e).unit.2 = k
  have hdigits := digits_le hpos hk
  have hg : 0 < ((Interval.of m e).steps (k - (17 : Nat))).1 :=
    Nat.mul_pos (unit_eq m e).2.1 (Nat.pow_pos (by decide))
  have hu : 0 < ((Interval.of m e).steps (k - (17 : Nat))).2 :=
    Nat.mul_pos (unit_eq m e).1 (Nat.pow_pos (by decide))
  rcases (Interval.of m e).decimal?_cases k 17 with ⟨c, hc, -⟩ | ⟨-, hbelow, habove⟩
  · exact ⟨_, hc⟩
  · exfalso
    have hwidth := width_lt hm hpos
    have hlow : (Interval.of m e).low < 4 * m := by
      unfold Interval.of
      simp only
      split <;> omega
    have hvalue : (Interval.of m e).value = 4 * m := rfl
    have hhigh : (Interval.of m e).high = 4 * m + 2 := rfl
    unfold Interval.Accepts at hbelow habove
    rw [hvalue] at hbelow habove
    generalize (Interval.of m e).low = low at *
    generalize (Interval.of m e).high = high at *
    generalize ((Interval.of m e).steps (k - (17 : Nat))).1 = g at *
    generalize ((Interval.of m e).steps (k - (17 : Nat))).2 = u at *
    -- the neighbours of the double on the grid, neither of them zero
    have hd : 4 * m * u / g * g ≤ 4 * m * u := Nat.div_mul_le_self _ _
    have hd' : 4 * m * u < (4 * m * u / g + 1) * g := by
      rw [Nat.mul_comm _ g]
      exact Nat.lt_mul_div_succ _ hg
    have hne : 4 * m * u / g ≠ 0 := by
      have h : 10 ^ 16 ≤ 4 * m * u / g := (Nat.le_div_iff_mul_le hg).mpr hdigits
      omega
    have hlowu : low * u < 4 * m * u := Nat.mul_lt_mul_of_pos_right hlow hu
    have hhighu : 4 * m * u < high * u := Nat.mul_lt_mul_of_pos_right (by omega) hu
    have hmissed : 4 * m * u / g * g ≤ low * u := by
      by_contra h
      exact (hbelow.resolve_left hne) ⟨.inl (Nat.not_le.mp h), .inl (by omega)⟩
    have hmissed' : high * u ≤ (4 * m * u / g + 1) * g := by
      by_contra h
      exact habove ⟨.inl (by omega), .inl (Nat.not_le.mp h)⟩
    have hfits := width_le hmissed hmissed'
    have htotal : 10 ^ 16 * (high - low) * u ≤ 4 * m * u := by
      rw [Nat.mul_assoc]
      exact Nat.le_trans (Nat.mul_le_mul_left _ hfits) hdigits
    have hlast := Nat.le_of_mul_le_mul_right htotal hu
    omega

/-- What is found on a grid passes the test there. -/
theorem accepts_of_decimal? {v : Interval} {k : Int} {n : Nat} {d : Decimal}
    (h : v.decimal? k n = some d) : 0 < d.digits ∧ v.Accepts d.exponent d.digits := by
  rcases v.decimal?_cases k n with ⟨c, hc, hpos, haccepts⟩ | ⟨hnone, -⟩
  · rw [hc] at h
    rw [← Option.some.inj h]
    exact ⟨hpos, haccepts⟩
  · rw [hnone] at h
    exact nomatch h

/-- **The shortest decimal lies in the interval around the double.** -/
theorem shortest_within (hm : IsDouble m e) (hpos : 0 < m) : Within m e (shortest m e).value := by
  unfold shortest
  extract_lets v k tries
  rw [Decimal.trimmed_value]
  obtain ⟨d, hd⟩ := exists_decimal? hm hpos
  rcases hfound : tries.findSome? (v.decimal? k) with _ | found
  · have hnone := List.findSome?_eq_none_iff.mp hfound 17 (by decide)
    exact absurd (hd.symm.trans hnone) (Option.some_ne_none d)
  · obtain ⟨n, -, hn⟩ := List.exists_of_findSome?_eq_some hfound
    exact within_of_accepts hpos (accepts_of_decimal? hn).2

/-- The shortest decimal of a number that is not zero is not zero. -/
theorem shortest_digits_pos (hpos : 0 < m) (e : Int) : 0 < (shortest m e).digits := by
  unfold shortest
  extract_lets v k tries
  apply Decimal.trimmed_digits
  rcases hfound : tries.findSome? (v.decimal? k) with _ | found
  · exact hpos
  · obtain ⟨n, -, hn⟩ := List.exists_of_findSome?_eq_some hfound
    exact (accepts_of_decimal? hn).1

/-! ## Reading a decimal -/

/-- Powers of two below one of ten, and above its inverse. -/
theorem two_zpow_le_ten {k : Int} (hk : k ≤ 1200) : (2 : ℚ) ^ k ≤ 10 ^ (400 : Int) := by
  calc (2 : ℚ) ^ k ≤ 2 ^ (((3 * 400 : Nat) : Int)) := zpow_le_zpow_right₀ (by norm_num) (by omega)
    _ = (2 ^ 3) ^ 400 := by rw [zpow_natCast, pow_mul]
    _ ≤ 10 ^ 400 := pow_le_pow_left₀ (by norm_num) (by norm_num) 400

/-- Decimals in the interval around a double are neither very large nor very small. -/
theorem Within.size_bounds {digits : Nat} {exponent : Int} (hm : IsDouble m e) (hpos : 0 < m)
    (hd : 0 < digits) (h : Within m e (digits * 10 ^ exponent)) :
    ((Nat.toDigits 10 digits).length : Int) + exponent ≤ 400 ∧
      -400 ≤ ((Nat.toDigits 10 digits).length : Int) + exponent := by
  obtain ⟨hlow, hhigh⟩ := toDigits_bounds hd
  generalize ((Nat.toDigits 10 digits).length : Int) = l at *
  have hT := ten_zpow_pos exponent
  have hE := two_zpow_pos e
  constructor
  -- no double is as large as this power of ten
  · have hbits : (m : ℚ) + 1 ≤ 2 ^ 53 := by exact_mod_cast hm.bits
    have hmost : 53 + e ≤ 1200 := by
      have := hm.most
      unfold maxExponent at this
      omega
    have hq : (10 : ℚ) ^ (l - 1 + exponent) < 10 ^ (400 : Int) := by
      calc (10 : ℚ) ^ (l - 1 + exponent) = 10 ^ (l - 1) * 10 ^ exponent := zpow_add₀ (by norm_num) _ _
        _ ≤ digits * 10 ^ exponent := mul_le_mul_of_nonneg_right hlow hT.le
        _ ≤ (m + 1 / 2) * 2 ^ e := (div_le_iff₀ hE).mp h.high
        _ < 2 ^ 53 * 2 ^ e := mul_lt_mul_of_pos_right (by linarith) hE
        _ = 2 ^ (53 + e) := by rw [zpow_add₀ (by norm_num)]; norm_num
        _ ≤ 10 ^ (400 : Int) := two_zpow_le_ten hmost
    have hexp := (zpow_lt_zpow_iff_right₀ (by norm_num)).mp hq
    omega
  -- and none but zero is smaller than this one
  · have hone : (1 : ℚ) ≤ m := by exact_mod_cast hpos
    have hleast : 1 - e ≤ 1200 := by
      have := hm.least
      unfold minExponent at this
      omega
    have hq : (10 : ℚ) ^ (-400 : Int) < 10 ^ (l + exponent) := by
      calc (10 : ℚ) ^ (-400 : Int) = (10 ^ (400 : Int))⁻¹ := zpow_neg _ _
        _ ≤ (2 ^ (1 - e))⁻¹ := inv_anti₀ (two_zpow_pos _) (two_zpow_le_ten hleast)
        _ = 1 / 2 * 2 ^ e := by
          rw [← zpow_neg, show -(1 - e) = -1 + e by ring, zpow_add₀ (by norm_num)]
          norm_num
        _ ≤ (m - 1 / 2) * 2 ^ e := mul_le_mul_of_nonneg_right (by linarith) hE.le
        _ ≤ digits * 10 ^ exponent := (le_div_iff₀ hE).mp h.half_le
        _ < 10 ^ l * 10 ^ exponent := mul_lt_mul_of_pos_right hhigh hT
        _ = 10 ^ (l + exponent) := (zpow_add₀ (by norm_num) _ _).symm
    have hexp := (zpow_lt_zpow_iff_right₀ (by norm_num)).mp hq
    omega

/-- **A decimal in the interval around a double is read as that double.** -/
theorem ofDecimal_of_within (negative : Bool) {digits : Nat} {exponent : Int} (hm : IsDouble m e)
    (hpos : 0 < m) (hd : 0 < digits) (h : Within m e (digits * 10 ^ exponent)) :
    ofDecimal negative digits exponent = .finite negative m e := by
  obtain ⟨hle, hge⟩ := h.size_bounds hm hpos hd
  have hne : (digits == 0) = false := beq_eq_false_iff_ne.mpr hd.ne'
  unfold ofDecimal
  simp only [hne, Bool.false_eq_true, if_false, if_neg (Int.not_lt.mpr hle), if_neg (Int.not_lt.mpr hge)]
  split
  case isTrue hexp =>
    obtain ⟨k, rfl⟩ := Int.eq_ofNat_of_zero_le hexp
    refine ofRatio_of_within negative (Nat.mul_pos hd (Nat.pow_pos (by decide))) Nat.one_pos hm ?_
    show Within m e (((digits * 10 ^ k : Nat) : ℚ) / (1 : Nat))
    rw [zpow_natCast] at h
    push_cast
    rwa [div_one]
  case isFalse hexp =>
    obtain ⟨k, rfl⟩ : ∃ k : Nat, exponent = -(k : Int) := ⟨(-exponent).toNat, by omega⟩
    rw [neg_neg]
    refine ofRatio_of_within negative hd (Nat.pow_pos (by decide)) hm ?_
    show Within m e ((digits : ℚ) / ((10 ^ k : Nat) : ℚ))
    rw [zpow_neg, zpow_natCast, ← div_eq_mul_inv] at h
    push_cast
    exact h

/-- **A double is read back from its shortest decimal**, however the decimal is written. -/
theorem ofDecimal_shortest (negative : Bool) {digits : Nat} {exponent : Int} (hm : IsDouble m e)
    (hpos : 0 < m) (hd : 0 < digits) (h : (digits : ℚ) * 10 ^ exponent = (shortest m e).value) :
    ofDecimal negative digits exponent = .finite negative m e := by
  apply ofDecimal_of_within negative hm hpos hd
  rw [h]
  exact shortest_within hm hpos

end

end SecureStartup.Binary64
