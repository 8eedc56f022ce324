import SecureStartup.Json.Reader
import SecureStartup.Json.Writer
import SecureStartup.Proofs.Number.Shortest
import SecureStartup.Proofs.Text.Digits
import SecureStartup.Proofs.Text.Spelled

/-!
  Numbers are read back as they were written.

  A number's text is a run of digits, perhaps with a fraction and an exponent behind it
  (`NumberText`).

  1. **Reading** takes such a text apart again (`number?_text`), whatever follows, as long as that does
     not go on with the number (`Stops`).

  2. **Whole numbers** are written as their digits (`number?_whole`).

  3. **Doubles** are written as their shortest decimal, in one of two layouts: plain, with a point at the
     end, within or in front of the digits, or scientific with at least two digits of exponent
     (`writes_text`).  Either way the text has the value of the decimal, and the double is the one nearest
     to that value (`number?_of_writes`).
-/

namespace SecureStartup

namespace Json

open SecureStartup.Text

/-! ## The text of a number -/

/-- What comes behind a value: the end of an item or a member, or a blank. -/
def stoppers : List Char := [',', ']', '\x7d', ' ', '\n', '\r', '\t']

/-- A text behind a value: nothing, or something that does not go on with the value. -/
def Stops (rest : List Char) : Prop := ∀ c ∈ rest.head?, c ∈ stoppers

/-- A fraction. -/
def fractionText : Option (List Char) → List Char
  | none => []
  | some fs => '.' :: fs

/-- An exponent with its sign. -/
def exponentText : Option (Bool × List Char) → List Char
  | none => []
  | some (negative, es) => 'e' :: (if negative then '-' else '+') :: es

/-- The exponent that is written. -/
def exponentValue : Option (Bool × List Char) → Option Int
  | none => none
  | some (negative, es) =>
    let n : Int := natOfDigits 10 es
    some (if negative then -n else n)

/-- **The parts of a number's text**: runs of digits, the first one without zeros in front. -/
structure NumberText (ds : List Char) (fs : Option (List Char)) (ex : Option (Bool × List Char)) :
    Prop where
  whole : IsDigits ds
  noLeadingZero : hasLeadingZero ds = false
  fraction : ∀ f ∈ fs, IsDigits f
  exponent : ∀ p ∈ ex, IsDigits p.2

/-- A run of digits is read up to the first character that is none. -/
theorem digits_append {ds t : List Char} (hd : ∀ c ∈ ds, isAsciiDigit c = true)
    (ht : ∀ c ∈ t.head?, isAsciiDigit c = false) : digits (ds ++ t) = (ds, t) := by
  obtain ⟨htake, hdrop⟩ := takeWhile_append_of_head? hd ht
  unfold digits
  rw [htake, hdrop]

theorem Stops.not_digit {rest : List Char} (h : Stops rest) :
    ∀ c ∈ rest.head?, isAsciiDigit c = false := by
  have hall : (stoppers.all fun c => !isAsciiDigit c) = true := rfl
  intro c hc
  simpa using List.all_eq_true.mp hall c (h c hc)

theorem exponent?_text {ex : Option (Bool × List Char)} (hex : ∀ p ∈ ex, IsDigits p.2)
    {rest : List Char} (hrest : Stops rest) :
    exponent? (exponentText ex ++ rest) = (exponentValue ex, rest) := by
  rcases ex with _ | ⟨negative, es⟩
  · rcases rest with _ | ⟨c, r⟩
    · rfl
    · have hall : (stoppers.all fun c => !(c == 'e' || c == 'E')) = true := rfl
      have hc := List.all_eq_true.mp hall c (hrest c rfl)
      exact if_neg (by simpa using hc)
  · have hes := hex _ rfl
    have hread := digits_append hes.digits hrest.not_digit
    have hne : es.isEmpty = false := List.isEmpty_eq_false_iff.mpr hes.ne_nil
    cases negative <;> simp [exponentText, exponentValue, exponent?, hread, hne]

/-- What is behind a run of digits does not go on with it. -/
theorem exponentText_not_digit (ex : Option (Bool × List Char)) {rest : List Char} (hrest : Stops rest) :
    ∀ c ∈ (exponentText ex ++ rest).head?, isAsciiDigit c = false := by
  rcases ex with _ | ⟨negative, es⟩
  · exact hrest.not_digit
  · rintro c ⟨rfl⟩
    rfl

theorem fraction?_text {fs : Option (List Char)} (hfs : ∀ f ∈ fs, IsDigits f)
    {t : List Char} (ht : ∀ c ∈ t.head?, isAsciiDigit c = false) (hpoint : t.head? ≠ some '.') :
    fraction? (fractionText fs ++ t) = (fs, t) := by
  rcases fs with _ | fs
  · rcases t with _ | ⟨c, r⟩
    · rfl
    · have hc : c ≠ '.' := fun h => hpoint (h ▸ rfl)
      show fraction? (c :: r) = (none, c :: r)
      unfold fraction?
      split
      case h_1 heq => exact absurd (List.cons_eq_cons.mp heq).1 hc
      case h_2 => rfl
  · have hread := digits_append (hfs fs rfl).digits ht
    have hne : fs.isEmpty = false := List.isEmpty_eq_false_iff.mpr (hfs fs rfl).ne_nil
    simp [fractionText, fraction?, hread, hne]

/-- **A number's text is taken apart** as it was put together. -/
theorem number?_text (words negative : Bool) {ds : List Char} {fs : Option (List Char)}
    {ex : Option (Bool × List Char)} (h : NumberText ds fs ex) {rest : List Char} (hrest : Stops rest) :
    number? words negative (ds ++ (fractionText fs ++ (exponentText ex ++ rest))) =
      some (numberOf negative ds fs (exponentValue ex), rest) := by
  have hex := exponentText_not_digit ex hrest
  have hpoint : (exponentText ex ++ rest).head? ≠ some '.' := by
    rcases ex with _ | ⟨negative, es⟩
    · intro hc
      exact absurd (hrest '.' hc) (by decide)
    · exact nofun
  have hbehind : ∀ c ∈ (fractionText fs ++ (exponentText ex ++ rest)).head?, isAsciiDigit c = false := by
    rcases fs with _ | fs
    · exact hex
    · rintro c ⟨rfl⟩
      rfl
  have hne : ds.isEmpty = false := List.isEmpty_eq_false_iff.mpr h.whole.ne_nil
  unfold number?
  rw [digits_append h.whole.digits hbehind]
  simp only [hne, h.noLeadingZero, Bool.false_eq_true, if_false]
  rw [fraction?_text h.fraction hex hpoint]
  simp only
  rw [exponent?_text h.exponent hrest]

/-- The digits of a positive number do not begin with a zero. -/
theorem head?_toDigits {n : Nat} (hn : 0 < n) : (Nat.toDigits 10 n).head? ≠ some '0' := by
  induction n using Nat.strongRecOn with
  | ind n ih =>
    rcases Nat.lt_or_ge n 10 with hlt | hge
    · have hsmall : ∀ d < 10, 0 < d → Nat.digitChar d ≠ '0' := by decide
      rw [Nat.toDigits_of_lt_base hlt]
      exact fun h => hsmall n hlt hn (Option.some.inj h)
    · rw [Nat.toDigits_of_base_le (by decide) hge, List.head?_append_of_ne_nil _ Nat.toDigits_ne_nil]
      exact ih (n / 10) (by omega) (by omega)

theorem hasLeadingZero_of_head? {ds : List Char} (h : ds.head? ≠ some '0') :
    hasLeadingZero ds = false := by
  unfold hasLeadingZero
  split
  case h_1 => exact absurd rfl h
  case h_2 => rfl

theorem hasLeadingZero_toDigits (n : Nat) : hasLeadingZero (Nat.toDigits 10 n) = false := by
  rcases Nat.eq_zero_or_pos n with rfl | hn
  · rfl
  · exact hasLeadingZero_of_head? (head?_toDigits hn)

/-! ## Doubles -/

/-- **A text writes a positive number**, with a fraction or an exponent. -/
def Writes (t : List Char) (q : ℚ) : Prop :=
  ∃ ds fs ex, t = ds ++ (fractionText fs ++ exponentText ex) ∧ NumberText ds fs ex ∧
    (fs.isSome ∨ ex.isSome) ∧ 0 < natOfDigits 10 (ds ++ fs.getD []) ∧
    natOfDigits 10 (ds ++ fs.getD []) * 10 ^ ((exponentValue ex).getD 0 - (fs.getD []).length) = q

section

variable {ds : List Char} (hds : IsDigits ds) (hpos : 0 < natOfDigits 10 ds)
  (hlead : ds.head? ≠ some '0')
include hds hpos

/-- `0.00123` -/
theorem writes_small (k : Nat) : Writes ('0' :: '.' :: (List.replicate k '0' ++ ds))
    (natOfDigits 10 ds * 10 ^ (-((k + ds.length : Nat) : Int))) := by
  have hzeros : ∀ c ∈ List.replicate k '0' ++ ds, isAsciiDigit c = true := fun c hc =>
    (List.mem_append.mp hc).elim isAsciiDigit_of_mem_zeros (hds.digits c)
  have hvalue : natOfDigits 10 (['0'] ++ (List.replicate k '0' ++ ds)) = natOfDigits 10 ds := by
    rw [← natOfDigits_zeros 10 k ds]
    exact natOfDigits_zeros 10 1 _
  have hzero : IsDigits ['0'] := ⟨by simp, by simp [isAsciiDigit]⟩
  refine ⟨['0'], some (List.replicate k '0' ++ ds), none, ?_, ⟨hzero, rfl, ?_, nofun⟩, .inl rfl, ?_, ?_⟩
  · simp [fractionText, exponentText]
  · rintro f ⟨rfl⟩
    exact ⟨List.append_ne_nil_of_right_ne_nil _ hds.ne_nil, hzeros⟩
  · rw [Option.getD_some, hvalue]
    exact hpos
  · rw [Option.getD_some, hvalue]
    congr 2
    simp [exponentValue]

include hlead

/-- `12300.0` -/
theorem writes_whole (k : Nat) : Writes (ds ++ List.replicate k '0' ++ ['.', '0'])
    (natOfDigits 10 ds * 10 ^ (k : Int)) := by
  have hall : IsDigits (ds ++ List.replicate k '0') := hds.append fun c => isAsciiDigit_of_mem_zeros
  have hvalue : natOfDigits 10 (ds ++ List.replicate k '0' ++ ['0']) =
      natOfDigits 10 ds * 10 ^ k * 10 := by
    rw [← natOfDigits_append_zeros k hds.digits]
    exact natOfDigits_append_zeros 1 hall.digits
  have hhead : (ds ++ List.replicate k '0').head? ≠ some '0' := by
    rwa [List.head?_append_of_ne_nil _ hds.ne_nil]
  have hzero : IsDigits ['0'] := ⟨by simp, by simp [isAsciiDigit]⟩
  refine ⟨ds ++ List.replicate k '0', some ['0'], none, ?_,
    ⟨hall, hasLeadingZero_of_head? hhead, ?_, nofun⟩, .inl rfl, ?_, ?_⟩
  · simp [fractionText, exponentText]
  · rintro f ⟨rfl⟩
    exact hzero
  · rw [Option.getD_some, hvalue]
    positivity
  · rw [Option.getD_some, hvalue]
    have hten : (10 : ℚ) ^ (-1 : Int) = 1 / 10 := by norm_num
    simp only [exponentValue, Option.getD_none, List.length_singleton, Nat.cast_one, zero_sub, hten]
    push_cast
    rw [zpow_natCast]
    ring

/-- `123.45` -/
theorem writes_pointed {n : Nat} (hn : 0 < n) (hlt : n < ds.length) :
    Writes (ds.take n ++ '.' :: ds.drop n)
      (natOfDigits 10 ds * 10 ^ (-((ds.length - n : Nat) : Int))) := by
  have hfront : IsDigits (ds.take n) := by
    refine ⟨List.ne_nil_of_length_pos ?_, fun c hc => hds.digits c (List.mem_of_mem_take hc)⟩
    rw [List.length_take]
    omega
  have hback : IsDigits (ds.drop n) := by
    refine ⟨List.ne_nil_of_length_pos ?_, fun c hc => hds.digits c (List.mem_of_mem_drop hc)⟩
    rw [List.length_drop]
    omega
  have hhead : (ds.take n).head? ≠ some '0' := by
    rwa [List.head?_take, if_neg hn.ne']
  refine ⟨ds.take n, some (ds.drop n), none, ?_,
    ⟨hfront, hasLeadingZero_of_head? hhead, ?_, nofun⟩, .inl rfl, ?_, ?_⟩
  · simp [fractionText, exponentText]
  · rintro f ⟨rfl⟩
    exact hback
  · rw [Option.getD_some, List.take_append_drop]
    exact hpos
  · rw [Option.getD_some, List.take_append_drop]
    congr 2
    simp [exponentValue]

end

/-- `1.23e-05` -/
theorem writes_scientific {c : Char} {r es : List Char} (hds : IsDigits (c :: r))
    (hpos : 0 < natOfDigits 10 (c :: r)) (hlead : c ≠ '0') (negative : Bool) (hes : IsDigits es) :
    Writes ((match c :: r with
        | [] => []
        | [c] => [c]
        | c :: r => c :: '.' :: r) ++ ['e', if negative then '-' else '+'] ++ es)
      (natOfDigits 10 (c :: r) *
        10 ^ ((if negative then -(natOfDigits 10 es : Int) else natOfDigits 10 es) - r.length)) := by
  have hfirst : IsDigits [c] := by
    refine ⟨by simp, fun d hd => ?_⟩
    rw [List.mem_singleton.mp hd]
    exact hds.digits c List.mem_cons_self
  have hhead : hasLeadingZero [c] = false := hasLeadingZero_of_head? fun h => hlead (Option.some.inj h)
  have hexp : ∀ p ∈ some (negative, es), IsDigits p.2 := by
    rintro p ⟨rfl⟩
    exact hes
  rcases r with _ | ⟨d, r⟩
  · refine ⟨[c], none, some (negative, es), ?_, ⟨hfirst, hhead, nofun, hexp⟩, .inr rfl, hpos, rfl⟩
    simp [fractionText, exponentText]
  · refine ⟨[c], some (d :: r), some (negative, es), ?_, ⟨hfirst, hhead, ?_, hexp⟩, .inl rfl, hpos, rfl⟩
    · simp [fractionText, exponentText]
    · rintro f ⟨rfl⟩
      exact ⟨by simp, fun e he => hds.digits e (List.mem_cons_of_mem c he)⟩

/-- **A decimal's text** writes its value. -/
theorem writes_text {d : Binary64.Decimal} (hd : 0 < d.digits) : Writes d.text d.value := by
  obtain ⟨n, exponent⟩ := d
  have hds := toDigits_isDigits n
  have hread := natOfDigits_toDigits n
  have hlead := head?_toDigits hd
  unfold Binary64.Decimal.text Binary64.Decimal.value
  simp only
  generalize Nat.toDigits 10 n = ds at *
  subst hread
  -- The layouts: a point in front of the digits, behind them, or among them, and the one with an exponent.
  split
  case isTrue hplain =>
    split
    case isTrue hpoint =>
      have h := writes_small hds hd (-((ds.length : Int) + exponent)).toNat
      rwa [show -(((-((ds.length : Int) + exponent)).toNat + ds.length : Nat) : Int) = exponent by omega]
        at h
    case isFalse hpoint =>
      split
      case isTrue hwhole =>
        have h := writes_whole hds hd hlead ((ds.length : Int) + exponent - ds.length).toNat
        rwa [show (((ds.length : Int) + exponent - ds.length).toNat : Int) = exponent by omega] at h
      case isFalse hwhole =>
        have h := writes_pointed hds hd hlead (n := ((ds.length : Int) + exponent).toNat) (by omega)
          (by omega)
        rwa [show -((ds.length - ((ds.length : Int) + exponent).toNat : Nat) : Int) = exponent by omega]
          at h
  case isFalse hplain =>
    rcases ds with _ | ⟨c, r⟩
    · exact absurd rfl hds.ne_nil
    · -- the exponent, with a zero in front if it has one digit
      generalize he : (((c :: r).length : Nat) : Int) + exponent - 1 = e
      have hes := toDigits_isDigits e.natAbs
      have hpadded : IsDigits (List.replicate (2 - (Nat.toDigits 10 e.natAbs).length) '0' ++
          Nat.toDigits 10 e.natAbs) := by
        refine ⟨List.append_ne_nil_of_right_ne_nil _ hes.ne_nil, fun d hd => ?_⟩
        exact (List.mem_append.mp hd).elim isAsciiDigit_of_mem_zeros (hes.digits d)
      have h := writes_scientific hds hd (fun hc => hlead (hc ▸ rfl)) (e < 0) hpadded
      rw [natOfDigits_zeros, natOfDigits_toDigits] at h
      have hexp : (if decide (e < 0) = true then -(e.natAbs : Int) else e.natAbs) - r.length =
          exponent := by
        rw [List.length_cons] at he
        split <;> simp only [decide_eq_true_eq] at * <;> omega
      rw [hexp] at h
      simp only [List.append_assoc, decide_eq_true_eq] at h ⊢
      exact h

/-- A fraction or an exponent makes a number a double. -/
theorem numberOf_double (negative : Bool) (ds : List Char) {fs : Option (List Char)} {e : Option Int}
    (h : fs.isSome ∨ e.isSome) : numberOf negative ds fs e =
      .float (Binary64.ofDecimal negative (natOfDigits 10 (ds ++ fs.getD []))
        (e.getD 0 - (fs.getD []).length)) := by
  unfold numberOf
  split
  case h_1 => exact absurd h (by decide)
  case h_2 => rfl

theorem exponentValue_isSome {ex : Option (Bool × List Char)} (h : ex.isSome) :
    (exponentValue ex).isSome := by
  cases ex with
  | none => exact h
  | some p => rfl

/-- A positive number's text is read as the double nearest to the number. -/
theorem number?_of_writes {t : List Char} {q : ℚ} (h : Writes t q) :
    ∃ (digits : Nat) (exponent : Int), 0 < digits ∧ (digits : ℚ) * 10 ^ exponent = q ∧
      ∀ words negative rest, Stops rest → number? words negative (t ++ rest) =
        some (.float (Binary64.ofDecimal negative digits exponent), rest) := by
  obtain ⟨ds, fs, ex, rfl, hparts, hother, hdigits, hvalue⟩ := h
  refine ⟨_, _, hdigits, hvalue, fun words negative rest hrest => ?_⟩
  rw [List.append_assoc, List.append_assoc, number?_text words negative hparts hrest,
    numberOf_double negative ds (hother.imp_right exponentValue_isSome)]

/-- Zero is read as zero. -/
theorem number?_zero (words negative : Bool) {rest : List Char} (hrest : Stops rest) :
    number? words negative (['0', '.', '0'] ++ rest) = some (.float (Binary64.zero negative), rest) := by
  have hzero : IsDigits ['0'] := ⟨by simp, by simp [isAsciiDigit]⟩
  have hparts : NumberText ['0'] (some ['0']) none :=
    ⟨hzero, rfl, fun f hf => by cases hf; exact hzero, nofun⟩
  exact number?_text words negative hparts hrest

/-- **A whole number is read back** from its digits. -/
theorem number?_whole (words negative : Bool) (n : Nat) {rest : List Char} (hrest : Stops rest) :
    number? words negative (Nat.toDigits 10 n ++ rest) =
      some (.int (if negative then -(n : Int) else n), rest) := by
  have hparts : NumberText (Nat.toDigits 10 n) none none :=
    ⟨toDigits_isDigits n, hasLeadingZero_toDigits n, nofun, nofun⟩
  have h := number?_text words negative hparts hrest
  unfold exponentValue numberOf at h
  rw [natOfDigits_toDigits] at h
  exact h

end Json

end SecureStartup
