import SecureStartup.Log.JsonLine
import SecureStartup.Proofs.Json.Written

/-!
  What the numeric fields of a log line are converted to.

  1. **Program** — `JSONFormatter._ensure_type` makes `exit_code` a whole number (`int`) and `duration_ms`
     a double (`float`), of whatever value is there; one that makes no sense gives null, for it expects
     the value to be of a wrong type or no number.

  2. **What it does not expect** — each conversion has one kind of value that it fails for in another
     way: no whole number is the same as infinity (`toInteger_isOk_iff`), and no double is as large as some
     whole numbers (`toDouble_isOk_iff`).

  3. **Everything else** becomes a number that can be written, unless it was a whole number too long for
     that (`toInteger_plain`, `toDouble_plain`).  A number that is read from a text is not too long, since
     there is a limit for reading, too (`isShort_of_readInt?`).
-/

namespace SecureStartup

open Json (IsShort HasForm AllFinite IsPlain)
open Value (throughout_of_isAtom)

/-! ## Numbers that are read -/

namespace Number

theorem moreDigits_lt (s : List Char) : ∀ d ∈ (moreDigits s).1, d < 10 := by
  fun_induction moreDigits s with
  | case1 => exact nofun
  | case2 c d h => exact List.forall_mem_singleton.mpr (Text.digitValue?_lt h)
  | case3 => exact nofun
  | case4 c c' r d h ds rest hmore ih =>
    rw [hmore] at ih
    exact List.forall_mem_cons.mpr ⟨Text.digitValue?_lt h, ih⟩
  | case5 c c' r d h hc h' ds rest hmore ih =>
    rw [hmore] at ih
    exact List.forall_mem_cons.mpr ⟨Text.digitValue?_lt (by assumption), ih⟩
  | case6 => exact nofun

theorem digitRun?_lt {s : List Char} {p : List Nat × List Char} (h : digitRun? s = some p) :
    ∀ d ∈ p.1, d < 10 := by
  rcases s with _ | ⟨c, r⟩
  · exact nomatch h
  · obtain ⟨d, hd, rfl⟩ := Option.map_eq_some_iff.mp h
    exact List.forall_mem_cons.mpr ⟨Text.digitValue?_lt hd, moreDigits_lt r⟩

/-- A number has no more digits than it is written with. -/
theorem natOfValues_lt {ds : List Nat} (h : ∀ d ∈ ds, d < 10) : natOfValues ds < 10 ^ ds.length := by
  have hfold : ∀ (ds : List Nat) (acc k : Nat), (∀ d ∈ ds, d < 10) → acc < 10 ^ k →
      ds.foldl (fun acc d => acc * 10 + d) acc < 10 ^ (k + ds.length) := by
    intro ds
    induction ds with
    | nil => exact fun acc k _ hacc => hacc
    | cons d ds ih =>
      intro acc k hds hacc
      obtain ⟨hd, hds⟩ := List.forall_mem_cons.mp hds
      have hnext : acc * 10 + d < 10 ^ (k + 1) := by
        rw [pow_succ]
        omega
      rw [List.foldl_cons, List.length_cons, Nat.add_comm ds.length, ← Nat.add_assoc]
      exact ih _ (k + 1) hds hnext
  have hlt := hfold ds 0 0 h Nat.one_pos
  rwa [Nat.zero_add] at hlt

theorem isShort_of_lt {i : Int} {k : Nat} (hk : k ≤ maxDigits) (h : i.natAbs < 10 ^ k) : IsShort i := by
  unfold IsShort Value.numberBound
  generalize maxDigits = d at hk
  exact Nat.lt_of_lt_of_le h (Nat.pow_le_pow_right (by decide) hk)

/-- **A number that is read is not too long.** -/
theorem isShort_of_readInt? {s : String} {i : Int} (h : readInt? s = some i) : IsShort i := by
  unfold readInt? at h
  simp only at h
  split at h
  case h_1 ds hrun =>
    split at h
    · exact nomatch h
    · next hlong =>
      have hlt := natOfValues_lt (digitRun?_lt hrun)
      refine isShort_of_lt (Nat.not_lt.mp hlong) (Nat.lt_of_le_of_lt (Nat.le_of_eq ?_) hlt)
      rw [← Option.some.inj h]
      split <;> simp
  case h_2 => exact nomatch h

/-- A double that is read has the form of one. -/
theorem canonical_of_readFloat? {s : String} {x : Binary64} (h : readFloat? s = some x) :
    x.IsCanonical := by
  unfold readFloat? at h
  simp only at h
  split at h
  · obtain rfl := Option.some.inj h
    trivial
  · split at h
    · obtain rfl := Option.some.inj h
      trivial
    · split at h
      · split at h
        · obtain rfl := Option.some.inj h
          exact Binary64.ofDecimal_canonical _ _ _
        · exact nomatch h
      · exact nomatch h

end Number

namespace Binary64

theorem natAbs_truncate?_le {negative : Bool} {m : Nat} {e i : Int}
    (h : (finite negative m e).truncate? = some i) : i.natAbs ≤ m * 2 ^ e.toNat := by
  have hsign : ∀ k d : Nat, ((if negative = true then -(k : Int) else k).tdiv d).natAbs ≤ k := by
    intro k d
    rw [Int.natAbs_tdiv]
    refine Nat.le_trans (Nat.div_le_self _ _) ?_
    split <;> omega
  unfold truncate? ratio? at h
  rcases Int.lt_or_le e 0 with he | he
  · simp only [if_neg (Int.not_le.mpr he), Option.map_some, Option.some.injEq] at h
    rw [← h]
    exact Nat.le_trans (hsign _ _) (Nat.le_mul_of_pos_right m (Nat.pow_pos (by decide)))
  · simp only [if_pos he, Option.map_some, Option.some.injEq] at h
    rw [← h]
    exact hsign _ _

/-- The whole part of a double is not too long. -/
theorem isShort_of_truncate? {x : Binary64} (hx : x.IsCanonical) {i : Int}
    (h : x.truncate? = some i) : IsShort i := by
  cases x with
  | nan => exact nomatch h
  | infinite => exact nomatch h
  | finite negative m e =>
    have hdouble : IsDouble m e := hx
    obtain ⟨k, hk, hexp⟩ : ∃ k, k ≤ Number.maxDigits ∧ 53 + e.toNat ≤ 3 * k := by
      have hmost : e ≤ 971 := hdouble.most
      exact ⟨342, by decide, by omega⟩
    have hlt : i.natAbs < 10 ^ k := by
      calc i.natAbs ≤ m * 2 ^ e.toNat := natAbs_truncate?_le h
        _ < 2 ^ 53 * 2 ^ e.toNat :=
          Nat.mul_lt_mul_of_pos_right hdouble.bits (Nat.pow_pos (by decide))
        _ = 2 ^ (53 + e.toNat) := (pow_add 2 53 _).symm
        _ ≤ 2 ^ (3 * k) := Nat.pow_le_pow_right (by decide) hexp
        _ = (2 ^ 3) ^ k := pow_mul 2 3 k
        _ ≤ 10 ^ k := Nat.pow_le_pow_left (by decide) k
    exact Number.isShort_of_lt hk hlt

theorem ofInt?_canonical {i : Int} {x : Binary64} (h : ofInt? i = some x) : x.IsCanonical := by
  have hratio := ofRatio_canonical (decide (i < 0)) i.natAbs Nat.one_pos
  unfold ofInt? at h
  split at h
  · exact nomatch h
  · obtain rfl := Option.some.inj h
    exact hratio

end Binary64

namespace Log

/-! ## Whole numbers -/

/-- **Only infinity is no whole number.** -/
theorem toInteger_isOk_iff {v : Value} :
    (∃ w, toInteger v = .ok w) ↔ ∀ negative, v ≠ .float (.infinite negative) := by
  cases v with
  | float x =>
    cases x with
    | infinite negative =>
      refine ⟨?_, fun h => absurd rfl (h negative)⟩
      rintro ⟨w, h⟩
      exact nomatch h
    | nan => exact ⟨fun _ => nofun, fun _ => ⟨_, rfl⟩⟩
    | finite s m e => exact ⟨fun _ => nofun, fun _ => ⟨_, rfl⟩⟩
  | _ => exact ⟨fun _ => nofun, fun _ => ⟨_, rfl⟩⟩

theorem toInteger_error {v : Value} {e : Failure} (h : toInteger v = .error e) :
    e = .mismatch .outOfRange := by
  cases v with
  | float x =>
    cases x with
    | infinite negative => exact (Except.error.inj h).symm
    | nan => exact nomatch h
    | finite s m e => exact nomatch h
  | _ => exact nomatch h

/-- What a value is converted to: a number, which is the value itself or not too long, or null. -/
theorem toInteger_cases {v w : Value} (h : toInteger v = .ok w)
    (hcanonical : ∀ x, v = .float x → x.IsCanonical) :
    w = .none ∨ ∃ i, w = .int i ∧ (v = .int i ∨ IsShort i) := by
  have hoption : ∀ o : Option Int, (∀ i, o = some i → v = .int i ∨ IsShort i) →
      w = (o.map Value.int).getD .none → w = .none ∨ ∃ i, w = .int i ∧ (v = .int i ∨ IsShort i) := by
    intro o ho hw
    cases o with
    | none => exact .inl hw
    | some i => exact .inr ⟨i, hw, ho i rfl⟩
  cases v with
  | int i => exact .inr ⟨i, (Except.ok.inj h).symm, .inl rfl⟩
  | bool b =>
    refine .inr ⟨_, (Except.ok.inj h).symm, .inr ?_⟩
    cases b <;> exact Number.isShort_of_lt (k := 1) (by decide) (by decide)
  | float x =>
    have hx := hcanonical x rfl
    have htruncate : ∀ i, x.truncate? = some i → Value.float x = .int i ∨ IsShort i :=
      fun i hi => .inr (Binary64.isShort_of_truncate? hx hi)
    cases x with
    | infinite negative => exact nomatch h
    | nan => exact hoption _ htruncate (Except.ok.inj h).symm
    | finite s m e => exact hoption _ htruncate (Except.ok.inj h).symm
  | str s =>
    exact hoption _ (fun i hi => .inr (Number.isShort_of_readInt? hi)) (Except.ok.inj h).symm
  | bytes bs =>
    refine hoption _ (fun i hi => .inr ?_) (Except.ok.inj h).symm
    obtain ⟨s, -, hs⟩ := Option.bind_eq_some_iff.mp hi
    exact Number.isShort_of_readInt? hs
  | _ => exact .inl (Except.ok.inj h).symm

section

variable {v w : Value} (h : toInteger v = .ok w) (hcanonical : ∀ x, v = .float x → x.IsCanonical)
include h hcanonical

/-- **A whole number that a value is converted to is not too long**, or was so before. -/
theorem toInteger_plain (hshort : ∀ i, v = .int i → IsShort i) : IsPlain w := by
  rcases toInteger_cases h hcanonical with rfl | ⟨i, rfl, hi⟩
  · exact Json.isPlain_none
  · exact (throughout_of_isAtom rfl).mpr (hi.elim (hshort i) id)

/-- The converted number has a form exactly if the value was not a number too long. -/
theorem toInteger_hasForm_iff : HasForm w ↔ ∀ i, v = .int i → IsShort i := by
  refine ⟨fun hw i hi => ?_, fun hshort => (toInteger_plain h hcanonical hshort).hasForm⟩
  subst hi
  obtain rfl := Except.ok.inj h
  exact hw.own

/-- A whole number is finite. -/
theorem toInteger_allFinite : AllFinite w := by
  rcases toInteger_cases h hcanonical with rfl | ⟨i, rfl, -⟩ <;>
    exact (throughout_of_isAtom rfl).mpr trivial

end

/-! ## Doubles -/

theorem toDouble_some {i : Int} {x : Binary64} (h : Binary64.ofInt? i = some x) :
    toDouble (.int i) = .ok (.float x) := by
  unfold toDouble
  simp only [h]

theorem toDouble_none {i : Int} (h : Binary64.ofInt? i = none) :
    toDouble (.int i) = .error (.mismatch .outOfRange) := by
  unfold toDouble
  simp only [h]

/-- **Only whole numbers beyond all doubles are no double.** -/
theorem toDouble_isOk_iff {v : Value} :
    (∃ w, toDouble v = .ok w) ↔ ∀ i, v = .int i → i.natAbs < 2 ^ 1024 - 2 ^ 970 := by
  cases v with
  | int i =>
    have hint : (∃ w, toDouble (.int i) = .ok w) ↔ ¬ Binary64.ofInt? i = none := by
      rcases hx : Binary64.ofInt? i with _ | x
      · rw [toDouble_none hx]
        simp
      · rw [toDouble_some hx]
        simp
    rw [hint, Binary64.ofInt?_eq_none_iff, Nat.not_le]
    exact ⟨fun h j hj => Value.int.inj hj ▸ h, fun h => h i rfl⟩
  | _ => exact ⟨fun _ => nofun, fun _ => ⟨_, rfl⟩⟩

theorem toDouble_error {v : Value} {e : Failure} (h : toDouble v = .error e) :
    e = .mismatch .outOfRange := by
  cases v with
  | int i =>
    rcases hx : Binary64.ofInt? i with _ | x
    · rw [toDouble_none hx] at h
      exact (Except.error.inj h).symm
    · rw [toDouble_some hx] at h
      exact nomatch h
  | _ => exact nomatch h

/-- What a value is converted to: a double, which is the value itself or has the form of one, or
    null. -/
theorem toDouble_cases {v w : Value} (h : toDouble v = .ok w) :
    w = .none ∨ ∃ x : Binary64, w = .float x ∧ (v = .float x ∨ x.IsCanonical) := by
  have hoption : ∀ o : Option Binary64, (∀ x, o = some x → x.IsCanonical) →
      w = (o.map Value.float).getD .none →
      w = .none ∨ ∃ x : Binary64, w = .float x ∧ (v = .float x ∨ x.IsCanonical) := by
    intro o ho hw
    cases o with
    | none => exact .inl hw
    | some x => exact .inr ⟨x, hw, .inr (ho x rfl)⟩
  cases v with
  | float x => exact .inr ⟨x, (Except.ok.inj h).symm, .inl rfl⟩
  | int i =>
    rcases hx : Binary64.ofInt? i with _ | x
    · rw [toDouble_none hx] at h
      exact nomatch h
    · rw [toDouble_some hx] at h
      exact .inr ⟨x, (Except.ok.inj h).symm, .inr (Binary64.ofInt?_canonical hx)⟩
  | bool b =>
    exact .inr ⟨_, (Except.ok.inj h).symm, .inr (Binary64.ofRatio_canonical false _ Nat.one_pos)⟩
  | str s =>
    exact hoption _ (fun x hx => Number.canonical_of_readFloat? hx) (Except.ok.inj h).symm
  | bytes bs =>
    refine hoption _ (fun x hx => ?_) (Except.ok.inj h).symm
    obtain ⟨s, -, hs⟩ := Option.bind_eq_some_iff.mp hx
    exact Number.canonical_of_readFloat? hs
  | _ => exact .inl (Except.ok.inj h).symm

section

variable {v w : Value} (h : toDouble v = .ok w)
include h

/-- Every double can be written. -/
theorem toDouble_hasForm : HasForm w := by
  rcases toDouble_cases h with rfl | ⟨x, rfl, -⟩ <;> exact (throughout_of_isAtom rfl).mpr trivial

/-- **A finite double** is one that JSON has itself. -/
theorem toDouble_plain (hcanonical : ∀ x, v = .float x → x.IsCanonical) (hfinite : AllFinite w) :
    IsPlain w := by
  rcases toDouble_cases h with rfl | ⟨x, rfl, hx⟩
  · exact Json.isPlain_none
  · exact (throughout_of_isAtom rfl).mpr ⟨hfinite.own, hx.elim (hcanonical x) id⟩

end

end Log

end SecureStartup
