import SecureStartup.Proofs.Json.Strings

/-!
  Strings in ASCII are read back.

  Program: `json.dumps` escapes everything outside of ASCII unless it is told not to; the lines of the
  log are written without (`ensure_ascii=False`), the documents of the tool and the answers of start-up
  with it.

  What is outside of ASCII is written by its units, and so is half of a surrogate pair.  A half is read
  together with the other one if that stands behind it.  So what comes back are the codes of the text
  in which such halves are joined (`paired`), and nothing else is changed (`stringTail?_escaped`).

  `stringTail?_quoted` covers both ways of writing a string.
-/

namespace SecureStartup.Json

open SecureStartup.Text

/-- **Codes as they come back from units**: two halves that form a pair are joined. -/
def paired : List Nat → List Nat
  | [] => []
  | [n] => [n]
  | a :: b :: ns =>
    match pairCode? a b with
    | some n => n :: paired ns
    | none => a :: paired (b :: ns)

/-- The codes that are read of a string. -/
def returned (ascii : Bool) (ns : List Nat) : List Nat := if ascii then paired ns else ns

/-- What a string is read as: the text that its codes spell as they come back. -/
def respelled (ascii : Bool) (s : List Char) : Value :=
  .str (String.ofList ((returned ascii (codes s)).flatMap spell))

/-- Codes in front of all halves form no pairs. -/
theorem paired_of_lt {ns : List Nat} (h : ∀ n ∈ ns, n < 0xd800) : paired ns = ns := by
  fun_induction paired ns with
  | case1 => rfl
  | case2 n => rfl
  | case3 a b ns n hpair ih =>
    have ha := h a List.mem_cons_self
    have hhigh := (pairCode?_eq_some.mp hpair).1.1
    omega
  | case4 a b ns hpair ih =>
    obtain ⟨-, hns⟩ := List.forall_mem_cons.mp h
    rw [ih hns]

/-! ## Units -/

section

variable (t : List Char)

/-- **A unit behind another one** forms a pair with it, or stays where it is. -/
theorem unitCode_unitText (a : Nat) {b : Nat} (hb : b < 0x10000) :
    unitCode a (unitText b ++ t) = (pairCode? a b).elim (a, unitText b ++ t) fun n => (n, t) := by
  show ((unit? (paddedHex 4 b ++ t)).bind fun p => (pairCode? a p.1).map fun n => (n, p.2)).getD
    (a, unitText b ++ t) = _
  rw [unit?_paddedHex t hb]
  show ((pairCode? a b).map fun n => (n, t)).getD (a, unitText b ++ t) = _
  cases pairCode? a b <;> rfl

/-- Where there is no unit, nothing is joined. -/
theorem unitCode_of_no_unit (a : Nat) {s : List Char} (h : ∀ r, s ≠ '\\' :: 'u' :: r) :
    unitCode a s = (a, s) := by
  unfold unitCode
  split
  case h_1 r => exact absurd rfl (h r)
  case h_2 => rfl

/-- **A code that forms no pair** with the one in front of it is not joined to it. -/
theorem unitCode_letterText {a n : Nat} (hn : n < 0x110000) (h : pairCode? a n = none) :
    unitCode a (letterText true n ++ t) = (a, letterText true n ++ t) := by
  rcases letterText_cases true hn with ⟨c, e, -, htext, -, hne⟩ | ⟨htext, -⟩ | ⟨htext, -, hplain⟩
  · rw [htext]
    refine unitCode_of_no_unit a fun r hr => hne ?_
    exact (List.cons.inj (List.cons.inj hr).2).1
  · rw [htext]
    unfold codeText
    split
    case isTrue hsmall => rw [unitCode_unitText t a hsmall, h, Option.elim_none]
    case isFalse =>
      -- what stands in front is the first half of this code, which is second to nothing
      have hhigh : pairCode? a (0xd800 + (n - 0x10000) / 0x400) = none :=
        pairCode?_eq_none.mpr (by omega)
      rw [List.append_assoc, unitCode_unitText _ a (by omega), hhigh, Option.elim_none]
  · rw [htext]
    refine unitCode_of_no_unit a fun r hr => ?_
    rcases hspell : spell n with _ | ⟨c, cs⟩
    · exact spell_ne_nil hn hspell
    · rw [hspell] at hr hplain
      exact (hplain c List.mem_cons_self).2.1 (List.cons.inj hr).1

end

/-! ## Reading codes back -/

section

variable (f : Nat) (t : List Char)

/-- A code by its units: one that is alone, or a pair of its own. -/
theorem stringTail?_codeText {n : Nat} (hn : n < 0x110000) (hlone : unitCode n t = (n, t)) :
    stringTail? (f + 1) (codeText n ++ t) = (stringTail? f t).map fun p => (spell n ++ p.1, p.2) := by
  unfold codeText
  split
  case isTrue hsmall => rw [stringTail?_unit f t hsmall, hlone]
  case isFalse hlarge =>
    have hpair : pairCode? (0xd800 + (n - 0x10000) / 0x400) (0xdc00 + (n - 0x10000) % 0x400) =
        some n := pairCode?_eq_some.mpr ⟨by omega, by omega⟩
    rw [List.append_assoc, stringTail?_unit f _ (by omega), unitCode_unitText t _ (by omega), hpair,
      Option.elim_some]

/-- **A code is read back** if it is not joined to what stands behind it. -/
theorem stringTail?_lone {n : Nat} (hn : n < 0x110000) (hlone : unitCode n t = (n, t)) :
    stringTail? (f + 1) (letterText true n ++ t) =
      (stringTail? f t).map fun p => (spell n ++ p.1, p.2) := by
  rcases letterText_cases true hn with ⟨c, e, hspell, htext, he, hne⟩ | ⟨htext, -⟩ |
      ⟨htext, hone, hplain⟩
  · rw [hspell, htext]
    exact stringTail?_escape f t he hne
  · rw [htext]
    exact stringTail?_codeText f t hn hlone
  · have hraws := stringTail?_raws f t hplain
    rw [hone rfl] at hraws
    rw [htext, hraws]

/-- Half of a pair is written by its unit. -/
theorem letterText_half {n : Nat} (h : 0xd800 ≤ n ∧ n < 0xe000) : letterText true n = unitText n := by
  have hhalf : (isHalf n || n == 0xffff) = true := by
    simp only [isHalf, Bool.or_eq_true, Bool.and_eq_true, decide_eq_true_eq]
    exact .inl h
  have hsmall : n < 0x10000 := by omega
  unfold letterText spell
  rw [if_pos hhalf]
  show codeText n = unitText n
  exact if_pos hsmall

/-- Two halves that form a pair are read as one code. -/
theorem stringTail?_pair {a b n : Nat} (h : pairCode? a b = some n) :
    stringTail? (f + 1) (letterText true a ++ (letterText true b ++ t)) =
      (stringTail? f t).map fun p => (spell n ++ p.1, p.2) := by
  obtain ⟨hbounds, -⟩ := pairCode?_eq_some.mp h
  rw [letterText_half (by omega), letterText_half (by omega), stringTail?_unit f _ (by omega),
    unitCode_unitText t a (by omega), h, Option.elim_some]

end

/-- **A string's codes are read back in ASCII**, pairs joined.  By induction as pairs are joined, with
    as much fuel as there is text. -/
theorem stringTail?_escaped {ns : List Nat} (hns : ∀ n ∈ ns, n < 0x110000) (t : List Char) {k : Nat}
    (hk : (ns.flatMap (letterText true)).length < k) :
    stringTail? k (ns.flatMap (letterText true) ++ '"' :: t) =
      some ((paired ns).flatMap spell, t) := by
  -- a code takes one unit of fuel and at least one character
  have hletter : ∀ {n}, n < 0x110000 → 0 < (letterText true n).length := fun hn =>
    List.length_pos_iff.mpr (letterText_ne_nil true hn)
  obtain ⟨f, rfl⟩ : ∃ f, k = f + 1 := ⟨k - 1, by omega⟩
  fun_induction paired ns generalizing f with
  | case1 => rfl
  | case2 n =>
    have hn := hns n List.mem_cons_self
    have hlone : unitCode n ('"' :: t) = (n, '"' :: t) := unitCode_of_no_unit n fun r => nofun
    rw [List.flatMap_singleton] at hk
    obtain ⟨g, rfl⟩ : ∃ g, f = g + 1 := ⟨f - 1, by have := hletter hn; omega⟩
    rw [List.flatMap_singleton, stringTail?_lone _ _ hn hlone, List.flatMap_singleton]
    show some (spell n ++ [], t) = _
    rw [List.append_nil]
  | case3 a b ns n hpair ih =>
    obtain ⟨ha, hb, hns⟩ : a < 0x110000 ∧ b < 0x110000 ∧ ∀ n ∈ ns, n < 0x110000 := by
      simpa using hns
    have hone := hletter ha
    have htwo := hletter hb
    simp only [List.flatMap_cons, List.length_append] at hk
    obtain ⟨g, rfl⟩ : ∃ g, f = g + 1 := ⟨f - 1, by omega⟩
    rw [List.flatMap_cons, List.flatMap_cons, List.append_assoc, List.append_assoc,
      stringTail?_pair _ _ hpair, ih hns g (by omega)]
    rfl
  | case4 a b ns hpair ih =>
    obtain ⟨ha, hns⟩ := List.forall_mem_cons.mp hns
    have hb := hns b List.mem_cons_self
    have hone := hletter ha
    rw [List.flatMap_cons, List.length_append] at hk
    obtain ⟨g, rfl⟩ : ∃ g, f = g + 1 := ⟨f - 1, by omega⟩
    have hlone := unitCode_letterText (ns.flatMap (letterText true) ++ '"' :: t) hb hpair
    rw [← List.append_assoc, ← List.flatMap_cons] at hlone
    rw [List.flatMap_cons, List.append_assoc, stringTail?_lone _ _ ha hlone, ih hns g (by omega)]
    rfl

/-- **A string is read back**, in ASCII or not, up to the closing quote. -/
theorem stringTail?_quoted (ascii : Bool) (s rest : List Char) :
    stringTail? (((codes s).flatMap (letterText ascii) ++ '"' :: rest).length + 1)
        ((codes s).flatMap (letterText ascii) ++ '"' :: rest) =
      some ((returned ascii (codes s)).flatMap spell, rest) := by
  cases ascii with
  | false => exact stringTail?_spelled s rest
  | true =>
    refine stringTail?_escaped lt_of_mem_codes rest ?_
    rw [List.length_append]
    omega

end SecureStartup.Json
