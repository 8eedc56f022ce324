import SecureStartup.Json.Reader
import SecureStartup.Json.Writer
import SecureStartup.Proofs.Text.Digits
import SecureStartup.Proofs.Text.Spelled

/-!
  Strings are read back as they were written.

  A string is written code by code.  A quote, a backslash and the control characters are escaped, by a
  letter where there is one and by their code else; in ASCII everything outside of it is escaped, too.

  1. **Reading** — where all characters may stand every code is read back alone, whatever stands behind
     it (`stringTail?_letter`): an escape is read as the code that it stands for, and everything else as it
     is.

  2. **One line** — nothing that is written is a line break, in ASCII or not (`quote_oneLine`).  So a line
     of a log stays one line, whatever its texts hold.
-/

namespace SecureStartup

namespace Text

/-- A text without line breaks. -/
def OneLine (s : List Char) : Prop := ∀ c ∈ s, c ≠ '\n' ∧ c ≠ '\r'

theorem OneLine.append {s t : List Char} (hs : OneLine s) (ht : OneLine t) : OneLine (s ++ t) := by
  intro c hc
  rcases List.mem_append.mp hc with h | h
  · exact hs c h
  · exact ht c h

theorem oneLine_nil : OneLine [] := nofun

/-- A text with no line break among its characters. -/
theorem oneLine_of_all {t : List Char} (h : (t.all fun c => c != '\n' && c != '\r') = true) :
    OneLine t := by
  intro c hc
  simpa using List.all_eq_true.mp h c hc

theorem OneLine.cons {c : Char} {s : List Char} (hc : c ≠ '\n' ∧ c ≠ '\r') (hs : OneLine s) :
    OneLine (c :: s) := List.forall_mem_cons.mpr ⟨hc, hs⟩

theorem IsHexDigit.notBreak {c : Char} (h : IsHexDigit c) : c ≠ '\n' ∧ c ≠ '\r' := by
  constructor <;> rintro rfl <;> exact absurd h (by decide)

end Text

namespace Json

open SecureStartup.Text

/-! ## Writing one character -/

/-- A control character's code is spelled by it alone. -/
theorem length_spell_control {n : Nat} (hn : n < 32) : (spell n).length = 1 := by
  have hchar : (Char.ofNat n).toNat = n := toNat_ofNat (.inl (by omega))
  have husual : IsUsual (Char.ofNat n) := by
    unfold IsUsual
    omega
  rw [← hchar, husual.spell_eq]
  rfl

/-- **One character**: escaped by letter, escaped by code, or as it is. -/
theorem charText_cases (ascii : Bool) (c : Char) :
    (∃ e, charText ascii c = ['\\', e] ∧ escape? e = some c ∧ e ≠ 'u') ∨
      (charText ascii c = codeText c.toNat ∧ (c.toNat < 32 ∨ ascii = true)) ∨
      (charText ascii c = [c] ∧ c ≠ '"' ∧ c ≠ '\\' ∧ 32 ≤ c.toNat) := by
  unfold charText
  split
  case isTrue h =>
    rcases (Bool.or_eq_true _ _).mp h with h | h <;> rw [beq_iff_eq.mp h]
    · exact .inl ⟨_, rfl, rfl, by decide⟩
    · exact .inl ⟨_, rfl, rfl, by decide⟩
  case isFalse hplain =>
    obtain ⟨hquote, hback⟩ : c ≠ '"' ∧ c ≠ '\\' := by simpa using hplain
    -- By the letters that there are escapes for, in their order.
    split
    case isTrue h => exact .inl ⟨_, rfl, by rw [beq_iff_eq.mp h]; rfl, by decide⟩
    split
    case isTrue h => exact .inl ⟨_, rfl, by rw [beq_iff_eq.mp h]; rfl, by decide⟩
    split
    case isTrue h => exact .inl ⟨_, rfl, by rw [beq_iff_eq.mp h]; rfl, by decide⟩
    split
    case isTrue h =>
      have hc : c = Char.ofNat 12 := by rw [← beq_iff_eq.mp h, Char.ofNat_toNat]
      exact .inl ⟨_, rfl, by rw [hc]; rfl, by decide⟩
    split
    case isTrue h =>
      have hc : c = Char.ofNat 8 := by rw [← beq_iff_eq.mp h, Char.ofNat_toNat]
      exact .inl ⟨_, rfl, by rw [hc]; rfl, by decide⟩
    split
    case isTrue h =>
      refine .inr (.inl ⟨rfl, ?_⟩)
      rcases (Bool.or_eq_true _ _).mp h with hcontrol | hfar
      · exact .inl (of_decide_eq_true hcontrol)
      · exact .inr ((Bool.and_eq_true _ _).mp hfar).1
    case isFalse h =>
      have hcontrol : 32 ≤ c.toNat := by
        have hnot := (not_or.mp fun hor => h ((Bool.or_eq_true _ _).mpr hor)).1
        simpa using hnot
      exact .inr (.inr ⟨rfl, hquote, hback, hcontrol⟩)

/-- **One code**: escaped by letter, escaped by code, or as it is spelled. -/
theorem letterText_cases (ascii : Bool) {n : Nat} (hn : n < 0x110000) :
    (∃ c e, spell n = [c] ∧ letterText ascii n = ['\\', e] ∧ escape? e = some c ∧ e ≠ 'u') ∨
      (letterText ascii n = codeText n ∧ (n < 32 ∨ ascii = true)) ∨
      (letterText ascii n = spell n ∧ (ascii = true → (spell n).length = 1) ∧
        ∀ c ∈ spell n, c ≠ '"' ∧ c ≠ '\\' ∧ 32 ≤ c.toNat) := by
  unfold letterText
  rcases spell_cases hn with ⟨c, hc, -, hvalue⟩ | ⟨c, hc, hfar⟩
  · rw [hc, ← hvalue]
    show (∃ c' e, [c] = [c'] ∧ charText ascii c = ['\\', e] ∧ _) ∨ (charText ascii c = _ ∧ _) ∨
      charText ascii c = [c] ∧ _
    rcases charText_cases ascii c with ⟨e, htext, he, hne⟩ | hcode | ⟨htext, hplain⟩
    · exact .inl ⟨c, e, rfl, htext, he, hne⟩
    · exact .inr (.inl hcode)
    · exact .inr (.inr ⟨htext, fun _ => rfl, List.forall_mem_singleton.mpr hplain⟩)
  · rw [hc]
    cases ascii with
    | true => exact .inr (.inl ⟨rfl, .inr rfl⟩)
    | false =>
      -- the mark and what follows it stand for themselves
      have hbound : 0x100000 ≤ c.toNat := hfar
      refine .inr (.inr ⟨rfl, nofun, List.forall_mem_cons.mpr ⟨by decide, ?_⟩⟩)
      refine List.forall_mem_singleton.mpr ⟨?_, ?_, by omega⟩
      · rintro rfl
        exact absurd hbound (by decide)
      · rintro rfl
        exact absurd hbound (by decide)

theorem spell_ne_nil {n : Nat} (hn : n < 0x110000) : spell n ≠ [] := by
  rcases spell_cases hn with ⟨c, hc, -⟩ | ⟨c, hc, -⟩ <;> rw [hc] <;> exact nofun

/-! ## Reading one code -/

section

variable (f : Nat) (t : List Char)

/-- A character that stands for itself. -/
theorem stringTail?_raw {c : Char} (hquote : c ≠ '"') (hback : c ≠ '\\') (hcontrol : 32 ≤ c.toNat) :
    stringTail? (f + 1) (c :: t) = (stringTail? f t).map fun p => (c :: p.1, p.2) := by
  rw [stringTail?.eq_def]
  simp only
  rw [if_neg (by simpa using hquote), if_neg (by simpa using hback), if_neg (Nat.not_lt.mpr hcontrol)]
  cases stringTail? f t <;> rfl

/-- Characters that stand for themselves. -/
theorem stringTail?_raws {cs : List Char} (h : ∀ c ∈ cs, c ≠ '"' ∧ c ≠ '\\' ∧ 32 ≤ c.toNat) :
    stringTail? (f + cs.length) (cs ++ t) = (stringTail? f t).map fun p => (cs ++ p.1, p.2) := by
  induction cs with
  | nil => cases h : stringTail? f t <;> simp [h]
  | cons c cs ih =>
    obtain ⟨⟨hquote, hback, hcontrol⟩, hcs⟩ := List.forall_mem_cons.mp h
    show stringTail? (f + cs.length + 1) (c :: (cs ++ t)) = _
    rw [stringTail?_raw _ _ hquote hback hcontrol, ih hcs]
    cases stringTail? f t <;> rfl

/-- A letter escape. -/
theorem stringTail?_escape {e c : Char} (he : escape? e = some c) (hne : e ≠ 'u') :
    stringTail? (f + 1) ('\\' :: e :: t) = (stringTail? f t).map fun p => (c :: p.1, p.2) := by
  rw [stringTail?.eq_def]
  simp only
  rw [if_neg (by decide), if_pos (by decide)]
  rw [he]
  cases stringTail? f t <;> rfl

theorem isHex_of_isHexDigit {c : Char} (h : IsHexDigit c) : isHex c = true := by
  unfold isHex
  rcases h with h | ⟨hlow, hhigh⟩
  · rw [h]
    rfl
  · rw [decide_eq_true hlow, decide_eq_true hhigh]
    simp

/-- **A unit is read back** from its four digits. -/
theorem unit?_paddedHex {n : Nat} (hn : n < 0x10000) : unit? (paddedHex 4 n ++ t) = some (n, t) := by
  obtain ⟨a, b, c, d, hfour, hvalue, hdigits⟩ := paddedHex_four hn
  have hhex : [a, b, c, d].all isHex = true :=
    List.all_eq_true.mpr fun x hx => isHex_of_isHexDigit (hdigits x hx)
  rw [hfour]
  show (if [a, b, c, d].all isHex then some (natOfDigits 16 [a, b, c, d], t) else none) = _
  rw [if_pos hhex, hvalue]

/-- **An escape by code**: the unit may be half of a pair with the one behind it. -/
theorem stringTail?_unit {n : Nat} (hn : n < 0x10000) :
    stringTail? (f + 1) (unitText n ++ t) =
      (stringTail? f (unitCode n t).2).map fun p => (spell (unitCode n t).1 ++ p.1, p.2) := by
  show stringTail? (f + 1) ('\\' :: 'u' :: (paddedHex 4 n ++ t)) = _
  rw [stringTail?.eq_def]
  simp only
  rw [if_neg (by decide), if_pos (by decide)]
  simp only [unit?_paddedHex t hn, Option.bind_eq_bind, Option.bind_some]
  cases stringTail? f (unitCode n t).2 <;> rfl

/-- A unit that is not the first half of a pair stands for itself. -/
theorem unitCode_of_not_high {n : Nat} (hn : ∀ b, pairCode? n b = none) : unitCode n t = (n, t) := by
  unfold unitCode
  split
  · rcases unit? _ with _ | ⟨b, r⟩
    · rfl
    · simp [hn]
  · rfl

theorem pairCode?_eq_some {a b n : Nat} : pairCode? a b = some n ↔
    (0xd800 ≤ a ∧ a < 0xdc00 ∧ 0xdc00 ≤ b ∧ b < 0xe000) ∧
      0x10000 + (a - 0xd800) * 0x400 + (b - 0xdc00) = n := by
  unfold pairCode?
  simp [and_assoc]

theorem pairCode?_eq_none {a b : Nat} :
    pairCode? a b = none ↔ ¬ (0xd800 ≤ a ∧ a < 0xdc00 ∧ 0xdc00 ≤ b ∧ b < 0xe000) := by
  unfold pairCode?
  simp [and_assoc]

/-- **Every code is read back alone**, where all characters may stand. -/
theorem stringTail?_letter {n : Nat} (hn : n < 0x110000) :
    stringTail? (f + (spell n).length) (letterText false n ++ t) =
      (stringTail? f t).map fun p => (spell n ++ p.1, p.2) := by
  rcases letterText_cases false hn with ⟨c, e, hspell, htext, he, hne⟩ | ⟨htext, hcode⟩ |
      ⟨htext, -, hplain⟩
  · rw [hspell, htext]
    exact stringTail?_escape f t he hne
  · have hcontrol : n < 32 := hcode.resolve_right Bool.false_ne_true
    have hunit : codeText n = unitText n := if_pos (by omega)
    have hlone : unitCode n t = (n, t) :=
      unitCode_of_not_high t fun b => pairCode?_eq_none.mpr (by omega)
    rw [htext, hunit, length_spell_control hcontrol, stringTail?_unit f t (by omega), hlone]
  · rw [htext]
    exact stringTail?_raws f t hplain

/-- **A string's codes are read back**, up to its closing quote. -/
theorem stringTail?_flatMap {ns : List Nat} (hns : ∀ n ∈ ns, n < 0x110000) :
    stringTail? (f + 1 + (ns.flatMap spell).length) (ns.flatMap (letterText false) ++ '"' :: t) =
      some (ns.flatMap spell, t) := by
  induction ns with
  | nil => rfl
  | cons n ns ih =>
    obtain ⟨hn, hns⟩ := List.forall_mem_cons.mp hns
    rw [List.flatMap_cons, List.flatMap_cons, List.append_assoc, List.length_append,
      Nat.add_comm (spell n).length, ← Nat.add_assoc, stringTail?_letter _ _ hn, ih hns]
    rfl

end

/-! ## What is written -/

theorem unitText_oneLine {n : Nat} (hn : n < 0x10000) : OneLine (unitText n) := by
  obtain ⟨a, b, c, d, hfour, -, hdigits⟩ := paddedHex_four hn
  refine .cons (by decide) (.cons (by decide) ?_)
  rw [hfour]
  exact fun x hx => (hdigits x hx).notBreak

theorem codeText_oneLine {n : Nat} (hn : n < 0x110000) : OneLine (codeText n) := by
  unfold codeText
  split
  · exact unitText_oneLine ‹_›
  · exact (unitText_oneLine (by omega)).append (unitText_oneLine (by omega))

/-- No code is written with a line break. -/
theorem letterText_oneLine (ascii : Bool) {n : Nat} (hn : n < 0x110000) :
    OneLine (letterText ascii n) := by
  rcases letterText_cases ascii hn with ⟨c, e, -, htext, he, -⟩ | ⟨htext, -⟩ | ⟨htext, -, hplain⟩ <;>
    rw [htext]
  · have hne : e ≠ '\n' ∧ e ≠ '\r' := by
      constructor <;> rintro rfl <;> exact nomatch he
    exact .cons (by decide) (.cons hne oneLine_nil)
  · exact codeText_oneLine hn
  · intro c hc
    have hcontrol := (hplain c hc).2.2
    constructor <;> rintro rfl <;> exact absurd hcontrol (by decide)

theorem letterText_ne_nil (ascii : Bool) {n : Nat} (hn : n < 0x110000) : letterText ascii n ≠ [] := by
  rcases letterText_cases ascii hn with ⟨c, e, -, htext, -⟩ | ⟨htext, -⟩ | ⟨htext, -⟩ <;> rw [htext]
  · exact nofun
  · unfold codeText
    split <;> exact nofun
  · exact spell_ne_nil hn

/-- The codes of a text are codes. -/
theorem lt_of_mem_codes {s : List Char} : ∀ n ∈ codes s, n < 0x110000 := by
  have hchar : ∀ c : Char, c.toNat < 0x110000 := by
    intro c
    rcases c.valid with h | h
    · exact Nat.lt_trans h (by decide)
    · exact h.2
  fun_induction codes s with
  | case1 => exact nofun
  | case2 c =>
    intro n hn
    rw [List.mem_singleton.mp hn]
    exact hchar c
  | case3 d r ih =>
    exact List.forall_mem_cons.mpr ⟨Nat.lt_of_le_of_lt (Nat.sub_le _ _) (hchar d), ih⟩
  | case4 c d r hc ih =>
    exact List.forall_mem_cons.mpr ⟨hchar c, ih⟩

/-- **A string is written on one line.** -/
theorem quote_oneLine (ascii : Bool) (s : List Char) : OneLine (quote ascii s) := by
  have hletters : OneLine ((codes s).flatMap (letterText ascii)) := by
    intro c hc
    obtain ⟨n, hn, hmem⟩ := List.mem_flatMap.mp hc
    exact letterText_oneLine ascii (lt_of_mem_codes n hn) c hmem
  exact (OneLine.cons (by decide) hletters).append (.cons (by decide) oneLine_nil)

/-- A string is not shorter than what it is read as. -/
theorem length_flatMap_spell_le {ns : List Nat} (hns : ∀ n ∈ ns, n < 0x110000) :
    (ns.flatMap spell).length ≤ (ns.flatMap (letterText false)).length := by
  induction ns with
  | nil => exact Nat.le_refl 0
  | cons n ns ih =>
    obtain ⟨hn, hns⟩ := List.forall_mem_cons.mp hns
    have hone : (spell n).length ≤ (letterText false n).length := by
      rcases letterText_cases false hn with ⟨c, e, hspell, htext, -⟩ | ⟨htext, hcode⟩ | ⟨htext, -⟩
      · rw [hspell, htext]
        exact Nat.le_succ 1
      · have hcontrol : n < 32 := hcode.resolve_right Bool.false_ne_true
        have hunit : codeText n = unitText n := if_pos (by omega)
        rw [htext, hunit, length_spell_control hcontrol]
        exact Nat.le_add_left 1 _
      · rw [htext]
    rw [List.flatMap_cons, List.flatMap_cons, List.length_append, List.length_append]
    exact Nat.add_le_add hone (ih hns)

/-- A string in which all characters may stand is read back: what its codes spell, up to the closing
    quote. -/
theorem stringTail?_spelled (s rest : List Char) :
    stringTail? (((codes s).flatMap (letterText false) ++ '"' :: rest).length + 1)
        ((codes s).flatMap (letterText false) ++ '"' :: rest) =
      some ((codes s).flatMap spell, rest) := by
  have hle := length_flatMap_spell_le (lt_of_mem_codes (s := s))
  obtain ⟨f, hf⟩ : ∃ f, ((codes s).flatMap (letterText false) ++ '"' :: rest).length + 1 =
      f + 1 + ((codes s).flatMap spell).length := by
    refine ⟨((codes s).flatMap (letterText false) ++ '"' :: rest).length -
      ((codes s).flatMap spell).length, ?_⟩
    rw [List.length_append]
    omega
  rw [hf]
  exact stringTail?_flatMap f rest lt_of_mem_codes

end Json

end SecureStartup
