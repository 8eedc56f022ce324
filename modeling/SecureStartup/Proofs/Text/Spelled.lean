import Mathlib.Data.List.TakeWhile
import SecureStartup.Text.Code
import SecureStartup.Text.Split

/-!
  Texts and the codes that they spell.

  A text of the program may hold half of a surrogate pair, which is no character: environments, paths and
  JSON can bring one in.  Such a code is spelled by a mark and one more character, and all others by
  themselves.

  Every text that comes into a program is the spelling of its codes (`Spells`), and of no others.  What
  is said of texts code by code, such as their length and where they are cut, is then said of the list
  of codes: `Spells.letterCount_eq`, `Spells.takeLetters`.  Texts that spell any codes (`IsSpelled`) can
  be put together, and cut wherever there is a character that spells itself alone (`IsSpelled.cut`).
-/

namespace SecureStartup.Text

/-- A text is cut in front of the first character that is not wanted. -/
theorem takeWhile_append_of_head? {p : Char → Bool} {s t : List Char} (hs : ∀ c ∈ s, p c = true)
    (ht : ∀ c ∈ t.head?, p c = false) :
    (s ++ t).takeWhile p = s ∧ (s ++ t).dropWhile p = t := by
  rw [List.takeWhile_append_of_pos hs, List.dropWhile_append_of_pos hs]
  rcases t with _ | ⟨c, t⟩
  · exact ⟨List.append_nil s, rfl⟩
  · have hc : ¬ p c = true := by
      rw [ht c rfl]
      exact Bool.false_ne_true
    rw [List.takeWhile_cons_of_neg hc, List.dropWhile_cons_of_neg hc]
    exact ⟨List.append_nil s, rfl⟩

/-- **A text spells codes**, none beyond the last one. -/
def Spells (ns : List Nat) (s : List Char) : Prop := (∀ n ∈ ns, n < 0x110000) ∧ s = ns.flatMap spell

theorem spells_nil : Spells [] [] := ⟨nofun, rfl⟩

theorem Spells.append {ns ms : List Nat} {s t : List Char} (hs : Spells ns s) (ht : Spells ms t) :
    Spells (ns ++ ms) (s ++ t) := by
  refine ⟨fun n hn => ?_, by rw [hs.2, ht.2, List.flatMap_append]⟩
  rcases List.mem_append.mp hn with h | h
  · exact hs.1 n h
  · exact ht.1 n h

/-- The codes of a text that spells some are those. -/
theorem Spells.codes_eq {ns : List Nat} {s : List Char} (h : Spells ns s) : codes s = ns := by
  rw [h.2]
  exact codes_flatMap_spell ns h.1

/-- **What spells a code**: its character, or the mark and one far above it. -/
theorem spell_cases {n : Nat} (h : n < 0x110000) :
    (∃ c, spell n = [c] ∧ c ≠ mark ∧ c.toNat = n) ∨
      (∃ c, spell n = [mark, c] ∧ standInOffset ≤ c.toNat) := by
  unfold spell
  split
  case isTrue hs =>
    right
    have hbound : 0xd800 ≤ n ∧ n < 0x10000 := by
      simp only [isHalf, Bool.or_eq_true, Bool.and_eq_true, decide_eq_true_eq, beq_iff_eq] at hs
      omega
    have hv : (n + standInOffset).isValidChar := by
      unfold Nat.isValidChar standInOffset
      omega
    exact ⟨_, rfl, by rw [toNat_ofNat hv]; exact Nat.le_add_left _ _⟩
  case isFalse hs =>
    left
    have hv : n.isValidChar ∧ n ≠ 0xffff := by
      simp only [isHalf, Bool.or_eq_true, Bool.and_eq_true, decide_eq_true_eq, beq_iff_eq] at hs
      unfold Nat.isValidChar
      omega
    refine ⟨_, rfl, fun he => ?_, toNat_ofNat hv.1⟩
    have hn : (Char.ofNat n).toNat = mark.toNat := by rw [he]
    rw [toNat_ofNat hv.1] at hn
    exact hv.2 (hn.trans (by decide))

/-- A character that is far above the mark is not the mark. -/
theorem ne_mark_of_le {c : Char} (h : standInOffset ≤ c.toNat) : c ≠ mark := by
  rintro rfl
  exact absurd h (by decide)

/-- **Every code counts once.** -/
theorem Spells.letterCount_eq {ns : List Nat} {s : List Char} (h : Spells ns s) :
    letterCount s = ns.length := by
  obtain ⟨hns, rfl⟩ := h
  induction ns with
  | nil => rfl
  | cons n ns ih =>
    obtain ⟨hn, hns⟩ := List.forall_mem_cons.mp hns
    have hone : (spell n).countP (· != mark) = 1 := by
      rcases spell_cases hn with ⟨c, hc, hne, -⟩ | ⟨c, hc, hfar⟩
      · simp [hc, hne]
      · simp [hc, ne_mark_of_le hfar]
    have hrest : (ns.flatMap spell).countP (· != mark) = ns.length := ih hns
    show (List.flatMap spell (n :: ns)).countP (· != mark) = _
    rw [List.flatMap_cons, List.countP_append, hone, hrest, List.length_cons, Nat.add_comm]

/-- **The text of the first codes** spells these. -/
theorem Spells.takeLetters {ns : List Nat} {s : List Char} (h : Spells ns s) (k : Nat) :
    Spells (ns.take k) (takeLetters k s) := by
  refine ⟨fun n hn => h.1 n (List.mem_of_mem_take hn), ?_⟩
  unfold Text.takeLetters letters
  rw [h.codes_eq, ← List.map_take, List.flatMap_def]

/-! ## Texts that spell codes -/

/-- **A text that spells codes**, as all texts do that come into a program. -/
def IsSpelled (s : List Char) : Prop := ∃ ns, Spells ns s

theorem isSpelled_nil : IsSpelled [] := ⟨[], spells_nil⟩

theorem IsSpelled.append {s t : List Char} (hs : IsSpelled s) (ht : IsSpelled t) :
    IsSpelled (s ++ t) := by
  obtain ⟨ns, hns⟩ := hs
  obtain ⟨ms, hms⟩ := ht
  exact ⟨ns ++ ms, hns.append hms⟩

theorem isSpelled_spell {n : Nat} (hn : n < 0x110000) : IsSpelled (spell n) := by
  refine ⟨[n], fun m hm => ?_, by simp⟩
  rw [List.mem_singleton.mp hm]
  exact hn

/-- A character that has no part in spelling others: neither the mark nor one that follows it. -/
def IsUsual (c : Char) : Prop := c.toNat < 0xd800

instance (c : Char) : Decidable (IsUsual c) := inferInstanceAs (Decidable (c.toNat < 0xd800))

theorem IsUsual.ne_mark {c : Char} (h : IsUsual c) : c ≠ mark := by
  rintro rfl
  exact absurd h (by decide)

theorem IsUsual.spell_eq {c : Char} (h : IsUsual c) : spell c.toNat = [c] := by
  have hplain : ¬ (isHalf c.toNat || c.toNat == 0xffff) = true := by
    have hlt : c.toNat < 0xd800 := h
    simp only [isHalf, Bool.or_eq_true, Bool.and_eq_true, decide_eq_true_eq, beq_iff_eq]
    omega
  unfold spell
  rw [if_neg hplain, Char.ofNat_toNat]

/-- **Usual characters** spell themselves. -/
theorem isSpelled_of_usual {s : List Char} (h : ∀ c ∈ s, IsUsual c) : IsSpelled s := by
  induction s with
  | nil => exact isSpelled_nil
  | cons c s ih =>
    obtain ⟨hc, hs⟩ := List.forall_mem_cons.mp h
    have hone : IsSpelled [c] := by
      rw [← hc.spell_eq]
      exact isSpelled_spell (Nat.lt_trans hc (by decide))
    exact hone.append (ih hs)

/-- A text whose characters are checked one by one. -/
theorem usual_of_all {s : List Char} (h : (s.all fun c => decide (IsUsual c)) = true) :
    ∀ c ∈ s, IsUsual c :=
  fun c hc => of_decide_eq_true (List.all_eq_true.mp h c hc)

theorem isSpelled_of_all {s : List Char} (h : (s.all fun c => decide (IsUsual c)) = true) :
    IsSpelled s := isSpelled_of_usual (usual_of_all h)

/-- Usual characters are read as their own codes. -/
theorem codes_of_usual {s : List Char} (h : ∀ c ∈ s, IsUsual c) : codes s = s.map Char.toNat := by
  induction s with
  | nil => rfl
  | cons c s ih =>
    obtain ⟨hc, hs⟩ := List.forall_mem_cons.mp h
    rw [codes_cons hc.ne_mark, ih hs, List.map_cons]

theorem IsSpelled.cons {c : Char} {s : List Char} (hc : IsUsual c) (h : IsSpelled s) :
    IsSpelled (c :: s) := (isSpelled_of_usual (List.forall_mem_singleton.mpr hc)).append h

/-- What a text that spells codes begins with. -/
theorem IsSpelled.cases {s : List Char} (h : IsSpelled s) :
    s = [] ∨ ∃ n r, n < 0x110000 ∧ s = spell n ++ r ∧ IsSpelled r := by
  obtain ⟨ns, hns, rfl⟩ := h
  rcases ns with _ | ⟨n, ns⟩
  · exact .inl rfl
  · obtain ⟨hn, hns⟩ := List.forall_mem_cons.mp hns
    exact .inr ⟨n, ns.flatMap spell, hn, List.flatMap_cons, ns, hns, rfl⟩

/-- **A text is cut at a usual character** in two that spell codes. -/
theorem IsSpelled.cut {s t : List Char} {c : Char} (hc : IsUsual c) (h : IsSpelled (s ++ c :: t)) :
    IsSpelled s ∧ IsSpelled t := by
  obtain ⟨ns, hns, htext⟩ := h
  induction ns generalizing s with
  | nil => exact absurd htext (by simp)
  | cons n ns ih =>
    obtain ⟨hn, hns⟩ := List.forall_mem_cons.mp hns
    rw [List.flatMap_cons] at htext
    rcases spell_cases hn with ⟨d, hd, -⟩ | ⟨d, hd, hfar⟩
    · rw [hd] at htext
      rcases s with _ | ⟨d', s⟩
      · obtain ⟨rfl, rfl⟩ := List.cons.inj htext
        exact ⟨isSpelled_nil, ns, hns, rfl⟩
      · obtain ⟨rfl, hrest⟩ := List.cons.inj htext
        obtain ⟨hs, ht⟩ := ih hns hrest
        have hfirst := (isSpelled_spell hn).append hs
        rw [hd] at hfirst
        exact ⟨hfirst, ht⟩
    · -- the cut is neither in front of nor within the two characters of the code
      rw [hd] at htext
      rcases s with _ | ⟨d₁, _ | ⟨d₂, s⟩⟩
      · exact absurd (List.cons.inj htext).1 hc.ne_mark
      · obtain ⟨rfl, -⟩ := List.cons.inj (List.cons.inj htext).2
        exact absurd (Nat.lt_of_le_of_lt hfar hc) (by decide)
      · obtain ⟨rfl, htail⟩ := List.cons.inj htext
        obtain ⟨rfl, hrest⟩ : d₂ = d ∧ s ++ c :: t = ns.flatMap spell := List.cons.inj htail
        obtain ⟨hs, ht⟩ := ih hns hrest
        have hfirst := (isSpelled_spell hn).append hs
        rw [hd] at hfirst
        exact ⟨hfirst, ht⟩

/-- The text behind the first of some usual characters, with it. -/
theorem IsSpelled.dropWhile {s : List Char} (h : IsSpelled s) {p : Char → Bool}
    (hp : ∀ c, p c = false → IsUsual c) : IsSpelled (s.dropWhile p) := by
  rcases hdrop : s.dropWhile p with _ | ⟨c, r⟩
  · exact isSpelled_nil
  · have hc : p c = false := by
      have hhead := List.head?_dropWhile_not p s
      rw [hdrop] at hhead
      simpa using hhead
    have htext : s = s.takeWhile p ++ c :: r := by rw [← hdrop, List.takeWhile_append_dropWhile]
    rw [htext] at h
    obtain ⟨-, hr⟩ := h.cut (hp c hc)
    exact hr.cons (hp c hc)

/-- The pieces between usual characters spell codes too. -/
theorem IsSpelled.of_mem_splitOn {s : List Char} (h : IsSpelled s) {sep : Char} (hsep : IsUsual sep) :
    ∀ piece ∈ splitOn sep s, IsSpelled piece := by
  have hpieces : ∀ pieces, IsSpelled (joinWith [sep] pieces) → ∀ piece ∈ pieces, IsSpelled piece := by
    intro pieces
    induction pieces with
    | nil => exact fun _ => nofun
    | cons piece pieces ih =>
      intro hjoined
      rcases pieces with _ | ⟨next, pieces⟩
      · exact List.forall_mem_singleton.mpr hjoined
      · have htext : joinWith [sep] (piece :: next :: pieces) =
            piece ++ sep :: joinWith [sep] (next :: pieces) := by
          simp [joinWith]
        rw [htext] at hjoined
        obtain ⟨hpiece, hmore⟩ := hjoined.cut hsep
        exact List.forall_mem_cons.mpr ⟨hpiece, ih hmore⟩
  exact hpieces _ (by rwa [joinWith_splitOn])

end SecureStartup.Text
