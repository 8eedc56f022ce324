import SecureStartup.Proofs.Path.Parts

/-!
  The normal form of a path text.

  Program: a `Path` does not keep the text that it was made of.  Slashes side by side become one, empty
  parts and the parts `.` are dropped, and an empty path becomes `.`; `..` stays.

  It has the parts of the text, and starts at the root if the text does (`normalPath_parts`); so
  whatever depends on these two alone does not tell a path from its normal form.  It has no characters
  that the text does not have, besides slashes and the dot of the empty path (`mem_of_mem_normalPath`):
  what the system cannot be given as a path, it cannot be given in the normal form either.
-/

namespace SecureStartup

open SecureStartup.Text

/-- Putting pieces together is the library's. -/
theorem joinWith_eq_intercalate (sep : List Char) (parts : List (List Char)) :
    joinWith sep parts = sep.intercalate parts := by
  induction parts with
  | nil => rfl
  | cons q qs ih =>
    rcases qs with _ | ⟨q₁, qs⟩
    · exact (List.intercalate_singleton).symm
    · rw [List.intercalate_cons_cons, ← ih]
      rfl

/-- Parts that are put together are the parts again. -/
theorem pathParts_joinWith {parts : List (List Char)} (h : ∀ q ∈ parts, IsPart q) :
    pathParts (joinWith ['/'] parts) = parts := by
  rcases parts with _ | ⟨q, qs⟩
  · rfl
  · unfold pathParts
    rw [splitOn_joinWith (List.cons_ne_nil _ _) fun p hp => (h p hp).2.2]
    refine List.filter_eq_self.mpr fun p hp => ?_
    rw [beq_eq_false_iff_ne.mpr (h p hp).1, beq_eq_false_iff_ne.mpr (h p hp).2.1]
    rfl

namespace PurePath

/-- The text of a path that does not start at the root. -/
theorem toList_text_relative {p : PurePath} (hr : p.root = []) (hp : ∀ q ∈ p.parts, IsPart q) :
    p.text.toList = if p.parts = [] then ['.'] else joinWith ['/'] p.parts := by
  unfold PurePath.text
  rw [hr, List.nil_append]
  rcases hparts : p.parts with _ | ⟨q, qs⟩
  · rfl
  · rw [if_neg (List.cons_ne_nil _ _)]
    have hq : q ≠ [] := (hp q (hparts ▸ List.mem_cons_self ..)).1
    split
    · rename_i hnil
      rcases qs with _ | ⟨q₁, qs⟩
      · exact absurd hnil hq
      · exact absurd (List.append_eq_nil_iff.mp (List.append_eq_nil_iff.mp hnil).1).1 hq
    · exact String.toList_ofList

end PurePath

/-- **A path and its normal form** have the same parts, and start at the root together. -/
theorem normalPath_parts (s : String) :
    pathParts (normalPath s).toList = pathParts s.toList ∧
      startsAtRoot (normalPath s) = startsAtRoot s := by
  have hparts : ∀ q ∈ pathParts s.toList, IsPart q := fun q hq => isPart_of_mem_pathParts hq
  by_cases hr : startsAtRoot s = true
  · have hc : (PurePath.ofString s).IsClean := PurePath.isClean_ofString hr
    constructor
    · show pathParts (PurePath.ofString s).text.toList = _
      rw [hc.toList_text]
      have hone : ∀ x, pathParts ('/' :: x) = pathParts x := fun x => pathParts_append [] x
      rcases hc.root with h | h <;> rw [h]
      · exact (hone _).trans (pathParts_joinWith hparts)
      · exact (hone _).trans ((hone _).trans (pathParts_joinWith hparts))
    · rw [hr]
      exact hc.startsAtRoot_text
  · have hroot : (PurePath.ofString s).root = [] := by
      refine List.isEmpty_iff.mp ?_
      rcases ha : (PurePath.ofString s).root.isEmpty with _ | _
      · refine absurd (PurePath.startsAtRoot_of_isAbsolute ?_) hr
        unfold PurePath.isAbsolute
        rw [ha]
        rfl
      · rfl
    have htext : (normalPath s).toList = if pathParts s.toList = [] then ['.'] else
        joinWith ['/'] (pathParts s.toList) := PurePath.toList_text_relative hroot hparts
    unfold startsAtRoot at hr ⊢
    rw [htext, Bool.eq_false_iff.mpr hr]
    rcases hs : pathParts s.toList with _ | ⟨q, qs⟩
    · exact ⟨rfl, rfl⟩
    · rw [if_neg (List.cons_ne_nil _ _), ← hs]
      refine ⟨pathParts_joinWith hparts, ?_⟩
      -- the text begins as its first part does
      obtain ⟨hne, -, hslash⟩ := hparts q (hs ▸ List.mem_cons_self ..)
      obtain ⟨c, r, rfl⟩ := List.exists_cons_of_ne_nil hne
      have hc : c ≠ '/' := fun h => hslash (h ▸ List.mem_cons_self ..)
      have hhead : (joinWith ['/'] (pathParts s.toList)).head? = some c := by
        rw [hs]
        rcases qs with _ | ⟨q₁, qs⟩ <;> rfl
      rw [hhead]
      exact beq_eq_false_iff_ne.mpr fun h => hc (Option.some.inj h)

/-! ## Characters of paths -/

/-- A character of texts that are joined is one of theirs, or of what joins them. -/
theorem mem_of_mem_joinWith {sep : List Char} {parts : List (List Char)} {c : Char}
    (h : c ∈ joinWith sep parts) : c ∈ sep ∨ ∃ q ∈ parts, c ∈ q := by
  induction parts with
  | nil => exact absurd h List.not_mem_nil
  | cons q qs ih =>
    rcases qs with _ | ⟨q₁, qs⟩
    · exact .inr ⟨q, List.mem_cons_self, h⟩
    · rcases List.mem_append.mp h with h | h
      · rcases List.mem_append.mp h with h | h
        · exact .inr ⟨q, List.mem_cons_self, h⟩
        · exact .inl h
      · rcases ih h with h | ⟨r, hr, h⟩
        · exact .inl h
        · exact .inr ⟨r, List.mem_cons_of_mem _ hr, h⟩

theorem mem_joinWith {sep : List Char} {parts : List (List Char)} {q : List Char} {c : Char}
    (hq : q ∈ parts) (h : c ∈ q) : c ∈ joinWith sep parts := by
  induction parts with
  | nil => exact absurd hq List.not_mem_nil
  | cons p ps ih =>
    rcases ps with _ | ⟨p₁, ps⟩
    · exact List.mem_singleton.mp hq ▸ h
    · rcases List.mem_cons.mp hq with rfl | hq
      · exact List.mem_append_left _ (List.mem_append_left _ h)
      · exact List.mem_append_right _ (ih hq)

/-- A path has no characters but those of its text, besides slashes and the dot of the empty path. -/
theorem mem_of_mem_normalPath {s : String} {c : Char} (h : c ∈ (normalPath s).toList) :
    c ∈ s.toList ∨ c = '/' ∨ c = '.' := by
  have hroot : ∀ t : List Char, ∀ d ∈ PurePath.rootOf t, d = '/' := by
    intro t d hd
    unfold PurePath.rootOf at hd
    split at hd <;> simp at hd <;> exact hd
  unfold normalPath PurePath.text at h
  split at h
  · exact .inr (.inr (List.mem_singleton.mp h))
  · rw [String.toList_ofList] at h
    rcases List.mem_append.mp h with h | h
    · exact .inr (.inl (hroot _ c h))
    · rcases mem_of_mem_joinWith h with h | ⟨q, hq, hc⟩
      · exact .inr (.inl (List.mem_singleton.mp h))
      · have hpiece : q ∈ splitOn '/' s.toList := (List.mem_filter.mp hq).1
        have hmem : c ∈ joinWith ['/'] (splitOn '/' s.toList) := mem_joinWith hpiece hc
        rw [joinWith_splitOn] at hmem
        exact .inl hmem

end SecureStartup
