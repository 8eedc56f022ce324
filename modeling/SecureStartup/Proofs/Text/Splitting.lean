import SecureStartup.Text.Split

/-!
  Cutting a text at separators.

  `splitWhere` is the library's `List.splitOnP`, whose laws hold of it (`splitWhere_eq_splitOnP`).  With
  one separator the pieces alone give the text back; with several, which one stood where is lost with
  the cut.  So the separators are kept beside the pieces, in order, and put back by `weave`:

  1. `weave_splitWhere`: a text's own separators between its pieces are the text.
  2. `splitWhere_weave`: separators between pieces that have none are cut out again, and what is left
     are these pieces.  Empty pieces and separators side by side are no exception.
-/

namespace SecureStartup

open SecureStartup.Text

/-! ## Pieces -/

theorem splitWhere_eq_splitOnP (p : Char → Bool) (s : List Char) : splitWhere p s = s.splitOnP p := by
  induction s with
  | nil => exact List.splitOnP_nil.symm
  | cons c r ih =>
    rw [splitWhere, List.splitOnP_cons_eq_if_modifyHead, ← ih]
    rcases hs : splitWhere p r with _ | ⟨piece, more⟩
    · exact absurd hs (splitWhere_ne_nil p r)
    · rfl

theorem splitWhere_of_forall {p : Char → Bool} {s : List Char} (h : ∀ c ∈ s, p c = false) :
    splitWhere p s = [s] := by
  rw [splitWhere_eq_splitOnP, List.splitOnP_eq_singleton h]

/-- A separator ends a piece, and what is behind it is cut on its own. -/
theorem splitWhere_append {p : Char → Bool} {c : Char} (hc : p c = true) (a b : List Char) :
    splitWhere p (a ++ c :: b) = splitWhere p a ++ splitWhere p b := by
  simp only [splitWhere_eq_splitOnP, List.splitOnP_append_cons a b hc]

/-- The first piece goes up to the first separator. -/
theorem Text.head?_splitWhere_eq (p : Char → Bool) (s : List Char) :
    (splitWhere p s).head? = some (s.takeWhile fun c => !p c) := by
  rw [splitWhere_eq_splitOnP]
  induction s with
  | nil => rfl
  | cons c r ih =>
    rw [List.splitOnP_cons_eq_if_modifyHead]
    by_cases hc : p c = true
    · rw [if_pos hc, List.takeWhile_cons_of_neg (by simp [hc])]
      rfl
    · rw [if_neg hc, List.takeWhile_cons_of_pos (by simp [hc]), List.head?_modifyHead, ih]
      rfl

/-- There is one piece more than there are separators. -/
theorem length_splitWhere (p : Char → Bool) (s : List Char) :
    (splitWhere p s).length = (s.filter p).length + 1 := by
  rw [splitWhere_eq_splitOnP]
  induction s with
  | nil => rfl
  | cons c r ih =>
    rw [List.splitOnP_cons_eq_if_modifyHead]
    by_cases hc : p c = true
    · rw [if_pos hc, List.filter_cons_of_pos hc, List.length_cons, List.length_cons, ih]
    · rw [if_neg hc, List.filter_cons_of_neg hc, List.length_modifyHead, ih]

/-! ## One separator -/

theorem splitOn_append (sep : Char) (a b : List Char) :
    splitOn sep (a ++ sep :: b) = splitOn sep a ++ splitOn sep b := by
  exact @splitWhere_append (· == sep) sep (beq_self_eq_true sep) a b

theorem splitOn_of_not_mem {sep : Char} {s : List Char} (h : sep ∉ s) : splitOn sep s = [s] := by
  refine splitWhere_of_forall fun c hc => beq_eq_false_iff_ne.mpr ?_
  rintro rfl
  exact h hc

/-- **Cutting what was joined** gives the pieces back. -/
theorem splitOn_joinWith {sep : Char} {parts : List (List Char)} (hne : parts ≠ [])
    (h : ∀ q ∈ parts, sep ∉ q) : splitOn sep (joinWith [sep] parts) = parts := by
  induction parts with
  | nil => exact absurd rfl hne
  | cons q qs ih =>
    have hq : splitOn sep q = [q] := splitOn_of_not_mem (h q (List.mem_cons_self ..))
    rcases qs with _ | ⟨q₁, qs⟩
    · exact hq
    · have hrest := ih (List.cons_ne_nil _ _) fun r hr => h r (List.mem_cons_of_mem _ hr)
      show splitOn sep (q ++ [sep] ++ joinWith [sep] (q₁ :: qs)) = _
      rw [List.append_assoc, List.singleton_append, splitOn_append, hq, hrest]
      rfl

theorem getLast?_joinWith {sep q : List Char} {parts : List (List Char)}
    (h : parts.getLast? = some q) (hq : q ≠ []) : (joinWith sep parts).getLast? = q.getLast? := by
  induction parts with
  | nil => exact nomatch h
  | cons p ps ih =>
    rcases ps with _ | ⟨p₁, ps⟩
    · cases h
      rfl
    · have hlast : (joinWith sep (p₁ :: ps)).getLast? = q.getLast? := ih h
      show (p ++ sep ++ joinWith sep (p₁ :: ps)).getLast? = _
      rw [List.getLast?_append, hlast]
      rcases hc : q.getLast? with _ | c
      · exact absurd (List.getLast?_eq_none_iff.mp hc) hq
      · rfl

/-! ## Several separators -/

/-- **Separators between pieces**: behind every piece its own one, and nothing behind the last. -/
def weave (seps : List Char) (pieces : List (List Char)) : List Char :=
  (pieces.zipWith (· ++ ·) (seps.map ([·]) ++ [[]])).flatten

theorem weave_nil (piece : List Char) : weave [] [piece] = piece := by
  simp [weave]

theorem weave_cons (sep : Char) (seps piece : List Char) (more : List (List Char)) :
    weave (sep :: seps) (piece :: more) = piece ++ sep :: weave seps more := by
  simp [weave]

/-- **A text's own separators between its pieces** are the text. -/
theorem weave_splitWhere (p : Char → Bool) (s : List Char) :
    weave (s.filter p) (splitWhere p s) = s := by
  rw [splitWhere_eq_splitOnP]
  exact List.splitOnP_spec s

/-- **Pieces that are put together** come out again.  By induction on the separators: each one ends a
    piece that has none. -/
theorem splitWhere_weave {p : Char → Bool} {seps : List Char} {pieces : List (List Char)}
    (hseps : ∀ c ∈ seps, p c = true) (hpieces : ∀ piece ∈ pieces, ∀ c ∈ piece, p c = false)
    (hlen : pieces.length = seps.length + 1) : splitWhere p (weave seps pieces) = pieces := by
  induction seps generalizing pieces with
  | nil =>
    obtain ⟨piece, rfl⟩ := List.length_eq_one_iff.mp hlen
    rw [weave_nil]
    exact splitWhere_of_forall (hpieces piece List.mem_cons_self)
  | cons sep seps ih =>
    rcases pieces with _ | ⟨piece, more⟩
    · exact nomatch hlen
    · obtain ⟨hsep, hseps'⟩ := List.forall_mem_cons.mp hseps
      obtain ⟨hpiece, hmore⟩ := List.forall_mem_cons.mp hpieces
      rw [weave_cons, splitWhere_append hsep, splitWhere_of_forall hpiece,
        ih hseps' hmore (Nat.succ.inj hlen)]
      rfl

end SecureStartup
