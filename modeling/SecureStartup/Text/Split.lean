/-
  Cutting a text at separators, and putting it together again.

  `splitWhere p` cuts at every character that satisfies `p`; there is always at least one piece, and
  joining the pieces with a single separator restores the text (`joinWith_splitOn`).  Paths, principals
  and names of keytabs are all taken apart with it, each by separators of its own.

  Replacing, searching and prefix tests are the other list-level tools that the rest of the library
  uses.  They are written for lists of characters because the proofs about them are inductions on such
  lists; a `String` is turned into one where it enters and back where it leaves.
-/

namespace SecureStartup.Text

/-! ## Splitting and joining -/

/-- Cut a text at every character that satisfies `p`; the separators are dropped.  The result is
    never empty: a text without separator is one piece. -/
def splitWhere (p : Char → Bool) : List Char → List (List Char)
  | [] => [[]]
  | c :: r =>
    if p c then [] :: splitWhere p r
    else
      match splitWhere p r with
      | [] => [[c]]
      | piece :: more => (c :: piece) :: more

/-- Cut at every occurrence of one character. -/
def splitOn (sep : Char) (s : List Char) : List (List Char) := splitWhere (· == sep) s

/-- Put pieces together with a separator between them. -/
def joinWith (sep : List Char) : List (List Char) → List Char
  | [] => []
  | [s] => s
  | s :: t :: r => s ++ sep ++ joinWith sep (t :: r)

/-- There is always a piece. -/
theorem splitWhere_ne_nil (p : Char → Bool) (s : List Char) : splitWhere p s ≠ [] := by
  cases s with
  | nil => simp [splitWhere]
  | cons c r => unfold splitWhere; split <;> (try split) <;> simp

/-- No piece holds a separator. -/
theorem not_of_mem_splitWhere (p : Char → Bool) (s : List Char) :
    ∀ piece ∈ splitWhere p s, ∀ c ∈ piece, p c = false := by
  induction s with
  | nil => simp [splitWhere]
  | cons a r ih =>
    unfold splitWhere
    by_cases ha : p a = true
    · simp only [ha, ↓reduceIte, List.mem_cons, forall_eq_or_imp, List.not_mem_nil, false_implies,
        implies_true, true_and]
      exact ih
    · simp only [ha, Bool.false_eq_true, ↓reduceIte]
      cases hs : splitWhere p r with
      | nil => exact absurd hs (splitWhere_ne_nil p r)
      | cons q m =>
        simp only [hs, List.mem_cons, forall_eq_or_imp] at ih ⊢
        exact ⟨⟨by simpa using ha, ih.1⟩, ih.2⟩

/-- Joining the pieces with the separator restores the text. -/
theorem joinWith_splitOn (sep : Char) (s : List Char) : joinWith [sep] (splitOn sep s) = s := by
  induction s with
  | nil => rfl
  | cons a r ih =>
    change joinWith [sep] (splitWhere _ r) = r at ih
    change joinWith [sep] (splitWhere _ (a :: r)) = a :: r
    rw [splitWhere]
    cases hs : splitWhere (· == sep) r with
    | nil => exact absurd hs (splitWhere_ne_nil _ r)
    | cons q m =>
      rw [hs] at ih
      by_cases ha : (a == sep) = true
      · have : a = sep := by simpa using ha
        simp [joinWith, ih, this]
      · cases m <;> simp_all [joinWith]

/-! ## Searching and replacing -/

/-- What follows `p` when `s` starts with it. -/
def dropLead : List Char → List Char → Option (List Char)
  | [], s => some s
  | a :: p, c :: s => if a == c then dropLead p s else none
  | _ :: _, [] => none

/-- `startsWith p s` — `s` begins with `p`. -/
def startsWith (p s : List Char) : Bool := (dropLead p s).isSome

/-- `dropLead` undoes putting the lead in front. -/
@[simp] theorem dropLead_append (p s : List Char) : dropLead p (p ++ s) = some s := by
  induction p with
  | nil => rfl
  | cons a p ih => simp [dropLead, ih]

/-- What `dropLead` drops is exactly the lead. -/
theorem eq_append_of_dropLead {p s r : List Char} (h : dropLead p s = some r) : s = p ++ r := by
  induction p generalizing s with
  | nil => simpa [dropLead] using h
  | cons a p ih =>
    cases s with
    | nil => simp [dropLead] at h
    | cons c s =>
      unfold dropLead at h
      split at h
      · rename_i hc
        have := ih h
        simp_all
      · cases h

/-- `contains p s` — `p` occurs somewhere in `s`. -/
def contains (p : List Char) : List Char → Bool
  | [] => p.isEmpty
  | c :: s => startsWith p (c :: s) || contains p s

/-- Replace every occurrence of `old` (from the left, without overlap) by `new`.  An empty `old`
    occurs nowhere. -/
def replace (old new : List Char) (s : List Char) : List Char :=
  go s.length s
where
  /-- At most `n` characters are left to look at. -/
  go : Nat → List Char → List Char
    | 0, s => s
    | _ + 1, [] => []
    | n + 1, c :: s =>
      match old, dropLead old (c :: s) with
      | _ :: _, some rest => new ++ go n rest
      | _, _ => c :: go n s

/-- Everything before the first `sep`, and everything after it when there is one. -/
def cutFirst (sep : Char) : List Char → List Char × Option (List Char)
  | [] => ([], none)
  | c :: s =>
    if c == sep then ([], some s)
    else
      let (a, b) := cutFirst sep s
      (c :: a, b)

end SecureStartup.Text
