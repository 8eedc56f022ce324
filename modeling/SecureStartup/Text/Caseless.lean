/-
  Comparing letters without regard to case.

  Two notions are needed and they differ.  `lower` is the lower-case form of a character as far as
  it can give an ASCII letter: besides `A..Z` only the Kelvin sign does (its lower case is `k`; the
  Turkish dotted capital I becomes TWO characters, so it equals no letter).  `isLetter` is
  pattern matching without case: there the Kelvin sign matches `k`, the long s matches `s`, and both
  Turkish letters match `i`.

  The first decides whether an authentication method is Kerberos (`is_cluster_secure`), the second which
  query parameters of a URL are sensitive (`_sanitize_url`).
-/

namespace SecureStartup.Text

/-- The lower-case form of `c`, for comparison with ASCII text: `A..Z` and the Kelvin sign change,
    everything else stays. -/
def lower (c : Char) : Char :=
  if 'A' ≤ c && c ≤ 'Z' then Char.ofNat (c.toNat + 32)
  else if c.toNat == 0x212a then 'k'
  else c

/-- `isLetter l c` — the character `c` matches the lower-case ASCII letter (or other character) `l`
    when case does not count. -/
def isLetter (l c : Char) : Bool :=
  c == l
    || ('a' ≤ l && l ≤ 'z' && c.toNat + 32 == l.toNat)
    || (l == 'k' && c.toNat == 0x212a)
    || (l == 's' && c.toNat == 0x17f)
    || (l == 'i' && (c.toNat == 0x130 || c.toNat == 0x131))

/-- A word matches letter by letter. -/
def isWord : List Char → List Char → Bool
  | [], [] => true
  | l :: ls, c :: cs => isLetter l c && isWord ls cs
  | _, _ => false

/-- What a matching word leaves: `dropWord w s = some r` when `s` starts with `w` (in any case)
    and `r` follows it. -/
def dropWord : List Char → List Char → Option (List Char)
  | [], s => some s
  | l :: ls, c :: cs => if isLetter l c then dropWord ls cs else none
  | _ :: _, [] => none

/-- A word that was dropped is one that matches, and nothing of the text is lost. -/
theorem dropWord_eq_some {w s r : List Char} (h : dropWord w s = some r) :
    ∃ v, s = v ++ r ∧ isWord w v = true := by
  induction w generalizing s with
  | nil => exact ⟨[], by simpa [dropWord] using h, rfl⟩
  | cons l ls ih =>
    cases s with
    | nil => simp [dropWord] at h
    | cons c cs =>
      unfold dropWord at h
      split at h
      · rename_i hc
        obtain ⟨v, hv, hw⟩ := ih h
        exact ⟨c :: v, by simp [hv], by simp [isWord, hc, hw]⟩
      · cases h

end SecureStartup.Text
