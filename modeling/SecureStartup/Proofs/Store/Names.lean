import SecureStartup.Proofs.Path.Parts
import SecureStartup.Store.Layout

/-!
  The names that a store gives out.

  Program: `fetch` calls the copy what the last part of the keytab's path is, and the keytab's own last
  part if that is empty.

  The path of a keytab is checked before it is made (`validate_keytab_name`): no part of the cluster's name
  or of the keytab's own name is `..`, be it between slashes or between backslashes.  Cutting at both is
  finer than cutting at slashes alone (`splitWhere_finer`), so no part of the path is `..` either.  The last
  part of the path is thus the name of an entry (`keytabPath_name`), and never a way out of a directory.
-/

namespace SecureStartup

open SecureStartup.Text

namespace Text

/-- Cutting at more places leaves the pieces alone that have no such place in them. -/
theorem splitWhere_finer {p p' : Char → Bool} (h : ∀ c, p c = true → p' c = true) (s : List Char) :
    ∀ piece more, splitWhere p s = piece :: more →
      ∃ piece' more', splitWhere p' s = piece' :: more' ∧
        ((∀ c ∈ piece, p' c = false) → piece' = piece) ∧
        ∀ q ∈ more, (∀ c ∈ q, p' c = false) → q ∈ more' := by
  induction s with
  | nil =>
    intro piece more hs
    cases hs
    exact ⟨[], [], rfl, fun _ => rfl, fun q hq => absurd hq List.not_mem_nil⟩
  | cons c r ih =>
    intro piece more hs
    -- The pieces of the rest are known; the character in front of it cuts, or joins their first.
    rcases hr : splitWhere p r with _ | ⟨piece₁, more₁⟩
    · exact absurd hr (splitWhere_ne_nil p r)
    obtain ⟨piece', more', hr', hhead, htail⟩ := ih piece₁ more₁ hr
    have hall : ∀ q ∈ piece₁ :: more₁, (∀ c ∈ q, p' c = false) → q ∈ piece' :: more' := by
      intro q hq hfree
      rcases List.mem_cons.mp hq with rfl | hq
      · rw [hhead hfree]
        exact List.mem_cons_self ..
      · exact List.mem_cons_of_mem _ (htail q hq hfree)
    rw [splitWhere, hr] at hs
    rw [splitWhere, hr']
    by_cases hp : p c = true
    · -- both cut here
      rw [if_pos hp] at hs
      cases hs
      rw [if_pos (h c hp)]
      exact ⟨[], piece' :: more', rfl, fun _ => rfl, hall⟩
    · rw [if_neg hp] at hs
      cases hs
      by_cases hp' : p' c = true
      · -- only the finer one cuts here, and the piece with this character is not free of it
        rw [if_pos hp']
        refine ⟨[], piece' :: more', rfl, fun hfree => ?_, fun q hq => ?_⟩
        · have hc := hfree c (List.mem_cons_self ..)
          rw [hp'] at hc
          cases hc
        · exact hall q (List.mem_cons_of_mem _ hq)
      · rw [if_neg hp']
        refine ⟨c :: piece', more', rfl, fun hfree => ?_, htail⟩
        rw [hhead fun d hd => hfree d (List.mem_cons_of_mem _ hd)]

end Text

/-! ## Parts of paths that are put together -/

theorem pathParts_nil : pathParts [] = [] := rfl

/-- Putting a relative text behind a base adds its parts. -/
theorem pathParts_appendPath (base : List Char) {part : List Char} (h : part.head? ≠ some '/') :
    pathParts (appendPath base part) = pathParts base ++ pathParts part := by
  unfold appendPath
  split
  · exact absurd rfl h
  · rcases hl : base.getLast? with _ | c
    · rw [List.getLast?_eq_none_iff.mp hl]
      rfl
    · obtain ⟨front, rfl⟩ := List.getLast?_eq_some_iff.mp hl
      by_cases hc : c = '/'
      · rw [hc]
        show pathParts (front ++ ['/'] ++ part) = pathParts (front ++ '/' :: []) ++ pathParts part
        rw [List.append_assoc, List.singleton_append, pathParts_append, pathParts_append,
          pathParts_nil, List.append_nil]
      · split
        · rename_i h'
          exact nomatch h'
        · rename_i h'
          exact absurd (Option.some.inj h') hc
        · exact pathParts_append (front ++ [c]) part

/-- A path that a store may give out: its last part is a name that does not lead up. -/
def HasName (remote : String) : Prop :=
  ∃ q, (pathParts remote.toList).getLast? = some q ∧ IsPart q ∧ q ≠ ['.', '.']

namespace Store

/-! ## Checked names -/

theorem head?_ne_of_startsWith {s : List Char} (h : startsWith ['/'] s = false) :
    s.head? ≠ some '/' := by
  rcases s with _ | ⟨c, r⟩
  · exact nofun
  · intro hc
    cases Option.some.inj hc
    exact nomatch h

/-- **A name that was checked**: it is relative, and no part of it leads up. -/
theorem checkText_ok {what name : String} (h : checkText what name = .ok ()) :
    name.toList.head? ≠ some '/' ∧ ∀ q ∈ pathParts name.toList, q ≠ ['.', '.'] := by
  unfold checkText at h
  by_cases h₁ : (name == "") = true
  · rw [if_pos h₁] at h
    exact nomatch h
  rw [if_neg h₁] at h
  by_cases h₂ : startsWith ['/'] name.toList = true
  · rw [if_pos h₂] at h
    exact nomatch h
  rw [if_neg h₂] at h
  by_cases h₃ : (nameParts name.toList).contains ['.', '.'] = true
  · rw [if_pos h₃] at h
    exact nomatch h
  refine ⟨head?_ne_of_startsWith (Bool.eq_false_iff.mpr h₂), ?_⟩
  rintro q hq rfl
  refine h₃ (List.contains_iff_mem.mpr ?_)
  -- a part between slashes is also a piece between slashes and backslashes
  have hmem : ['.', '.'] ∈ splitWhere (· == '/') name.toList := (List.mem_filter.mp hq).1
  rcases hs : splitWhere (· == '/') name.toList with _ | ⟨piece, more⟩
  · exact absurd hs (splitWhere_ne_nil _ _)
  have hfree : ∀ c ∈ ['.', '.'], (c == '/' || c == '\\') = false := by
    intro c hc
    obtain rfl : c = '.' := (List.mem_cons.mp hc).elim id List.mem_singleton.mp
    rfl
  have hfiner : ∀ c, (c == '/') = true → (c == '/' || c == '\\') = true := fun c hc => by
    rw [hc, Bool.true_or]
  obtain ⟨piece', more', hs', hhead, htail⟩ := splitWhere_finer hfiner name.toList piece more hs
  show ['.', '.'] ∈ splitWhere (fun c => c == '/' || c == '\\') name.toList
  rw [hs']
  rw [hs] at hmem
  rcases List.mem_cons.mp hmem with rfl | hmem
  · rw [hhead hfree]
    exact List.mem_cons_self ..
  · exact List.mem_cons_of_mem _ (htail _ hmem hfree)

/-- A path is only made of texts that were checked. -/
theorem keytabPath_ok {base cluster : Value} {keytab remote : String}
    (h : keytabPath base cluster (.str keytab) = .ok remote) :
    ∃ b c, base = .str b ∧ cluster = .str c ∧ checkText "cluster name" c = .ok () ∧
      checkText "keytab name" keytab = .ok () ∧
      remote.toList = layoutPath b.toList c.toList keytab.toList := by
  unfold keytabPath at h
  rcases hc : checkName "cluster name" cluster with f | _
  · rw [hc] at h
    cases h
  rcases hk : checkName "keytab name" (.str keytab) with f | _
  · rw [hc, hk] at h
    cases h
  rw [hc, hk] at h
  cases base with
  | str b =>
    cases cluster with
    | str c =>
      cases h
      exact ⟨b, c, rfl, rfl, hc, hk, String.toList_ofList⟩
    | _ => cases h
  | _ => cases h

/-- Only a text names a keytab. -/
theorem keytabPath_str {base cluster keytab : Value} {remote : String}
    (h : keytabPath base cluster keytab = .ok remote) : ∃ own, keytab = .str own := by
  unfold keytabPath at h
  rcases hc : checkName "cluster name" cluster with f | _
  · rw [hc] at h
    cases h
  rcases hk : checkName "keytab name" keytab with f | _
  · rw [hc, hk] at h
    cases h
  simp only [hc, hk, bind, Except.bind] at h
  split at h
  · exact ⟨_, rfl⟩
  · cases h
  · cases h

/-- The parts of a keytab's path. -/
theorem pathParts_layoutPath (base : List Char) {cluster keytab : List Char}
    (hc : cluster.head? ≠ some '/') (hk : keytab.head? ≠ some '/') :
    pathParts (layoutPath base cluster keytab) =
      pathParts (trimBase base) ++ ["cluster".toList] ++ pathParts cluster ++ ["keytabs".toList] ++
        pathParts keytab := by
  show pathParts
    (appendPath (appendPath (appendPath (appendPath (trimBase base) _) cluster) _) keytab) = _
  rw [pathParts_appendPath _ hk, pathParts_appendPath _ (by decide), pathParts_appendPath _ hc,
    pathParts_appendPath _ (by decide)]
  rfl

/-- **The last part of a path that a store gives out** is a name, and does not lead up. -/
theorem keytabPath_name {base cluster : Value} {keytab remote : String}
    (h : keytabPath base cluster (.str keytab) = .ok remote) : HasName remote := by
  obtain ⟨b, c, rfl, rfl, hc, hk, hr⟩ := keytabPath_ok h
  obtain ⟨hchead, _⟩ := checkText_ok hc
  obtain ⟨hkhead, hkparts⟩ := checkText_ok hk
  unfold HasName
  rw [hr, pathParts_layoutPath _ hchead hkhead, List.getLast?_append]
  rcases hq : (pathParts keytab.toList).getLast? with _ | q
  · -- a name of dots and slashes only: the path ends in the directory of the keytabs
    refine ⟨"keytabs".toList, ?_, ⟨by decide, by decide, by decide⟩, by decide⟩
    rw [Option.none_or, List.getLast?_concat]
  · have hmem : q ∈ pathParts keytab.toList := List.mem_of_getLast? hq
    exact ⟨q, rfl, isPart_of_mem_pathParts hmem, hkparts q hmem⟩

end Store

end SecureStartup
