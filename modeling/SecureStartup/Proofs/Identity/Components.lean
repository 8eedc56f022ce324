import Mathlib.Data.List.TakeWhile
import SecureStartup.Identity.Basic
import SecureStartup.Proofs.Text.Splitting

/-!
  The components of a principal.

  1. **Program** — `get_components` splits a name such as `app/host@REALM` at every `/` and every `@`, and
     `LoginIdentity.short_user_name` is the first component.

  2. **Specification** — nothing says how many marks a name has, nor that they stand apart: where one is
     at an end, or two are side by side, a component is empty.  The cut loses the marks and nothing else:

     * put back in order between the components they give the name again, and components without marks
       that are put together to a name are those of that name (`principalComponents_compose`);
     * the short name is all that stands before the first mark (`LoginIdentity.shortName_isStem`).
-/

namespace SecureStartup

open SecureStartup.Text

/-! ## Marks -/

/-- A text without a mark. -/
def IsUnmarked (t : String) : Prop := '/' ∉ t.toList ∧ '@' ∉ t.toList

instance (t : String) : Decidable (IsUnmarked t) :=
  inferInstanceAs (Decidable ('/' ∉ t.toList ∧ '@' ∉ t.toList))

/-- The marks of a name, in order. -/
def principalMarks (name : String) : List Char := name.toList.filter fun c => c == '/' || c == '@'

/-- **The name with these components**, and these marks between them. -/
def composePrincipal (marks : List Char) (parts : List String) : String :=
  String.ofList (weave marks (parts.map String.toList))

theorem isPrincipalMark_iff {c : Char} : isPrincipalMark c = true ↔ c = '/' ∨ c = '@' := by
  simp [isPrincipalMark]

theorem isUnmarked_iff {t : String} : IsUnmarked t ↔ ∀ c ∈ t.toList, isPrincipalMark c = false := by
  constructor
  · rintro ⟨hslash, hat⟩ c hc
    refine Bool.eq_false_iff.mpr fun hmark => ?_
    rcases isPrincipalMark_iff.mp hmark with rfl | rfl
    · exact hslash hc
    · exact hat hc
  · intro h
    exact ⟨fun hc => absurd (h _ hc) (by decide), fun hc => absurd (h _ hc) (by decide)⟩

/-! ## Components -/

theorem toList_principalComponents (name : String) :
    (principalComponents name).map String.toList = splitWhere isPrincipalMark name.toList := by
  unfold principalComponents
  simp [Function.comp_def]

theorem isUnmarked_of_mem {name part : String} (h : part ∈ principalComponents name) :
    IsUnmarked part := by
  have hpiece : part.toList ∈ splitWhere isPrincipalMark name.toList := by
    rw [← toList_principalComponents]
    exact List.mem_map_of_mem h
  exact isUnmarked_iff.mpr (not_of_mem_splitWhere _ _ _ hpiece)

theorem length_principalComponents (name : String) :
    (principalComponents name).length = (principalMarks name).length + 1 := by
  unfold principalComponents
  rw [List.length_map, length_splitWhere]
  rfl

/-- A name's own marks between its components are the name. -/
theorem composePrincipal_components (name : String) :
    composePrincipal (principalMarks name) (principalComponents name) = name := by
  have hweave : weave (principalMarks name) (splitWhere isPrincipalMark name.toList) = name.toList :=
    weave_splitWhere isPrincipalMark name.toList
  unfold composePrincipal
  rw [toList_principalComponents, hweave, String.ofList_toList]

/-- **Components that are put together** to a name are those of that name. -/
theorem principalComponents_compose {marks : List Char} {parts : List String}
    (hmarks : ∀ c ∈ marks, c = '/' ∨ c = '@') (hparts : ∀ part ∈ parts, IsUnmarked part)
    (hlen : parts.length = marks.length + 1) :
    principalComponents (composePrincipal marks parts) = parts := by
  have hpieces : ∀ piece ∈ parts.map String.toList, ∀ c ∈ piece, isPrincipalMark c = false := by
    intro piece hpiece
    obtain ⟨part, hpart, rfl⟩ := List.mem_map.mp hpiece
    exact isUnmarked_iff.mp (hparts part hpart)
  have hcut : splitWhere isPrincipalMark (weave marks (parts.map String.toList)) =
      parts.map String.toList :=
    splitWhere_weave (fun c hc => isPrincipalMark_iff.mpr (hmarks c hc)) hpieces
      (by rw [List.length_map, hlen])
  unfold principalComponents composePrincipal
  rw [String.toList_ofList, hcut, List.map_map]
  simp [Function.comp_def]

/-! ## Short names -/

/-- **The longest unmarked text that a name begins with**: every other one is the beginning of it. -/
structure IsStem (stem name : String) : Prop where
  begins : stem.toList <+: name.toList
  unmarked : IsUnmarked stem
  longest : ∀ t : String, t.toList <+: name.toList → IsUnmarked t → t.toList <+: stem.toList

namespace LoginIdentity

/-- The short name goes up to the first mark. -/
theorem shortName_eq (i : LoginIdentity) :
    i.shortName = String.ofList (i.userName.toList.takeWhile fun c => !isPrincipalMark c) := by
  unfold shortName principalComponents
  rw [List.head?_map, Text.head?_splitWhere_eq]
  rfl

theorem shortName_isStem (i : LoginIdentity) : IsStem i.shortName i.userName := by
  rw [shortName_eq]
  refine ⟨?_, isUnmarked_iff.mpr fun c hc => ?_, fun t ht hunmarked => ?_⟩
  · rw [String.toList_ofList]
    exact List.takeWhile_prefix _
  · rw [String.toList_ofList] at hc
    simpa using List.mem_takeWhile_imp hc
  · obtain ⟨rest, hrest⟩ := ht
    have hall : ∀ c ∈ t.toList, (!isPrincipalMark c) = true := by
      intro c hc
      rw [isUnmarked_iff.mp hunmarked c hc]
      rfl
    rw [String.toList_ofList, ← hrest, List.takeWhile_append_of_pos hall]
    exact List.prefix_append _ _

end LoginIdentity

/-! ## The cut as a whole -/

/-- **The components of a principal are what stands between its marks.**  There is always one, and one
    more than there are marks; none has a mark in it; the marks put back between them give the name;
    and the short name is the longest unmarked beginning.  The other way round, a name that is put
    together from short name, instance and realm is cut into these, also where they are empty. -/
theorem principalComponents_between_marks :
    (∀ i : LoginIdentity,
      principalComponents i.userName ≠ [] ∧
      (∀ part ∈ principalComponents i.userName, IsUnmarked part) ∧
      (principalComponents i.userName).length = (principalMarks i.userName).length + 1 ∧
      composePrincipal (principalMarks i.userName) (principalComponents i.userName) = i.userName ∧
      IsStem i.shortName i.userName) ∧
    ∀ short inst realm : String, IsUnmarked short → IsUnmarked inst → IsUnmarked realm →
      principalComponents (short ++ "/" ++ inst ++ "@" ++ realm) = [short, inst, realm] := by
  refine ⟨fun i => ?_, fun short inst realm hshort hinst hrealm => ?_⟩
  · exact ⟨principalComponents_ne_nil _, fun part hpart => isUnmarked_of_mem hpart,
      length_principalComponents _, composePrincipal_components _, i.shortName_isStem⟩
  · have hname : short ++ "/" ++ inst ++ "@" ++ realm =
        composePrincipal ['/', '@'] [short, inst, realm] := by
      rw [← String.toList_inj, composePrincipal, String.toList_ofList]
      simp [weave]
    rw [hname]
    refine principalComponents_compose (by simp) ?_ rfl
    simp [hshort, hinst, hrealm]

/-- A name with marks at both ends and side by side, and one with an instance only. -/
theorem principalComponents_between_marks_adjacent :
    "b" ∈ principalComponents "/a@@b/" ∧ IsUnmarked "b" ∧
      composePrincipal ['/', '@', '@', '/'] (principalComponents "/a@@b/") = "/a@@b/" ∧
      IsUnmarked "" ∧ IsUnmarked "h.x" ∧
      principalComponents ("" ++ "/" ++ "h.x" ++ "@" ++ "") = ["", "h.x", ""] := by
  obtain ⟨hcut, hparts⟩ := principalComponents_between_marks
  obtain ⟨-, hunmarked, -, hwhole, -⟩ := hcut ⟨"/a@@b/"⟩
  have hmem : "b" ∈ principalComponents "/a@@b/" := by decide
  exact ⟨hmem, hunmarked "b" hmem, hwhole, by decide, by decide,
    hparts "" "h.x" "" (by decide) (by decide) (by decide)⟩

end SecureStartup
