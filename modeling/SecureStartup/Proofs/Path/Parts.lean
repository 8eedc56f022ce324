import SecureStartup.Proofs.Disk.Walk
import SecureStartup.Proofs.Text.Splitting

/-!
  The names in the text of a path.

  Program: `staging_root.absolute() / name`, `staging_dir / file_name` and `str(path)`, which a staging
  does with paths while the system is given their texts.

  A parsed path is CLEAN: its parts are not empty, are no `.`, and hold no slash.  So its text can be
  taken apart again, the names that a walk looks up are its parts (`pathNames_text`), and the path of
  something in a directory has the names of the directory's path and one more
  (`EndsInPart.pathNames_child`).
-/

namespace SecureStartup

open SecureStartup.Text

/-! ## Parts of texts -/

/-- Putting a text behind a slash adds its parts. -/
theorem pathParts_append (a b : List Char) :
    pathParts (a ++ '/' :: b) = pathParts a ++ pathParts b := by
  unfold pathParts
  rw [splitOn_append, List.filter_append]

/-- What the parts of a path are like. -/
def IsPart (q : List Char) : Prop := q ≠ [] ∧ q ≠ ['.'] ∧ '/' ∉ q

theorem isPart_of_mem_pathParts {s q : List Char} (h : q ∈ pathParts s) : IsPart q := by
  obtain ⟨hmem, hf⟩ := List.mem_filter.mp h
  rw [Bool.not_eq_true', Bool.or_eq_false_iff] at hf
  refine ⟨beq_eq_false_iff_ne.mp hf.1, beq_eq_false_iff_ne.mp hf.2, fun hs => ?_⟩
  have := not_of_mem_splitWhere (· == '/') s q hmem '/' hs
  exact nomatch this

/-- A part by itself is its only part. -/
theorem pathParts_of_isPart {q : List Char} (h : IsPart q) : pathParts q = [q] := by
  unfold pathParts
  rw [splitOn_of_not_mem h.2.2, List.filter_cons_of_pos]
  · rfl
  · rw [beq_eq_false_iff_ne.mpr h.1, beq_eq_false_iff_ne.mpr h.2.1]
    rfl

/-- A text that begins with some other character than a slash or a dot has a part. -/
theorem pathParts_ne_nil {c : Char} (h₁ : c ≠ '/') (h₂ : c ≠ '.') (r : List Char) :
    pathParts (c :: r) ≠ [] := by
  obtain ⟨piece, more, hs⟩ : ∃ piece more, splitWhere (· == '/') (c :: r) = (c :: piece) :: more := by
    rw [splitWhere, if_neg fun h => h₁ (beq_iff_eq.mp h)]
    rcases hr : splitWhere (· == '/') r with _ | ⟨piece, more⟩
    · exact ⟨[], [], rfl⟩
    · exact ⟨piece, more, rfl⟩
  intro hnil
  have hmem : c :: piece ∈ pathParts (c :: r) := by
    refine List.mem_filter.mpr ⟨?_, ?_⟩
    · show c :: piece ∈ splitWhere (· == '/') (c :: r)
      rw [hs]
      exact List.mem_cons_self ..
    · have hd : (c :: piece == ['.']) = false :=
        beq_eq_false_iff_ne.mpr fun h => h₂ (List.cons.inj h).1
      rw [hd]
      rfl
  rw [hnil] at hmem
  exact absurd hmem List.not_mem_nil

namespace PurePath

/-! ## Clean paths -/

/-- **A clean path** that starts at the root. -/
structure IsClean (p : PurePath) : Prop where
  root : p.root = ['/'] ∨ p.root = ['/', '/']
  parts : ∀ q ∈ p.parts, IsPart q

theorem isClean_ofString {s : String} (h : startsAtRoot s = true) : (ofString s).IsClean where
  root := by
    unfold startsAtRoot at h
    show rootOf s.toList = _ ∨ rootOf s.toList = _
    rcases hs : s.toList with _ | ⟨c, r⟩
    · rw [hs] at h
      exact nomatch h
    · rw [hs] at h
      cases Option.some.inj (eq_of_beq h)
      unfold rootOf
      split
      · exact .inl rfl
      · exact .inr rfl
      · exact .inl rfl
      · rename_i hno
        exact absurd rfl (hno r)
  parts _ hq := isPart_of_mem_pathParts hq

theorem startsAtRoot_of_isAbsolute {s : String} (h : (ofString s).isAbsolute = true) :
    startsAtRoot s = true := by
  have hroot : rootOf s.toList ≠ [] := by
    intro hnil
    have hf : (!(rootOf s.toList).isEmpty) = true := h
    rw [hnil] at hf
    exact nomatch hf
  unfold startsAtRoot
  rcases hs : s.toList with _ | ⟨c, r⟩
  · rw [hs] at hroot
    exact absurd rfl hroot
  · by_cases hc : c = '/'
    · rw [hc]
      rfl
    · have hnil : rootOf (c :: r) = [] := by
        unfold rootOf
        split
        · rename_i heq
          exact absurd (List.cons.inj heq).1 hc
        · rename_i heq
          exact absurd (List.cons.inj heq).1 hc
        · rename_i heq
          exact absurd (List.cons.inj heq).1 hc
        · rfl
      rw [hs, hnil] at hroot
      exact absurd rfl hroot

theorem IsClean.toList_text {p : PurePath} (hp : p.IsClean) :
    p.text.toList = p.root ++ joinWith ['/'] p.parts := by
  unfold PurePath.text
  rcases hp.root with hr | hr <;> rw [hr] <;> exact String.toList_ofList

/-- The text of a clean path starts at the root. -/
theorem IsClean.startsAtRoot_text {p : PurePath} (hp : p.IsClean) : startsAtRoot p.text = true := by
  unfold startsAtRoot
  rw [hp.toList_text]
  rcases hp.root with hr | hr <;> rw [hr] <;> rfl

/-- **The names in the text of a path** are its parts. -/
theorem IsClean.pathNames_text {p : PurePath} (hp : p.IsClean) (hne : p.parts ≠ []) :
    pathNames p.text = p.parts.map String.ofList := by
  have hslash : ∀ q ∈ p.parts, '/' ∉ q := fun q hq => (hp.parts q hq).2.2
  -- the empty pieces in front come from the root
  have hnames : (splitOn '/' p.text.toList).filter (fun q => !q.isEmpty) = p.parts := by
    have hparts : p.parts.filter (fun q => !q.isEmpty) = p.parts := by
      refine List.filter_eq_self.mpr fun q hq => ?_
      rw [List.isEmpty_eq_false_iff.mpr (hp.parts q hq).1]
      rfl
    rw [hp.toList_text]
    rcases hp.root with hr | hr
    · rw [hr, show ['/'] ++ joinWith ['/'] p.parts = [] ++ '/' :: joinWith ['/'] p.parts from rfl,
        splitOn_append, splitOn_joinWith hne hslash]
      exact hparts
    · rw [hr, show ['/', '/'] ++ joinWith ['/'] p.parts =
          [] ++ '/' :: ([] ++ '/' :: joinWith ['/'] p.parts) from rfl,
        splitOn_append, splitOn_append, splitOn_joinWith hne hslash]
      exact hparts
  -- and no slash stands at the end
  have hlast : (p.text.toList.getLast? == some '/') = false := by
    obtain ⟨q, hq⟩ : ∃ q, p.parts.getLast? = some q :=
      ⟨_, List.getLast?_eq_some_getLast hne⟩
    have hmem : q ∈ p.parts := List.mem_of_getLast? hq
    have hqne : q ≠ [] := (hp.parts q hmem).1
    rw [hp.toList_text, List.getLast?_append, getLast?_joinWith hq hqne]
    rcases hc : q.getLast? with _ | c
    · exact absurd (List.getLast?_eq_none_iff.mp hc) hqne
    · refine beq_eq_false_iff_ne.mpr fun h => hslash q hmem ?_
      cases Option.some.inj h
      exact List.mem_of_getLast? hc
  unfold pathNames
  rw [hnames, hlast]
  rfl

/-- A part by itself, put behind a path. -/
theorem child_of_isPart (p : PurePath) {n : String} (hn : IsPart n.toList) :
    p.child n = ⟨p.root, p.parts ++ [n.toList]⟩ := by
  have hrel : (ofString n).isAbsolute = false := by
    rcases ha : (ofString n).isAbsolute with _ | _
    · rfl
    · have hs := startsAtRoot_of_isAbsolute ha
      exact absurd (List.mem_of_mem_head? (eq_of_beq hs)) hn.2.2
  have hparts : (ofString n).parts = [n.toList] := pathParts_of_isPart hn
  unfold child join
  rw [hrel, hparts]
  rfl

theorem joinWith_concat {sep q : List Char} {parts : List (List Char)} (hne : parts ≠ []) :
    joinWith sep (parts ++ [q]) = joinWith sep parts ++ sep ++ q := by
  induction parts with
  | nil => exact absurd rfl hne
  | cons p ps ih =>
    rcases ps with _ | ⟨p₁, ps⟩
    · rfl
    · show p ++ sep ++ joinWith sep (p₁ :: ps ++ [q]) = p ++ sep ++ joinWith sep (p₁ :: ps) ++ sep ++ q
      rw [ih (List.cons_ne_nil _ _)]
      simp only [List.append_assoc]

/-! ## One more name -/

/-- **A path that ends in a part**: it is not the root, nor the directory that it is seen from. -/
def EndsInPart (p : PurePath) : Prop := ∃ q, p.parts.getLast? = some q ∧ IsPart q

namespace EndsInPart

variable {p : PurePath} (hp : p.EndsInPart)

include hp

theorem parts_ne_nil : p.parts ≠ [] := by
  obtain ⟨q, hq, _⟩ := hp
  rintro hnil
  rw [hnil] at hq
  exact nomatch hq

/-- The last letter of the text. -/
theorem getLast?_joinWith : ∃ c, (joinWith ['/'] p.parts).getLast? = some c ∧ c ≠ '/' := by
  obtain ⟨q, hq, hpart⟩ := hp
  rw [SecureStartup.getLast?_joinWith hq hpart.1]
  rcases hc : q.getLast? with _ | c
  · exact absurd (List.getLast?_eq_none_iff.mp hc) hpart.1
  · exact ⟨c, rfl, fun h => hpart.2.2 (h ▸ List.mem_of_getLast? hc)⟩

theorem toList_text : p.text.toList = p.root ++ joinWith ['/'] p.parts := by
  obtain ⟨c, hc, _⟩ := hp.getLast?_joinWith
  have hne : joinWith ['/'] p.parts ≠ [] := by
    rintro hnil
    rw [hnil] at hc
    exact nomatch hc
  unfold PurePath.text
  split
  · rename_i h
    exact absurd (List.append_eq_nil_iff.mp h).2 hne
  · exact String.toList_ofList

/-- The text of a path with one more name. -/
theorem text_child {n : String} (hn : IsPart n.toList) : (p.child n).text = p.text ++ "/" ++ n := by
  have hlast : (p.child n).EndsInPart := by
    rw [child_of_isPart p hn]
    exact ⟨n.toList, List.getLast?_concat, hn⟩
  refine String.toList_inj.mp ?_
  rw [hlast.toList_text, child_of_isPart p hn]
  simp only
  rw [joinWith_concat hp.parts_ne_nil, String.toList_append, String.toList_append, hp.toList_text]
  simp only [List.append_assoc]
  rfl

/-- **One more name** is one more name to look up. -/
theorem pathNames_child {n : String} (hn : IsPart n.toList) :
    pathNames (p.child n).text = pathNames p.text ++ [n] ∧
      startsAtRoot (p.child n).text = startsAtRoot p.text := by
  obtain ⟨c, hc, hslash⟩ := hp.getLast?_joinWith
  have htext : (p.child n).text.toList = p.text.toList ++ '/' :: n.toList := by
    rw [hp.text_child hn, String.toList_append, String.toList_append, List.append_assoc]
    rfl
  have hlast : p.text.toList.getLast? = some c := by
    rw [hp.toList_text, List.getLast?_append, hc]
    rfl
  obtain ⟨b, hb⟩ : ∃ b, n.toList.getLast? = some b :=
    ⟨_, List.getLast?_eq_some_getLast hn.1⟩
  have hbslash : b ≠ '/' := fun h => hn.2.2 (h ▸ List.mem_of_getLast? hb)
  constructor
  · -- neither text ends in a slash, and the new piece is the name
    have hnew : ((p.child n).text.toList.getLast? == some '/') = false := by
      rw [htext, List.getLast?_append, List.getLast?_cons, hb]
      exact beq_eq_false_iff_ne.mpr fun h => hbslash (Option.some.inj h)
    have hold : (p.text.toList.getLast? == some '/') = false := by
      rw [hlast]
      exact beq_eq_false_iff_ne.mpr fun h => hslash (Option.some.inj h)
    have hkept : [n.toList].filter (fun q => !q.isEmpty) = [n.toList] := by
      simp [List.isEmpty_eq_false_iff.mpr hn.1]
    unfold pathNames
    rw [hnew, hold, htext, splitOn_append, splitOn_of_not_mem hn.2.2, List.filter_append, hkept,
      List.map_append]
    simp
  · unfold startsAtRoot
    rw [htext]
    rcases hs : p.text.toList with _ | ⟨a, r⟩
    · rw [hs] at hlast
      exact nomatch hlast
    · rfl

end EndsInPart

end PurePath

end SecureStartup
