import SecureStartup.Proofs.Path.Normal
import SecureStartup.Proofs.Store.Names

/-!
  Names cannot lead out of the directory of a cluster's keytabs.

  Program: `validate_keytab_name` refuses names, and `build_keytab_path` puts the others together.

  1. **The names that are refused** — `IsUnfit` says it of the name itself: it is empty, it starts at
     the root, or `..` stands in it between separators, slashes or backslashes.  A name is refused
     exactly then, as a wrong value (`checkText_cases`).

  2. **The path of all others** — its parts are those of the base, `cluster`, those of the cluster's
     name, `keytabs`, and those of the keytab's name, and it starts at the root as the base does.

  3. **Why it stays below** — following `..` lexically takes back parts of the BASE only: behind it
     there is none (`collapse_append`).
-/

namespace SecureStartup

open SecureStartup.Text

/-! ## Pieces of a text -/

namespace Text

variable {p : Char → Bool} {piece : List Char}

/-- A piece stands in a text between separators: nothing but a separator can be next to it. -/
def StandsIn (p : Char → Bool) (piece s : List Char) : Prop :=
  ∃ front back, s = front ++ piece ++ back ∧ (∀ c ∈ front.getLast?, p c = true) ∧
    ∀ c ∈ back.head?, p c = true

/-- What stands at the very start of a text is its first piece. -/
theorem head?_splitWhere (hp : ∀ c ∈ piece, p c = false) {back : List Char}
    (hb : ∀ c ∈ back.head?, p c = true) : (splitWhere p (piece ++ back)).head? = some piece := by
  rcases back with _ | ⟨c, r⟩
  · rw [List.append_nil, splitWhere_of_forall hp]
    rfl
  · rw [splitWhere_append (hb c rfl), splitWhere_of_forall hp]
    rfl

/-- Every text is a piece, and what follows it begins with a separator. -/
theorem exists_piece_append (p : Char → Bool) (s : List Char) :
    ∃ piece back, s = piece ++ back ∧ (∀ c ∈ piece, p c = false) ∧ ∀ c ∈ back.head?, p c = true := by
  induction s with
  | nil => exact ⟨[], [], rfl, nofun, nofun⟩
  | cons c r ih =>
    by_cases hc : p c = true
    · refine ⟨[], c :: r, rfl, nofun, ?_⟩
      rintro d ⟨⟩
      exact hc
    · obtain ⟨piece, back, rfl, hpiece, hback⟩ := ih
      refine ⟨c :: piece, back, rfl, ?_, hback⟩
      intro d hd
      rcases List.mem_cons.mp hd with rfl | hd
      · exact Bool.eq_false_iff.mpr hc
      · exact hpiece d hd

/-- **The pieces of a text** are what stands in it between separators.  By induction on the length of
    the text: a piece is the first one, or is found behind the first separator. -/
theorem mem_splitWhere_iff (hp : ∀ c ∈ piece, p c = false) (s : List Char) :
    piece ∈ splitWhere p s ↔ StandsIn p piece s := by
  constructor
  · intro h
    -- On the length: what stands after the first cut is the shorter text.
    induction hn : s.length using Nat.strongRecOn generalizing s with
    | _ n ih =>
      subst hn
      obtain ⟨first, back, rfl, hfirst, hback⟩ := exists_piece_append p s
      rcases back with _ | ⟨c, r⟩
      · rw [List.append_nil, splitWhere_of_forall hfirst] at h
        obtain rfl : piece = first := List.mem_singleton.mp h
        exact ⟨[], [], rfl, nofun, nofun⟩
      · have hc : p c = true := hback c rfl
        rw [splitWhere_append hc, splitWhere_of_forall hfirst] at h
        rcases List.mem_cons.mp h with rfl | h
        · exact ⟨[], c :: r, rfl, nofun, hback⟩
        · have hlt : r.length < (first ++ c :: r).length := by
            rw [List.length_append, List.length_cons]
            omega
          obtain ⟨front, back, rfl, hfront, hback⟩ := ih _ hlt r h rfl
          refine ⟨first ++ c :: front, back, by simp, ?_, hback⟩
          intro d hd
          rw [List.getLast?_append, List.getLast?_cons] at hd
          rcases hlast : front.getLast? with _ | e
          · rw [hlast] at hd
            cases hd
            exact hc
          · rw [hlast] at hd
            cases hd
            exact hfront e hlast
  -- The text before the piece is empty or ends in a cut.
  · rintro ⟨front, back, rfl, hfront, hback⟩
    rcases List.eq_nil_or_concat front with rfl | ⟨front, c, rfl⟩
    · exact List.mem_of_mem_head? (head?_splitWhere hp hback)
    · have hc : p c = true := hfront c (by rw [List.concat_eq_append, List.getLast?_concat]; rfl)
      have hs : front.concat c ++ piece ++ back = front ++ c :: (piece ++ back) := by simp
      rw [hs, splitWhere_append hc]
      exact List.mem_append_right _ (List.mem_of_mem_head? (head?_splitWhere hp hback))

end Text

/-! ## Following `..` without a disk -/

theorem foldl_step_of_forall {parts : List (List Char)} (h : ∀ q ∈ parts, q ≠ ['.', '.'])
    (absolute : Bool) (acc : List (List Char)) :
    parts.foldl (collapse.step absolute) acc = parts.reverse ++ acc := by
  induction parts generalizing acc with
  | nil => rfl
  | cons q qs ih =>
    have hq : collapse.step absolute acc q = q :: acc :=
      if_neg fun hd => h q (List.mem_cons_self ..) (eq_of_beq hd)
    rw [List.foldl_cons, hq, ih fun r hr => h r (List.mem_cons_of_mem _ hr), List.reverse_cons,
      List.append_assoc]
    rfl

/-- **Parts that do not lead up** stay behind what the base comes to. -/
theorem collapse_append (absolute : Bool) (base : List (List Char)) {parts : List (List Char)}
    (h : ∀ q ∈ parts, q ≠ ['.', '.']) :
    collapse absolute (base ++ parts) = collapse absolute base ++ parts := by
  unfold collapse
  rw [List.foldl_append, foldl_step_of_forall h, List.reverse_append, List.reverse_reverse]

namespace Store

/-! ## Names that are refused -/

/-- What separates the parts of a name. -/
def isNameMark (c : Char) : Bool := c == '/' || c == '\\'

/-- **An unfit name**: empty, starting at the root, or with a part that leads up. -/
def IsUnfit (name : String) : Prop :=
  name = "" ∨ startsAtRoot name = true ∨ StandsIn isNameMark ['.', '.'] name.toList

theorem climbs_iff (name : List Char) :
    (nameParts name).contains ['.', '.'] = true ↔ StandsIn isNameMark ['.', '.'] name := by
  have hfree : ∀ c ∈ ['.', '.'], isNameMark c = false := by
    intro c hc
    simp only [List.mem_cons, List.not_mem_nil, or_false, or_self] at hc
    rw [hc]
    rfl
  rw [List.contains_iff_mem]
  exact mem_splitWhere_iff hfree name

theorem startsWith_slash (s : String) : startsWith ['/'] s.toList = startsAtRoot s := by
  unfold startsAtRoot
  rcases s.toList with _ | ⟨c, r⟩
  · rfl
  · show (if '/' == c then dropLead [] r else none).isSome = (some c == some '/')
    by_cases hc : c = '/'
    · rw [hc]
      rfl
    · rw [if_neg fun h => hc (eq_of_beq h).symm]
      exact (beq_eq_false_iff_ne.mpr fun h => hc (Option.some.inj h)).symm

/-- **A name is refused** exactly when it is unfit, and always as a wrong value. -/
theorem checkText_cases (what name : String) :
    (IsUnfit name ∧ ∃ f, checkText what name = .error f ∧ f.name = "ValueError") ∨
      (¬ IsUnfit name ∧ checkText what name = .ok ()) := by
  unfold checkText
  by_cases hempty : name = ""
  · exact .inl ⟨.inl hempty, _, if_pos (beq_iff_eq.mpr hempty), rfl⟩
  rw [if_neg fun h => hempty (eq_of_beq h), startsWith_slash]
  by_cases hroot : startsAtRoot name = true
  · exact .inl ⟨.inr (.inl hroot), _, if_pos hroot, rfl⟩
  rw [if_neg hroot]
  by_cases hclimbs : (nameParts name.toList).contains ['.', '.'] = true
  · exact .inl ⟨.inr (.inr ((climbs_iff _).mp hclimbs)), _, if_pos hclimbs, rfl⟩
  · refine .inr ⟨?_, if_neg hclimbs⟩
    rintro (h | h | h)
    · exact hempty h
    · exact hroot h
    · exact hclimbs ((climbs_iff _).mpr h)

instance (name : String) : Decidable (IsUnfit name) :=
  decidable_of_iff (name = "" ∨ startsAtRoot name = true ∨
      (nameParts name.toList).contains ['.', '.'] = true) <| by
    unfold IsUnfit
    rw [climbs_iff]

/-! ## The base -/

theorem trimBase_concat_slash (base : List Char) : trimBase (base ++ ['/']) = trimBase base := by
  unfold trimBase
  rw [List.reverse_append]
  rfl

theorem trimBase_of_getLast? {base : List Char} {c : Char} (hc : c ≠ '/') :
    trimBase (base ++ [c]) = base ++ [c] := by
  have hback : ((base ++ [c]).reverse.dropWhile (· == '/')).reverse = base ++ [c] := by
    rw [List.reverse_append, List.reverse_singleton, List.singleton_append, List.dropWhile_cons,
      if_neg fun h => hc (eq_of_beq h), List.reverse_cons, List.reverse_reverse]
  unfold trimBase
  rw [hback]
  split
  · rename_i h
    exact absurd h (List.append_ne_nil_of_right_ne_nil _ (List.cons_ne_nil _ _))
  · rfl

/-- **A base without the slashes at its end** has the parts of the base, and starts at the root as the
    base does. -/
theorem trimBase_spec (base : List Char) :
    pathParts (trimBase base) = pathParts base ∧ trimBase base ≠ [] ∧
      (base ≠ [] → (trimBase base).head? = base.head?) := by
  induction hn : base.length generalizing base with
  | zero =>
    obtain rfl := List.length_eq_zero_iff.mp hn
    exact ⟨rfl, List.cons_ne_nil _ _, fun h => absurd rfl h⟩
  | succ n ih =>
    rcases List.eq_nil_or_concat base with rfl | ⟨front, c, rfl⟩
    · cases hn
    rw [List.concat_eq_append] at hn ⊢
    rw [List.length_append] at hn
    by_cases hc : c = '/'
    · obtain ⟨hparts, hne, hhead⟩ := ih front (Nat.succ.inj hn)
      subst hc
      rw [trimBase_concat_slash]
      refine ⟨?_, hne, fun _ => ?_⟩
      · rw [hparts, pathParts_append, pathParts_nil, List.append_nil]
      · rcases front with _ | ⟨d, r⟩
        · rfl
        · exact hhead (List.cons_ne_nil _ _)
    · rw [trimBase_of_getLast? hc]
      exact ⟨rfl, by simp, fun _ => rfl⟩

theorem head?_appendPath {base : List Char} (hb : base ≠ []) (part : List Char)
    (hp : part.head? ≠ some '/') :
    (appendPath base part).head? = base.head? ∧ appendPath base part ≠ [] := by
  obtain ⟨c, r, rfl⟩ := List.exists_cons_of_ne_nil hb
  unfold appendPath
  split
  · exact absurd rfl hp
  · split <;> exact ⟨rfl, List.cons_ne_nil _ _⟩

/-- The path of a keytab starts at the root as the base does. -/
theorem head?_layoutPath {base cluster keytab : List Char} (hb : base ≠ [])
    (hc : cluster.head? ≠ some '/') (hk : keytab.head? ≠ some '/') :
    (layoutPath base cluster keytab).head? = base.head? := by
  obtain ⟨-, hne, hhead⟩ := trimBase_spec base
  obtain ⟨h₁, hne₁⟩ := head?_appendPath hne "cluster".toList (by decide)
  obtain ⟨h₂, hne₂⟩ := head?_appendPath hne₁ cluster hc
  obtain ⟨h₃, hne₃⟩ := head?_appendPath hne₂ "keytabs".toList (by decide)
  obtain ⟨h₄, -⟩ := head?_appendPath hne₃ keytab hk
  calc (layoutPath base cluster keytab).head?
      = (trimBase base).head? := h₄.trans (h₃.trans (h₂.trans h₁))
    _ = base.head? := hhead hb

/-! ## The path of a keytab -/

/-- The parts between the base and the name of the keytab. -/
def clusterParts (cluster : String) : List (List Char) :=
  ["cluster".toList] ++ pathParts cluster.toList ++ ["keytabs".toList]

/-- **A path in the directory of a cluster's keytabs.** -/
structure IsBelow (base cluster keytab path : String) : Prop where
  /-- Its parts are those of the base, of the directory and of the name. -/
  parts : pathParts path.toList =
    pathParts base.toList ++ clusterParts cluster ++ pathParts keytab.toList
  /-- It is absolute as the base is. -/
  root : (PurePath.ofString path).isAbsolute = (PurePath.ofString base).isAbsolute
  /-- No part that was added leads up. -/
  stays : ∀ q ∈ clusterParts cluster ++ pathParts keytab.toList, q ≠ ['.', '.']
  /-- With `..` followed, it is the directory's path and the name behind it, and the directory's path
      is the base's and the directory's name behind it. -/
  collapsed : (PurePath.ofString path).collapsed.parts =
      collapse (PurePath.ofString base).isAbsolute (pathParts base.toList ++ clusterParts cluster) ++
        pathParts keytab.toList ∧
    collapse (PurePath.ofString base).isAbsolute (pathParts base.toList ++ clusterParts cluster) =
      (PurePath.ofString base).collapsed.parts ++ clusterParts cluster

/-- A path is absolute when its text starts at the root. -/
theorem isAbsolute_ofString (s : String) : (PurePath.ofString s).isAbsolute = startsAtRoot s := by
  refine Bool.eq_iff_iff.mpr ⟨PurePath.startsAtRoot_of_isAbsolute, fun h => ?_⟩
  unfold PurePath.isAbsolute
  rcases (PurePath.isClean_ofString h).root with hr | hr <;> rw [hr] <;> rfl

theorem not_climbs_clusterParts {cluster : String}
    (h : ∀ q ∈ pathParts cluster.toList, q ≠ ['.', '.']) :
    ∀ q ∈ clusterParts cluster, q ≠ ['.', '.'] := by
  intro q hq
  unfold clusterParts at hq
  rcases List.mem_append.mp hq with hq | hq
  · rcases List.mem_append.mp hq with hq | hq
    · rw [List.mem_singleton.mp hq]
      decide
    · exact h q hq
  · rw [List.mem_singleton.mp hq]
    decide

/-- **The layout of two names that were checked** is a path in the directory of the keytabs. -/
theorem isBelow_layoutPath {base cluster keytab : String} (hb : base ≠ "")
    (hc : checkText "cluster name" cluster = .ok ()) (hk : checkText "keytab name" keytab = .ok ()) :
    IsBelow base cluster keytab
      (String.ofList (layoutPath base.toList cluster.toList keytab.toList)) := by
  obtain ⟨hchead, hcparts⟩ := checkText_ok hc
  obtain ⟨hkhead, hkparts⟩ := checkText_ok hk
  have hcluster := not_climbs_clusterParts hcparts
  have hstays : ∀ q ∈ clusterParts cluster ++ pathParts keytab.toList, q ≠ ['.', '.'] := by
    intro q hq
    rcases List.mem_append.mp hq with hq | hq
    · exact hcluster q hq
    · exact hkparts q hq
  have hparts : pathParts (layoutPath base.toList cluster.toList keytab.toList) =
      pathParts base.toList ++ clusterParts cluster ++ pathParts keytab.toList := by
    rw [pathParts_layoutPath _ hchead hkhead, (trimBase_spec _).1]
    unfold clusterParts
    rw [List.append_assoc (pathParts base.toList), List.append_assoc (pathParts base.toList)]
  have hroot : (PurePath.ofString (String.ofList
      (layoutPath base.toList cluster.toList keytab.toList))).isAbsolute =
        (PurePath.ofString base).isAbsolute := by
    have hne : base.toList ≠ [] := fun h => hb (String.toList_eq_nil_iff.mp h)
    rw [isAbsolute_ofString, isAbsolute_ofString]
    unfold startsAtRoot
    rw [String.toList_ofList, head?_layoutPath hne hchead hkhead]
  refine ⟨by rw [String.toList_ofList, hparts], hroot, hstays, ?_, collapse_append _ _ hcluster⟩
  show collapse _ (pathParts (String.ofList _).toList) = _
  rw [hroot, String.toList_ofList, hparts, collapse_append _ _ hkparts]

theorem keytabPath_of_checked (base : String) {cluster keytab : String}
    (hc : checkText "cluster name" cluster = .ok ()) (hk : checkText "keytab name" keytab = .ok ()) :
    keytabPath (.str base) (.str cluster) (.str keytab) =
      .ok (String.ofList (layoutPath base.toList cluster.toList keytab.toList)) := by
  show (checkText "cluster name" cluster >>= fun _ => checkText "keytab name" keytab >>= fun _ => _) = _
  rw [hc, hk]
  rfl

/-- **Names cannot leave the directory of a cluster's keytabs.**  A path is refused, as a wrong value,
    exactly when one of the two names is unfit; with fit names there is a path, and it is the path of
    something below the directory. -/
theorem keytabPath_confined (base cluster keytab : String) (hb : base ≠ "") :
    ((∃ f, keytabPath (.str base) (.str cluster) (.str keytab) = .error f ∧ f.name = "ValueError") ↔
      IsUnfit cluster ∨ IsUnfit keytab) ∧
    (¬ (IsUnfit cluster ∨ IsUnfit keytab) →
      ∃ path, keytabPath (.str base) (.str cluster) (.str keytab) = .ok path ∧
        IsBelow base cluster keytab path) := by
  rcases checkText_cases "cluster name" cluster with ⟨hc, f, hf, hname⟩ | ⟨hc, hcok⟩
  · -- the cluster's name is refused
    have hrun : keytabPath (.str base) (.str cluster) (.str keytab) = .error f := by
      show (checkText "cluster name" cluster >>= fun _ => _) = _
      rw [hf]
      rfl
    exact ⟨⟨fun _ => .inl hc, fun _ => ⟨f, hrun, hname⟩⟩, fun h => absurd (.inl hc) h⟩
  rcases checkText_cases "keytab name" keytab with ⟨hk, f, hf, hname⟩ | ⟨hk, hkok⟩
  · -- the keytab's own name is refused
    have hrun : keytabPath (.str base) (.str cluster) (.str keytab) = .error f := by
      show (checkText "cluster name" cluster >>= fun _ =>
        checkText "keytab name" keytab >>= fun _ => _) = _
      rw [hcok, hf]
      rfl
    exact ⟨⟨fun _ => .inr hk, fun _ => ⟨f, hrun, hname⟩⟩, fun h => absurd (.inr hk) h⟩
  · have hrun := keytabPath_of_checked base hcok hkok
    refine ⟨⟨?_, fun h => (h.elim hc hk).elim⟩, fun _ => ⟨_, hrun, isBelow_layoutPath hb hcok hkok⟩⟩
    rintro ⟨f, hf, -⟩
    rw [hrun] at hf
    cases hf

/-- A relative base with slashes at its end, a nested name with a `.` in it, and dots that lead
    nowhere. -/
theorem keytabPath_confined_nested :
    keytabPath (.str "../mnt//") (.str "a/./b") (.str "x..y/...") =
      .ok "../mnt/cluster/a/./b/keytabs/x..y/..." ∧
    IsBelow "../mnt//" "a/./b" "x..y/..." "../mnt/cluster/a/./b/keytabs/x..y/..." := by
  have hrun : keytabPath (.str "../mnt//") (.str "a/./b") (.str "x..y/...") =
      .ok "../mnt/cluster/a/./b/keytabs/x..y/..." := by rfl
  have hfit : ¬ (IsUnfit "a/./b" ∨ IsUnfit "x..y/...") := by decide +kernel
  obtain ⟨path, hpath, hbelow⟩ :=
    (keytabPath_confined "../mnt//" "a/./b" "x..y/..." (by decide)).2 hfit
  rw [hrun] at hpath
  cases hpath
  exact ⟨hrun, hbelow⟩

end Store

end SecureStartup
