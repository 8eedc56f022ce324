import SecureStartup.Proofs.Store.Layout

/-!
  When two clusters share the path of a keytab.

  1. **Program** — `build_keytab_path`: the path of a keytab is the base, `cluster`, the cluster's name,
     `keytabs` and the keytab's name, with one slash between them unless a slash is there already.

  2. **The idea** — behind the base, the path reads `closed cluster ++ keytabsMark ++ keytab`, where a
     closed name ends in a slash (`layoutPath_eq`).  So two paths are equal when one text is split
     twice in front of a mark: at the same place, or at two, and then the name of one cluster goes on
     behind the other's with the mark (`closed_append_eq_iff`).

  3. **Result** — clusters whose names are one part each never share a path.  But names may be nested,
     and with them the directories: that of the cluster `a/keytabs` lies among the keytabs of `a`
     (`keytabPath_nested_clusters`).
-/

namespace SecureStartup.Store

open SecureStartup.Text

/-! ## What stands behind the base -/

/-- A name with a slash at its end. -/
def closed (name : List Char) : List Char :=
  if name.getLast? = some '/' then name else name ++ ['/']

/-- The name of the directory of keytabs, and the slash behind it. -/
def keytabsMark : List Char := ['k', 'e', 'y', 't', 'a', 'b', 's', '/']

theorem closed_eq_concat (name : List Char) : ∃ front, closed name = front ++ ['/'] := by
  unfold closed
  split
  · rename_i h
    exact List.getLast?_eq_some_iff.mp h
  · exact ⟨name, rfl⟩

theorem closed_of_not_mem {name : List Char} (h : '/' ∉ name) : closed name = name ++ ['/'] :=
  if_neg fun hlast => h (List.mem_of_getLast? hlast)

/-- Behind a text without a slash at its end, one slash is put. -/
theorem appendPath_of_getLast? {base part : List Char} {c : Char} (hb : base.getLast? = some c)
    (hc : c ≠ '/') (hp : part.head? ≠ some '/') : appendPath base part = base ++ '/' :: part := by
  unfold appendPath
  split
  · exact absurd rfl hp
  · rw [hb]
    split
    · rename_i h
      exact nomatch h
    · rename_i h
      exact absurd (Option.some.inj h) hc
    · rfl

/-- What comes behind a name comes behind the closed name. -/
theorem appendPath_closed (front : List Char) {name part : List Char} (hn : name ≠ [])
    (hp : part.head? ≠ some '/') :
    appendPath (front ++ name) part = front ++ (closed name ++ part) := by
  obtain ⟨c, hc⟩ : ∃ c, name.getLast? = some c := ⟨_, List.getLast?_eq_some_getLast hn⟩
  have hlast : (front ++ name).getLast? = some c := by
    rw [List.getLast?_append, hc]
    rfl
  unfold closed
  by_cases hslash : c = '/'
  · subst hslash
    rw [if_pos hc]
    unfold appendPath
    split
    · exact absurd rfl hp
    · rw [hlast]
      exact List.append_assoc ..
  · rw [if_neg fun h => hslash (Option.some.inj (hc.symm.trans h)),
      appendPath_of_getLast? hlast hslash hp]
    simp

/-- **The path of a keytab** is a text that depends on the base alone, and behind it the closed name of
    the cluster, the mark and the name of the keytab. -/
theorem layoutPath_eq (base : List Char) :
    ∃ front, ∀ cluster keytab : List Char, cluster ≠ [] → cluster.head? ≠ some '/' →
      keytab.head? ≠ some '/' →
      layoutPath base cluster keytab = front ++ (closed cluster ++ (keytabsMark ++ keytab)) := by
  obtain ⟨dir, hdir⟩ : ∃ dir, dir = appendPath (trimBase base) ['c', 'l', 'u', 's', 't', 'e', 'r'] :=
    ⟨_, rfl⟩
  have hlast : dir.getLast? = some 'r' := by
    rw [hdir]
    unfold appendPath
    split
    · rename_i h
      exact nomatch h
    · split <;> rw [List.getLast?_append] <;> rfl
  refine ⟨dir ++ ['/'], fun cluster keytab hne hc hk => ?_⟩
  have hcluster : appendPath dir cluster = dir ++ ['/'] ++ cluster := by
    rw [appendPath_of_getLast? hlast (by decide) hc, List.append_assoc]
    rfl
  have hkeytabs : (dir ++ ['/'] ++ (closed cluster ++ ['k', 'e', 'y', 't', 'a', 'b', 's'])).getLast? =
      some 's' := by
    rw [List.getLast?_append, List.getLast?_append]
    rfl
  unfold layoutPath
  rw [List.foldl_cons, List.foldl_cons, List.foldl_cons, List.foldl_cons, List.foldl_nil, ← hdir,
    hcluster, appendPath_closed _ hne (by decide), appendPath_of_getLast? hkeytabs (by decide) hk]
  simp [keytabsMark]

/-! ## One text, split twice -/

/-- **One cluster's directory lies among the keytabs of another**: the other name goes on with the
    mark, and the name of the keytab leads on to where the other cluster has its own. -/
def LiesAmong (cluster keytab cluster' keytab' : List Char) : Prop :=
  ∃ m, closed cluster' = closed cluster ++ (keytabsMark ++ m) ∧ keytab = m ++ (keytabsMark ++ keytab')

/-- **What lies between two splits** begins with the mark, if a slash ends it: no other leading part of
    the mark ends in one. -/
theorem eq_mark_append {t keytab keytab' : List Char} (hlast : t.getLast? = some '/')
    (h : keytabsMark ++ keytab = t ++ (keytabsMark ++ keytab')) :
    ∃ m, t = keytabsMark ++ m ∧ keytab = m ++ (keytabsMark ++ keytab') := by
  rcases List.append_eq_append_iff.mp h with hm | ⟨s, hs, hrest⟩
  · exact hm
  · have hshort : t.length ≤ 8 := by
      have hlen : 8 = t.length + s.length := by
        rw [← List.length_append, ← hs]
        rfl
      exact hlen ▸ Nat.le_add_right ..
    have htake : keytabsMark.take t.length = t := by rw [hs, List.take_left]
    have hall : ∀ n < 9, (keytabsMark.take n).getLast? = some '/' → keytabsMark.take n = keytabsMark :=
      by decide
    have ht : t = keytabsMark := by
      have hn := hall t.length (Nat.lt_succ_of_le hshort)
      rw [htake] at hn
      exact hn hlast
    subst ht
    obtain rfl : s = [] := List.self_eq_append_right.mp hs
    exact ⟨[], rfl, hrest.symm⟩

/-- One split behind another. -/
theorem liesAmong_of_append {cluster keytab cluster' keytab' t : List Char}
    (hc : closed cluster' = closed cluster ++ t)
    (hk : keytabsMark ++ keytab = t ++ (keytabsMark ++ keytab')) :
    (closed cluster = closed cluster' ∧ keytab = keytab') ∨
      LiesAmong cluster keytab cluster' keytab' := by
  by_cases ht : t = []
  · subst ht
    exact .inl ⟨by rw [hc, List.append_nil], List.append_cancel_left hk⟩
  · -- what one closed name has more than another ends in the slash that closes it
    obtain ⟨front, hfront⟩ := closed_eq_concat cluster'
    have hlast : t.getLast? = some '/' := by
      have h := congrArg List.getLast? (hc.symm.trans hfront)
      rw [List.getLast?_append, List.getLast?_concat, List.getLast?_eq_some_getLast ht] at h
      rw [List.getLast?_eq_some_getLast ht]
      exact h
    obtain ⟨m, rfl, hm⟩ := eq_mark_append hlast hk
    exact .inr ⟨m, hc, hm⟩

/-- **One text is split twice** at the same place, or at two. -/
theorem closed_append_eq_iff {cluster keytab cluster' keytab' : List Char} :
    closed cluster ++ (keytabsMark ++ keytab) = closed cluster' ++ (keytabsMark ++ keytab') ↔
      (closed cluster = closed cluster' ∧ keytab = keytab') ∨
        LiesAmong cluster keytab cluster' keytab' ∨ LiesAmong cluster' keytab' cluster keytab := by
  constructor
  · intro h
    rcases List.append_eq_append_iff.mp h with ⟨t, hc, hk⟩ | ⟨t, hc, hk⟩
    · exact (liesAmong_of_append hc hk).imp_right .inl
    · rcases liesAmong_of_append hc hk with ⟨hcc, hkk⟩ | hin
      · exact .inl ⟨hcc.symm, hkk.symm⟩
      · exact .inr (.inr hin)
  · rintro (⟨hc, rfl⟩ | ⟨m, hc, rfl⟩ | ⟨m, hc, rfl⟩)
    · rw [hc]
    · rw [hc]
      simp
    · rw [hc]
      simp

/-- No cluster whose name is one part lies among the keytabs of another. -/
theorem not_liesAmong {cluster keytab cluster' keytab' : List Char} (h : '/' ∉ cluster') :
    ¬ LiesAmong cluster keytab cluster' keytab' := by
  rintro ⟨m, hc, -⟩
  obtain ⟨front, hfront⟩ := closed_eq_concat cluster
  have hne : keytabsMark ++ m ≠ [] := List.append_ne_nil_of_left_ne_nil (List.cons_ne_nil _ _) _
  have hname : cluster' = front ++ ['/'] ++ (keytabsMark ++ m).dropLast := by
    have hlast := congrArg List.dropLast hc
    rwa [closed_of_not_mem h, hfront, List.dropLast_concat, List.dropLast_append_of_ne_nil hne]
      at hlast
  exact h (hname ▸ by simp)

/-! ## Paths of keytabs -/

/-- What is known of a path that was made. -/
theorem keytabPath_made {base cluster keytab path : String}
    (h : keytabPath (.str base) (.str cluster) (.str keytab) = .ok path) :
    cluster.toList ≠ [] ∧ cluster.toList.head? ≠ some '/' ∧ keytab.toList.head? ≠ some '/' ∧
      path.toList = layoutPath base.toList cluster.toList keytab.toList := by
  obtain ⟨b, c, hb, hc, hcluster, hkeytab, hpath⟩ := keytabPath_ok h
  cases hb
  cases hc
  refine ⟨fun hnil => ?_, (checkText_ok hcluster).1, (checkText_ok hkeytab).1, hpath⟩
  rcases checkText_cases "cluster name" cluster with ⟨_, f, hf, _⟩ | ⟨hfit, _⟩
  · rw [hcluster] at hf
    cases hf
  · exact hfit (.inl (String.toList_eq_nil_iff.mp hnil))

/-- **Which clusters share a path.**  Two paths below one base are equal exactly when they are made of
    the same names, but for a slash at the end of a cluster's, or when the directory of one cluster
    lies among the keytabs of the other and the path leads there.  So clusters whose names are one part
    share none; and if neither is a dot, they do not even meet in one place, however the paths are
    spelled. -/
theorem keytabPath_separates {base cluster keytab cluster' keytab' path path' : String}
    (h : keytabPath (.str base) (.str cluster) (.str keytab) = .ok path)
    (h' : keytabPath (.str base) (.str cluster') (.str keytab') = .ok path') :
    (path = path' ↔
      (closed cluster.toList = closed cluster'.toList ∧ keytab = keytab') ∨
        LiesAmong cluster.toList keytab.toList cluster'.toList keytab'.toList ∨
        LiesAmong cluster'.toList keytab'.toList cluster.toList keytab.toList) ∧
    ('/' ∉ cluster.toList → '/' ∉ cluster'.toList → path = path' →
      cluster = cluster' ∧ keytab = keytab') ∧
    (IsPart cluster.toList → IsPart cluster'.toList →
      pathParts path.toList = pathParts path'.toList →
      cluster = cluster' ∧ pathParts keytab.toList = pathParts keytab'.toList) := by
  obtain ⟨hne, hc, hk, hpath⟩ := keytabPath_made h
  obtain ⟨hne', hc', hk', hpath'⟩ := keytabPath_made h'
  obtain ⟨front, hfront⟩ := layoutPath_eq base.toList
  -- Both paths are the same front with the two names behind it, so the front cancels.
  have hiff : path = path' ↔
      (closed cluster.toList = closed cluster'.toList ∧ keytab = keytab') ∨
        LiesAmong cluster.toList keytab.toList cluster'.toList keytab'.toList ∨
        LiesAmong cluster'.toList keytab'.toList cluster.toList keytab.toList := by
    rw [← String.toList_inj, hpath, hpath', hfront _ _ hne hc hk, hfront _ _ hne' hc' hk',
      List.append_cancel_left_eq, closed_append_eq_iff, String.toList_inj]
  refine ⟨hiff, fun hpart hpart' heq => ?_, fun hpart hpart' heq => ?_⟩
  · rcases hiff.mp heq with ⟨hcc, hkk⟩ | hin | hin
    · rw [closed_of_not_mem hpart, closed_of_not_mem hpart'] at hcc
      exact ⟨String.toList_inj.mp (List.append_cancel_right hcc), hkk⟩
    · exact absurd hin (not_liesAmong hpart')
    · exact absurd hin (not_liesAmong hpart)
  -- By parts the layout is a list, and its part of the cluster is one element of it.
  · rw [hpath, hpath', pathParts_layoutPath _ hc hk, pathParts_layoutPath _ hc' hk',
      pathParts_of_isPart hpart, pathParts_of_isPart hpart'] at heq
    simp only [List.append_assoc, List.append_cancel_left_eq, List.cons_append, List.nil_append,
      List.cons.injEq, true_and] at heq
    exact ⟨String.toList_inj.mp heq.1, heq.2⟩

/-- A slash at the end of a cluster's name makes no difference. -/
theorem keytabPath_separates_slash :
    keytabPath (.str "/b") (.str "a") (.str "k") = .ok "/b/cluster/a/keytabs/k" ∧
      ∃ path, keytabPath (.str "/b") (.str "a/") (.str "k") = .ok path ∧
        "/b/cluster/a/keytabs/k" = path := by
  have h : keytabPath (.str "/b") (.str "a") (.str "k") = .ok "/b/cluster/a/keytabs/k" := by rfl
  have h' : keytabPath (.str "/b") (.str "a/") (.str "k") = .ok "/b/cluster/a/keytabs/k" := by rfl
  exact ⟨h, _, h', (keytabPath_separates h h').1.mpr (.inl ⟨by decide, rfl⟩)⟩

/-- **Nested names of clusters meet**: what the one has in a directory of its own, called `keytabs`,
    is where the other has its keytabs. -/
theorem keytabPath_nested_clusters :
    keytabPath (.str "/b") (.str "a") (.str "keytabs/k") = .ok "/b/cluster/a/keytabs/keytabs/k" ∧
      keytabPath (.str "/b") (.str "a/keytabs") (.str "k") = .ok "/b/cluster/a/keytabs/keytabs/k" ∧
      "a" ≠ "a/keytabs" :=
  ⟨by rfl, by rfl, by decide⟩

end SecureStartup.Store
