import SecureStartup.Log.Setup
import SecureStartup.Proofs.Config.Validated
import SecureStartup.Proofs.Text.Digits
import SecureStartup.Proofs.Store.Layout
import SecureStartup.Proofs.Value.Fields

/-!
  Where the log files of a cluster are put.

  Program: `get_log_file_path` joins the log directory, the cluster's name as a folder, the day, and the
  name of a file that begins with the cluster's name.  The layout it documents is
  `DIR/CLUSTER/2026-01-05/CLUSTER_appmaster_0105_1430.log`.  The name is put into it as it is, both as a
  folder and inside the name of the file, and a validated configuration only has SOME name; names are not
  checked as those of keytabs are.

  1. **A relative name adds its parts**, in the place of the folder and in front of the file
     (`filePath_relative`): as many as it has, and some that lead up if it has such.

  2. **An absolute name takes over.**  The file's name begins with it, so it is an absolute path itself,
     and neither the log directory nor the day is in the result (`filePath_absolute`).

  3. **Levels are parts.**  What is found in a collapsed path was a part of the path
     (`mem_of_mem_collapse`), so a name with a slash in it is never a level.

  `filePath_placed` reads off that the layout is kept for exactly those names that are fit for a folder.
-/

namespace SecureStartup

open SecureStartup.Text

/-! ## Digits and slashes -/

theorem slash_not_mem_padded (width n : Nat) : '/' ∉ padded width n := by
  intro h
  have hdigit : isAsciiDigit '/' = true := by
    rcases List.mem_append.mp h with h | h
    · exact isAsciiDigit_of_mem_zeros h
    · exact (toDigits_isDigits n).digits _ h
  exact absurd hdigit (by decide)

theorem slash_not_mem_fileStamp (now : DateTime) : '/' ∉ now.fileStamp.toList := by
  have hday : '/' ∉ padded 2 now.date.month ++ padded 2 now.date.day :=
    List.not_mem_append (slash_not_mem_padded _ _) (slash_not_mem_padded _ _)
  have hhour : '/' ∉ '_' :: padded 2 now.hour :=
    List.not_mem_cons_of_ne_of_not_mem (by decide) (slash_not_mem_padded _ _)
  unfold DateTime.fileStamp
  rw [String.toList_ofList]
  exact List.not_mem_append (List.not_mem_append hday hhour) (slash_not_mem_padded _ _)

/-- A text without slashes is a part, if it has some character that `.` and `..` do not have. -/
theorem isPart_of_mem {q : List Char} {c : Char} (hslash : '/' ∉ q) (hc : c ∈ q) (hdot : c ≠ '.') :
    IsPart q ∧ q ≠ ['.', '.'] := by
  refine ⟨⟨List.ne_nil_of_mem hc, ?_, hslash⟩, ?_⟩
  · rintro rfl
    exact hdot (List.mem_singleton.mp hc)
  · rintro rfl
    rcases List.mem_cons.mp hc with h | h
    · exact hdot h
    · exact hdot (List.mem_singleton.mp h)

theorem isPart_logText (date : Date) : IsPart date.logText ∧ date.logText ≠ ['.', '.'] := by
  have hdash : '-' ∈ date.logText := List.mem_append_right _ List.mem_cons_self
  have hday : '/' ∉ '-' :: padded 2 date.day :=
    List.not_mem_cons_of_ne_of_not_mem (by decide) (slash_not_mem_padded _ _)
  have hmonth : '/' ∉ '-' :: (padded 2 date.month ++ '-' :: padded 2 date.day) :=
    List.not_mem_cons_of_ne_of_not_mem (by decide)
      (List.not_mem_append (slash_not_mem_padded _ _) hday)
  exact isPart_of_mem (List.not_mem_append (slash_not_mem_padded _ _) hmonth) hdash (by decide)

/-! ## Parts that are put behind a path -/

/-- What is found once `..` is followed was there before. -/
theorem mem_of_mem_collapse {absolute : Bool} {parts : List (List Char)} {q : List Char}
    (h : q ∈ collapse absolute parts) : q ∈ parts := by
  have hfold : ∀ acc : List (List Char), (∀ r ∈ acc, r ∈ parts) → ∀ ps : List (List Char),
      (∀ r ∈ ps, r ∈ parts) → ∀ r ∈ ps.foldl (collapse.step absolute) acc, r ∈ parts := by
    intro acc hacc ps hps
    induction ps generalizing acc with
    | nil => exact hacc
    | cons p ps ih =>
      have hp : p ∈ parts := hps p List.mem_cons_self
      refine ih _ (fun r hr => ?_) fun r hr => hps r (List.mem_cons_of_mem _ hr)
      unfold collapse.step at hr
      split at hr
      · split at hr
        · split at hr
          · exact absurd hr List.not_mem_nil
          · exact List.mem_singleton.mp hr ▸ hp
        · split at hr
          · rcases List.mem_cons.mp hr with rfl | hr
            · exact hp
            · exact hacc r hr
          · exact hacc r (List.mem_cons_of_mem _ hr)
      · rcases List.mem_cons.mp hr with rfl | hr
        · exact hp
        · exact hacc r hr
  exact hfold [] nofun parts (fun _ hr => hr) q (List.mem_reverse.mp h)

/-- **A text behind another one** without slashes: it ends the last part, and the parts in front are
    those of the other. -/
theorem pathParts_append_tail (s : List Char) {tail : List Char} {c : Char} (hslash : '/' ∉ tail)
    (hc : c ∈ tail) (hdot : c ≠ '.') : ∃ front last, pathParts (s ++ tail) = front ++ [last ++ tail] ∧
      ∀ q ∈ front, q ∈ pathParts s := by
  have hpart : ∀ last, '/' ∉ last → pathParts (last ++ tail) = [last ++ tail] := by
    intro last hlast
    refine pathParts_of_isPart (isPart_of_mem (fun h => ?_) (List.mem_append_right _ hc) hdot).1
    exact (List.mem_append.mp h).elim hlast hslash
  by_cases hs : '/' ∈ s
  · -- the last slash divides the text
    obtain ⟨last, front, hsplit, hlast⟩ := List.eq_append_cons_of_mem (List.mem_reverse.mpr hs)
    have hs' : s = front.reverse ++ '/' :: last.reverse := by
      rw [← List.reverse_reverse s, hsplit]
      simp
    have hlast' : '/' ∉ last.reverse := fun h => hlast (List.mem_reverse.mp h)
    refine ⟨pathParts front.reverse, last.reverse, ?_, fun q hq => ?_⟩
    · rw [hs', List.append_assoc, List.cons_append, pathParts_append, hpart _ hlast']
    · rw [hs', pathParts_append]
      exact List.mem_append_left _ hq
  · exact ⟨[], s, hpart s hs, nofun⟩

namespace PurePath

/-- A relative text adds its parts. -/
theorem child_of_relative (p : PurePath) {s : String} (h : startsAtRoot s = false) :
    p.child s = ⟨p.root, p.parts ++ pathParts s.toList⟩ := by
  have hrel : (ofString s).isAbsolute = false := (Store.isAbsolute_ofString s).trans h
  unfold child join
  rw [hrel]
  rfl

/-- An absolute text stands for itself. -/
theorem child_of_absolute (p : PurePath) {s : String} (h : startsAtRoot s = true) :
    p.child s = ofString s := by
  have habs : (ofString s).isAbsolute = true := (Store.isAbsolute_ofString s).trans h
  unfold child join
  rw [habs]
  rfl

/-- **A path lies below a directory**, `..` followed in both, at some levels that do not lead up. -/
structure LiesAt (dir p : PurePath) (levels : List (List Char)) : Prop where
  root : p.root = dir.root
  parts : p.collapsed.parts = dir.collapsed.parts ++ levels
  down : ['.', '.'] ∉ levels

/-- Parts that do not lead up are levels. -/
theorem liesAt_of_parts {dir : PurePath} {levels : List (List Char)} (h : ['.', '.'] ∉ levels) :
    dir.LiesAt ⟨dir.root, dir.parts ++ levels⟩ levels where
  root := rfl
  parts := collapse_append _ _ fun _ hq hup => h (hup ▸ hq)
  down := h

end PurePath

namespace Log

open SecureStartup.AppConfig SecureStartup.Security SecureStartup.PurePath

/-! ## The path of a log file -/

/-- What stands behind the cluster's name in the name of the application's log file. -/
def fileTail (now : DateTime) : String := "_" ++ masterComponent ++ "_" ++ now.fileStamp ++ ".log"

/-- The levels of the layout: a folder for the cluster, one for the day, and the file. -/
def levelsOf (cluster : String) (now : DateTime) : List (List Char) :=
  [cluster.toList, now.date.logText, (cluster ++ fileTail now).toList]

/-- **A name that is fit for a folder**: one part, and not one that leads up. -/
def IsFolder (name : String) : Prop := IsPart name.toList ∧ name.toList ≠ ['.', '.']

theorem slash_not_mem_fileTail (now : DateTime) : '/' ∉ (fileTail now).toList := by
  have hlead : '/' ∉ ("_" ++ masterComponent ++ "_").toList := by decide
  have hend : '/' ∉ ".log".toList := by decide
  unfold fileTail
  rw [String.toList_append, String.toList_append]
  exact List.not_mem_append (List.not_mem_append hlead (slash_not_mem_fileStamp now)) hend

theorem underscore_mem_fileTail (now : DateTime) : '_' ∈ (fileTail now).toList := by
  unfold fileTail
  simp only [String.toList_append, List.mem_append]
  exact .inl (.inl (.inl (.inl (by decide))))

theorem startsAtRoot_append_fileTail (s : String) (now : DateTime) :
    startsAtRoot (s ++ fileTail now) = startsAtRoot s := by
  unfold startsAtRoot
  rw [String.toList_append]
  rcases s.toList with _ | ⟨c, r⟩
  · have htail : (fileTail now).toList.head? = some '_' := by
      unfold fileTail
      simp only [String.toList_append]
      rfl
    rw [List.nil_append, htail]
    rfl
  · rfl

theorem filePath_eq (dir : PurePath) {s : String} (hs : s ≠ "") (now : DateTime) :
    filePath dir (.str s) (.str masterComponent) now =
      .ok (((dir.child s).child (String.ofList now.date.logText)).child (s ++ fileTail now)) := by
  have hlead : (Value.str s).orElse (.str defaultName) = .str s := if_pos (bne_iff_ne.mpr hs)
  have hbase : s!"{s}_{masterComponent}_{now.fileStamp}" ++ ".log" = s ++ fileTail now := by
    refine String.toList_inj.mp ?_
    simp [fileTail, String.toList_append, ToString.toString]
  unfold filePath
  rw [hlead, ← hbase]
  rfl

theorem child_logText (p : PurePath) (date : Date) :
    p.child (String.ofList date.logText) = ⟨p.root, p.parts ++ [date.logText]⟩ := by
  have hpart : IsPart (String.ofList date.logText).toList := by
    rw [String.toList_ofList]
    exact (isPart_logText date).1
  rw [child_of_isPart p hpart, String.toList_ofList]

/-- **The parts of a relative name** stand in the place of the folder and in front of the file. -/
theorem filePath_relative (dir : PurePath) {s : String} (hs : s ≠ "") (hrel : startsAtRoot s = false)
    (now : DateTime) : filePath dir (.str s) (.str masterComponent) now = .ok ⟨dir.root, dir.parts ++
      (pathParts s.toList ++ [now.date.logText] ++ pathParts (s ++ fileTail now).toList)⟩ := by
  have hfile : startsAtRoot (s ++ fileTail now) = false :=
    (startsAtRoot_append_fileTail s now).trans hrel
  rw [filePath_eq dir hs, child_of_relative dir hrel, child_logText, child_of_relative _ hfile]
  simp only [List.append_assoc]

/-- **An absolute name** leaves nothing of the log directory and of the day. -/
theorem filePath_absolute (dir : PurePath) {s : String} (hs : s ≠ "") (habs : startsAtRoot s = true)
    (now : DateTime) : filePath dir (.str s) (.str masterComponent) now =
      .ok (.ofString (s ++ fileTail now)) := by
  have hfile : startsAtRoot (s ++ fileTail now) = true :=
    (startsAtRoot_append_fileTail s now).trans habs
  rw [filePath_eq dir hs, child_of_absolute _ hfile]

/-- The file's own parts lead up where the name's do, and nowhere else. -/
theorem not_climbs_file {s : String} (h : ['.', '.'] ∉ pathParts s.toList) (now : DateTime) :
    ['.', '.'] ∉ pathParts (s ++ fileTail now).toList := by
  rw [String.toList_append]
  obtain ⟨front, last, hparts, hfront⟩ := pathParts_append_tail s.toList
    (slash_not_mem_fileTail now) (underscore_mem_fileTail now) (by decide)
  rw [hparts]
  intro hup
  rcases List.mem_append.mp hup with hup | hup
  · exact h (hfront _ hup)
  · have hmem : '_' ∈ ['.', '.'] := by
      rw [List.mem_singleton.mp hup]
      exact List.mem_append_right _ (underscore_mem_fileTail now)
    exact absurd hmem (by decide)

/-- The levels of a folder's name are those of the layout. -/
theorem levels_of_isFolder {s : String} (h : IsFolder s) (now : DateTime) :
    pathParts s.toList ++ [now.date.logText] ++ pathParts (s ++ fileTail now).toList =
      levelsOf s now := by
  have hslash : '/' ∉ (s ++ fileTail now).toList := by
    rw [String.toList_append]
    intro hmem
    exact (List.mem_append.mp hmem).elim h.1.2.2 (slash_not_mem_fileTail now)
  have hunderscore : '_' ∈ (s ++ fileTail now).toList := by
    rw [String.toList_append]
    exact List.mem_append_right _ (underscore_mem_fileTail now)
  rw [pathParts_of_isPart h.1, pathParts_of_isPart (isPart_of_mem hslash hunderscore (by decide)).1]
  rfl

theorem startsAtRoot_of_isPart {s : String} (h : IsPart s.toList) : startsAtRoot s = false := by
  rcases hroot : startsAtRoot s with _ | _
  · rfl
  · exact absurd (List.mem_of_mem_head? (eq_of_beq hroot)) h.2.2

/-- No level of a relative name leads up, unless the name has a part that does. -/
theorem not_climbs_levels {s : String} (h : ['.', '.'] ∉ pathParts s.toList) (now : DateTime) :
    ['.', '.'] ∉ pathParts s.toList ++ [now.date.logText] ++ pathParts (s ++ fileTail now).toList := by
  have hdate : ['.', '.'] ∉ [now.date.logText] := fun hup =>
    (isPart_logText now.date).2 (List.mem_singleton.mp hup).symm
  exact List.not_mem_append (List.not_mem_append h hdate) (not_climbs_file h now)

/-- What a relative name puts behind the parts of a directory are parts. -/
theorem isPart_of_relative (dir : String) {s : String} (now : DateTime) :
    ∀ q ∈ (PurePath.ofString dir).parts ++
      (pathParts s.toList ++ [now.date.logText] ++ pathParts (s ++ fileTail now).toList), IsPart q := by
  intro q hq
  simp only [List.mem_append, List.mem_singleton] at hq
  rcases hq with hq | (hq | rfl) | hq
  · exact isPart_of_mem_pathParts hq
  · exact isPart_of_mem_pathParts hq
  · exact (isPart_logText now.date).1
  · exact isPart_of_mem_pathParts hq

/-- **Only a folder's name has the levels of the layout**: a level is a part of some text, and so there is
    no slash in it. -/
theorem isFolder_of_liesAt {dir p : PurePath} {s : String} {now : DateTime}
    (hp : ∀ q ∈ p.parts, IsPart q) (h : dir.LiesAt p (levelsOf s now)) : IsFolder s := by
  have hmem : s.toList ∈ p.collapsed.parts := by
    rw [h.parts]
    exact List.mem_append_right _ List.mem_cons_self
  refine ⟨hp _ (mem_of_mem_collapse hmem), fun hup => h.down ?_⟩
  rw [← hup]
  exact List.mem_cons_self

/-- Nothing but a name is needed, and the name may be any text. -/
theorem validate_named {s : String} (hs : s ≠ "") (d : Disk) (cwd : Location) :
    AppConfig.validate { clusterName := .str s } d cwd = .ok () := by
  have hname : (!(Value.str s).truthy) = false := congrArg not (bne_iff_ne.mpr hs)
  have hsource : (!(Value.str "process").isOneOf identitySources) = false := by
    unfold Value.isOneOf identitySources
    rw [List.any_cons, Value.same_str]
    rfl
  unfold AppConfig.validate
  simp only [hname, hsource]
  rfl

/-- **Where the log file of a cluster is.**  For the name of a validated configuration there is a path,
    if the name is a text.  It has the three levels of the layout exactly when the name is fit for a
    folder.  A relative name that does not lead up keeps the file below the log directory, at the
    levels that the name has; an absolute name leaves nothing of the log directory.  Values that are
    neither texts nor paths have no path, though they are accepted as names. -/
theorem filePath_placed {c : AppConfig} {d : Disk} {cwd : Location} (hvalid : c.validate d cwd = .ok ())
    (dir : String) (now : DateTime) :
    (∀ s, c.clusterName = .str s →
      ∃ p, filePath (.ofString dir) c.clusterName (.str masterComponent) now = .ok p ∧
        ((PurePath.ofString dir).LiesAt p (levelsOf s now) ↔ IsFolder s) ∧
        (startsAtRoot s = false → ['.', '.'] ∉ pathParts s.toList → (PurePath.ofString dir).LiesAt p
          (pathParts s.toList ++ [now.date.logText] ++ pathParts (s ++ fileTail now).toList)) ∧
        (startsAtRoot s = true → p = .ofString (s ++ fileTail now))) ∧
    ((∀ s, c.clusterName ≠ .str s ∧ c.clusterName ≠ .path s) →
      filePath (.ofString dir) c.clusterName (.str masterComponent) now =
        .error (.mismatch .wrongType)) := by
  have hnamed : c.clusterName.truthy = true := (AppConfig.validated_of_ok hvalid).named
  constructor
  · intro s hname
    rw [hname] at hnamed ⊢
    have hs : s ≠ "" := bne_iff_ne.mp hnamed
    by_cases hroot : startsAtRoot s = true
    · -- a name with a slash in it is no folder's
      refine ⟨_, filePath_absolute _ hs hroot now, ⟨isFolder_of_liesAt ?_, fun h => ?_⟩,
        fun hrel => ?_, fun _ => rfl⟩
      · exact fun q hq => isPart_of_mem_pathParts hq
      · rw [startsAtRoot_of_isPart h.1] at hroot
        exact nomatch hroot
      · rw [hrel] at hroot
        exact nomatch hroot
    · have hrel : startsAtRoot s = false := Bool.eq_false_iff.mpr hroot
      have hbelow : ['.', '.'] ∉ pathParts s.toList → (PurePath.ofString dir).LiesAt ⟨_, _⟩
          (pathParts s.toList ++ [now.date.logText] ++ pathParts (s ++ fileTail now).toList) :=
        fun hparts => liesAt_of_parts (not_climbs_levels hparts now)
      refine ⟨_, filePath_relative _ hs hrel now, ⟨isFolder_of_liesAt (isPart_of_relative dir now),
        fun h => ?_⟩, fun _ => hbelow, fun habs => absurd habs hroot⟩
      have hparts : ['.', '.'] ∉ pathParts s.toList := by
        rw [pathParts_of_isPart h.1]
        exact fun hup => h.2 (List.mem_singleton.mp hup).symm
      rw [← levels_of_isFolder h now]
      exact hbelow hparts
  -- what is neither a text nor a path cannot be joined to a path
  · intro hother
    have hpath : c.clusterName.asPath = .error (.mismatch .wrongType) := by
      cases hv : c.clusterName with
      | str s => exact absurd hv (hother s).1
      | path s => exact absurd hv (hother s).2
      | _ => rfl
    have hlead : c.clusterName.orElse (.str defaultName) = c.clusterName := if_pos hnamed
    unfold filePath
    rw [hlead]
    show c.clusterName.asPath >>= _ = _
    rw [hpath]
    rfl

/-- A name like any other; and one that is accepted as well, and puts the file beside the log directory:
    it does not lie below, at whatever levels. -/
theorem filePath_placed_beside :
    let now : DateTime := ⟨⟨2026, 1, 5⟩, 14, 30, 7, 0, none⟩
    let path := fun s => filePath (.ofString "logs") (.str s) (.str masterComponent) now
    (∃ p, path "analytics" = .ok p ∧
      (PurePath.ofString "logs").LiesAt p (levelsOf "analytics" now)) ∧
    AppConfig.validate { clusterName := .str ".." } default [] = .ok () ∧
      ∃ p, path ".." = .ok p ∧ p.text = "logs/../2026-01-05/.._appmaster_0105_1430.log" ∧
        ∀ levels, ¬ (PurePath.ofString "logs").LiesAt p levels := by
  intro now path
  have hfolder : IsFolder "analytics" := by
    unfold IsFolder IsPart
    decide
  obtain ⟨p, hp, hlies, -⟩ :=
    (filePath_placed (validate_named (by decide) default []) "logs" now).1 "analytics" rfl
  have hbeside : path ".." = .ok ⟨[], ["logs".toList, "..".toList, "2026-01-05".toList,
      ".._appmaster_0105_1430.log".toList]⟩ := by
    refine (filePath_relative _ (by decide) (by decide) now).trans (congrArg Except.ok ?_)
    decide +kernel
  refine ⟨⟨p, hp, hlies.mpr hfolder⟩, validate_named (by decide) _ _, _, hbeside, by decide +kernel,
    fun levels h => ?_⟩
  -- the directory itself is not among the parts
  have hfirst : ∀ ls : List (List Char), "2026-01-05".toList :: ls ≠ "logs".toList :: levels :=
    fun ls h => absurd (List.cons.inj h).1 (by decide)
  exact hfirst _ h.parts

end Log

end SecureStartup
