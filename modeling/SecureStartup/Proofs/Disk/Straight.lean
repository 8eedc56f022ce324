import SecureStartup.Proofs.Disk.Canonical
import SecureStartup.Proofs.Path.Normal

/-!
  Locations without links on the way.

  Program: what `LocalSharedFileSystem` has found to lie below its base path is a location, but what it
  copies from (`shutil.copyfile`) is given by the text of that location, which the system walks again.

  Every canonical location is STRAIGHT (`Canonical.straight`): none of the directories on the way to
  it shows a link under the next name, and the names can be written with slashes between them.  So a
  walk along the text of a straight location follows no link, and if it finds something, it finds what
  lies at that very location (`walk_straight`).

  Neither the empty names nor the dots of a path text count for where it leads, so a path and its
  normal form have one canonical location (`canonical_normalPath`).
-/

namespace SecureStartup

open SecureStartup.Text

namespace Disk

/-! ## Straight locations -/

/-- **A straight location**: on the way to it no link can be seen, and no name holds a slash. -/
def IsStraight (d : Disk) (l : Location) : Prop :=
  ∀ dir name, dir ++ [name] <+: l →
    IsName name ∧ '/' ∉ name.toList ∧ d.visibleLink? dir name = none

theorem isStraight_nil (d : Disk) : d.IsStraight [] := by
  intro dir name h
  exact absurd (List.prefix_nil.mp h) (List.append_ne_nil_of_right_ne_nil _ (List.cons_ne_nil _ _))

theorem IsStraight.of_prefix {d : Disk} {l m : Location} (a : d.IsStraight m) (h : l <+: m) :
    d.IsStraight l :=
  fun dir name hp => a dir name (hp.trans h)

theorem IsStraight.concat {d : Disk} {l : Location} (a : d.IsStraight l) {name : String}
    (hn : IsName name) (hs : '/' ∉ name.toList) (hv : d.visibleLink? l name = none) :
    d.IsStraight (l ++ [name]) := by
  intro dir name' hp
  rcases List.prefix_concat_iff.mp hp with h | h
  · obtain ⟨rfl, hname⟩ := List.append_inj' h rfl
    cases hname
    exact ⟨hn, hs, hv⟩
  · exact a dir name' h

theorem IsStraight.isPart {d : Disk} {l : Location} (a : d.IsStraight l) :
    ∀ q ∈ l.map String.toList, IsPart q := by
  intro q hq
  obtain ⟨name, hname, rfl⟩ := List.mem_map.mp hq
  obtain ⟨front, back, rfl⟩ := List.append_of_mem hname
  obtain ⟨hn, hs, _⟩ := a front name ⟨back, by simp⟩
  refine ⟨fun h => hn.ne_empty ?_, fun h => hn.ne_dot ?_, hs⟩
  · exact String.toList_inj.mp h
  · exact String.toList_inj.mp h

/-- No piece of a path text holds a slash. -/
theorem not_mem_of_mem_pathPieces {s name : String} (h : name ∈ pathPieces s) : '/' ∉ name.toList := by
  have hall : ∀ r : List Char, name ∈ (splitOn '/' r).map String.ofList → '/' ∉ name.toList := by
    intro r hr
    obtain ⟨q, hq, rfl⟩ := List.mem_map.mp hr
    rw [String.toList_ofList]
    intro hs
    exact nomatch not_of_mem_splitWhere (· == '/') r q hq '/' hs
  unfold pathPieces at h
  split at h
  · exact hall _ h
  · exact hall _ h

theorem IsStraight.pathStart {d : Disk} {l : Location} (a : d.IsStraight l) (path : String) :
    d.IsStraight (pathStart l path) := by
  unfold SecureStartup.pathStart
  split
  · exact isStraight_nil d
  · exact a

/-- **Canonical locations are straight**, when the way begins at one that is. -/
theorem Follows.straight {d : Disk} {n : Nat} {here there : Location} {names : List String}
    (a : d.Follows n here names there) (hnames : ∀ name ∈ names, '/' ∉ name.toList)
    (hhere : d.IsStraight here) : d.IsStraight there := by
  induction a with
  | done _ => exact hhere
  | stay _ _ ih => exact ih (fun name h => hnames name (List.mem_cons_of_mem _ h)) hhere
  | up _ ih =>
    refine ih (fun name h => hnames name (List.mem_cons_of_mem _ h)) ?_
    exact hhere.of_prefix (List.dropLast_prefix _)
  | down hn hv _ ih =>
    refine ih (fun name h => hnames name (List.mem_cons_of_mem _ h)) ?_
    exact hhere.concat hn (hnames _ (List.mem_cons_self ..)) hv
  | link _ _ _ _ ihtarget ihrest =>
    have hmid := ihtarget (fun _ h => not_mem_of_mem_pathPieces h) (hhere.pathStart _)
    exact ihrest (fun name h => hnames name (List.mem_cons_of_mem _ h)) hmid

/-- **A straight location leads to itself.** -/
theorem IsStraight.canonical {d : Disk} {names : List String} :
    ∀ {here : Location}, d.IsStraight (here ++ names) → d.Canonical here names (here ++ names) := by
  induction names with
  | nil =>
    intro here _
    exact canonical_nil.mpr (List.append_nil here)
  | cons name rest ih =>
    intro here a
    obtain ⟨hn, -, hv⟩ := a here name ⟨rest, by rw [List.append_assoc]; rfl⟩
    rw [List.append_cons] at a ⊢
    exact (canonical_down hn hv).mpr (ih a)

/-! ## Walking along a straight location -/

/-- Directories that may be searched, all the way. -/
theorem isSearchable_iff {d : Disk} {l : Location} :
    d.isSearchable l = true ↔
      ∀ m, m <+: l → ∃ mode, d.entryAt? m = some (.directory mode) ∧ maySearch mode = true := by
  unfold isSearchable
  rw [List.all_eq_true]
  constructor
  · intro h m hm
    have hlen : m.length < l.length + 1 := Nat.lt_succ_of_le hm.length_le
    have hk := h m.length (List.mem_range.mpr hlen)
    rw [← List.prefix_iff_eq_take.mp hm] at hk
    split at hk
    · rename_i mode he
      exact ⟨mode, he, hk⟩
    · cases hk
  · intro h k _
    obtain ⟨mode, he, hs⟩ := h _ (List.take_prefix k l)
    rw [he]
    exact hs

/-- **The first name of a walk that finds something** is looked up in a directory that may be searched.
    Either there is a link, or the walk goes on behind the name. -/
theorem walkFrom_name_found {d : Disk} {here m : Location} {links : Nat} {name : String}
    {rest : List String} {e : Entry} (hn : IsName name)
    (h : d.walkFrom .target links here (name :: rest) = .ok (.found m e)) :
    ∃ mode, d.entryAt? here = some (.directory mode) ∧ maySearch mode = true ∧
      ((∃ target, d.entryAt? (here ++ [name]) = some (.link target)) ∨
        d.walkFrom .target links (here ++ [name]) rest = .ok (.found m e)) := by
  rw [walkFrom] at h
  rcases he : d.entryAt? here with _ | entry <;> rw [he] at h
  · cases h
  cases entry with
  | file id => cases h
  | link target => cases h
  | special s => cases h
  | directory mode =>
    simp only [beq_eq_false_iff_ne.mpr hn.ne_empty, beq_eq_false_iff_ne.mpr hn.ne_dot,
      beq_eq_false_iff_ne.mpr hn.ne_dots, Bool.false_eq_true, if_false] at h
    -- Whatever the walk would be refused for cannot be the case, as it has found something.
    by_cases hs : maySearch mode = true
    swap
    · rw [if_pos (by simpa using hs)] at h
      cases h
    refine ⟨mode, rfl, hs, ?_⟩
    by_cases hlong : maxName < name.utf8ByteSize
    · rw [if_neg (by simpa using hs), if_pos hlong] at h
      split at h <;> cases h
    rw [if_neg (by simpa using hs), if_neg hlong, if_neg (by simp)] at h
    rcases hx : d.entryAt? (here ++ [name]) with _ | x <;> rw [hx] at h
    · simp only at h
      split at h <;> cases h
    cases x with
    | directory m' => exact .inr h
    | file id => exact .inr h
    | special s => exact .inr h
    | link target => exact .inl ⟨target, rfl⟩

/-- **A walk along a straight location** ends there, if it finds anything.  Along the names that are
    left; all directories passed may be searched, so a link under the next name could be seen. -/
theorem walkFrom_straight {d : Disk} {rest : List String} :
    ∀ {here : Location} {links : Nat}, d.IsStraight (here ++ rest) →
      (∀ dir, dir <+: here → dir ≠ here →
        ∃ mode, d.entryAt? dir = some (.directory mode) ∧ maySearch mode = true) →
      ∀ {m e}, d.walkFrom .target links here rest = .ok (.found m e) →
        m = here ++ rest ∧ d.entryAt? m = some e := by
  induction rest with
  | nil =>
    intro here links _ _ m e h
    rw [walkFrom] at h
    rcases he : d.entryAt? here with _ | e' <;> rw [he] at h
    · cases h
    · cases h
      exact ⟨(List.append_nil _).symm, he⟩
  | cons name rest ih =>
    intro here links hstraight habove m e h
    obtain ⟨hn, -, hv⟩ := hstraight here name ⟨rest, by simp⟩
    obtain ⟨mode, he, hs, hnext⟩ := walkFrom_name_found hn h
    -- One directory more that may be searched, the one where the walk is.
    have hall : ∀ dir, dir <+: here →
        ∃ mode, d.entryAt? dir = some (.directory mode) ∧ maySearch mode = true := by
      intro dir hp
      by_cases hd : dir = here
      · exact ⟨mode, hd ▸ he, hs⟩
      · exact habove dir hp hd
    rcases hnext with ⟨target, hx⟩ | hgo
    · -- the link could be seen
      have hsee : d.visibleLink? here name = some target := by
        unfold visibleLink?
        rw [if_pos (isSearchable_iff.mpr hall),
          link?_eq (List.append_ne_nil_of_right_ne_nil _ (List.cons_ne_nil _ _)), hx]
      cases hv.symm.trans hsee
    · rw [List.append_cons] at hstraight ⊢
      refine ih hstraight (fun dir hp hd => ?_) hgo
      rcases List.prefix_concat_iff.mp hp with h' | h'
      · exact absurd h' hd
      · exact hall dir h'

/-! ## The text of a location -/

/-- The text of a location is that of the path with its names. -/
theorem locationText_eq (l : Location) :
    locationText l = (PurePath.mk ['/'] (l.map String.toList)).text := by
  refine String.toList_inj.mp ?_
  show ("/" ++ "/".intercalate l).toList = (String.ofList ('/' :: joinWith ['/'] _)).toList
  refine Eq.trans ?_ String.toList_ofList.symm
  rw [String.toList_append, String.toList_intercalate, joinWith_eq_intercalate]
  rfl

theorem IsStraight.isClean {d : Disk} {l : Location} (a : d.IsStraight l) :
    (PurePath.mk ['/'] (l.map String.toList)).IsClean :=
  ⟨.inl rfl, a.isPart⟩

/-- **What is found under the text of a straight location** lies there. -/
theorem walk_straight {d : Disk} {l : Location} (a : d.IsStraight l) {cwd m : Location} {e : Entry}
    (h : d.walk cwd (locationText l) .target = .ok (.found m e)) :
    m = l ∧ d.entryAt? l = some e := by
  obtain ⟨_, hw⟩ := walkFrom_of_walk h
  have hroot : startsAtRoot (locationText l) = true := by
    rw [locationText_eq]
    exact a.isClean.startsAtRoot_text
  rw [if_pos hroot] at hw
  rcases l with _ | ⟨name, rest⟩
  · -- the root: its text ends in a slash
    have hnames : pathNames (locationText []) = [""] := by decide +kernel
    have hdir : d.entryAt? [] = some (.directory rootMode) := rfl
    rw [hnames, walkFrom, hdir] at hw
    simp only [beq_self_eq_true, if_true] at hw
    rw [walkFrom, hdir] at hw
    cases hw
    exact ⟨rfl, rfl⟩
  · have hnames : pathNames (locationText (name :: rest)) = name :: rest := by
      rw [locationText_eq, a.isClean.pathNames_text (List.cons_ne_nil _ _), List.map_map]
      simp
    rw [hnames] at hw
    have habove : ∀ dir : Location, dir <+: [] → dir ≠ [] →
        ∃ mode, d.entryAt? dir = some (.directory mode) ∧ maySearch mode = true :=
      fun dir hp hd => absurd (List.prefix_nil.mp hp) hd
    have hend : m = [] ++ (name :: rest) ∧ d.entryAt? m = some e := walkFrom_straight a habove hw
    obtain ⟨rfl, he⟩ := hend
    exact ⟨rfl, he⟩

/-- **What lies at a location** for who reads it: the bytes of a regular file, or what a special file
    gives that can be opened. -/
def Holds (d : Disk) (l : Location) (text : String) : Prop :=
  (∃ id, d.entryAt? l = some (.file id) ∧ text = ((d.data? id).map (·.content)).getD "") ∨
    ∃ s, d.entryAt? l = some (.special s) ∧ s.closed = none ∧ text = s.gives

/-- **What is read under the text of a straight location** is what lies there. -/
theorem readOut_straight {d : Disk} {l : Location} (a : d.IsStraight l) {cwd : Location}
    {text : String} {ends : Option Refusal}
    (h : d.readOut cwd (locationText l) = .ok (text, ends)) : d.Holds l text := by
  obtain ⟨m, hstat⟩ := readOut_ok h
  rcases hstat with ⟨id, hs, _, htext⟩ | ⟨s, hs, hopen, _, htext⟩
  · obtain ⟨rfl, he⟩ := walk_straight a (stat_eq_ok.mp hs)
    exact .inl ⟨id, he, htext⟩
  · obtain ⟨rfl, he⟩ := walk_straight a (stat_eq_ok.mp hs)
    exact .inr ⟨s, he, hopen, htext⟩

/-! ## Normal forms -/

/-- Empty names and dots do not count. -/
def isMeant (name : String) : Bool := !(name == "" || name == ".")

/-- **Only the names that count matter.**  By induction on the names: those that do not count leave
    the place as it is, and the others are passed in the same way by both. -/
theorem canonical_filter {d : Disk} {names : List String} :
    ∀ {here there : Location},
      d.Canonical here (names.filter isMeant) there ↔ d.Canonical here names there := by
  induction names with
  | nil => exact Iff.rfl
  | cons name rest ih =>
    intro here there
    rcases name_cases name with hs | rfl | hn
    · have hf : isMeant name = false := by
        unfold isMeant
        rw [skip_iff.mpr hs]
        rfl
      rw [List.filter_cons_of_neg (by rw [hf]; exact Bool.false_ne_true), ih, canonical_stay hs]
    · rw [List.filter_cons_of_pos (by decide), canonical_up, canonical_up, ih]
    · have hm : isMeant name = true := by
        unfold isMeant
        rw [Bool.eq_false_iff.mpr fun h => not_skipped hn (skip_iff.mp h)]
        rfl
      rw [List.filter_cons_of_pos hm]
      rcases hv : d.visibleLink? here name with _ | target
      · rw [canonical_down hn hv, canonical_down hn hv, ih]
      · rw [canonical_link hn hv, canonical_link hn hv]
        exact exists_congr fun mid => and_congr_right fun _ => ih

/-- The pieces of a path text that count are its parts. -/
theorem filter_pathPieces (s : String) :
    (pathPieces s).filter isMeant = (pathParts s.toList).map String.ofList := by
  have hall : ∀ r : List Char, ((splitOn '/' r).map String.ofList).filter isMeant =
      (pathParts r).map String.ofList := by
    intro r
    rw [List.filter_map]
    congr 1
    refine List.filter_congr fun q _ => ?_
    show (!(String.ofList q == "" || String.ofList q == ".")) = !(q == [] || q == ['.'])
    have h₁ : (String.ofList q == "") = (q == []) := by
      rw [Bool.eq_iff_iff, beq_iff_eq, beq_iff_eq, ← String.toList_inj, String.toList_ofList]
      exact Iff.rfl
    have h₂ : (String.ofList q == ".") = (q == ['.']) := by
      rw [Bool.eq_iff_iff, beq_iff_eq, beq_iff_eq, ← String.toList_inj, String.toList_ofList]
      exact Iff.rfl
    rw [h₁, h₂]
  unfold pathPieces
  split
  · rename_i r hr
    rw [hall, hr]
    exact congrArg _ (pathParts_append [] r).symm
  · exact hall _

/-- **A path and its normal form have one canonical location.** -/
theorem canonical_normalPath {d : Disk} {cwd l : Location} (path : String) :
    d.Canonical (pathStart cwd (normalPath path)) (pathPieces (normalPath path)) l ↔
      d.Canonical (pathStart cwd path) (pathPieces path) l := by
  obtain ⟨hparts, hroot⟩ := normalPath_parts path
  have hstart : pathStart cwd (normalPath path) = pathStart cwd path := by
    unfold pathStart
    rw [hroot]
  rw [hstart, ← canonical_filter, filter_pathPieces, hparts, ← filter_pathPieces, canonical_filter]

end Disk

end SecureStartup
