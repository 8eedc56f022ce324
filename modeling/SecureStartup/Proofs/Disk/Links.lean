import SecureStartup.Proofs.Disk.Growth

/-!
  Where links lead stays the same while a staging goes on.

  Program: `LocalSharedFileSystem` asks for the canonical location (`Path.resolve`) of the base path when
  the store is made, and for that of the keytab's path when it is copied.  In between a staging has made
  its directory and written log lines, and yet the two answers have to be about one tree of links.

  The search for a canonical location looks at nothing but the links that can be seen, and at whether
  a loop remains, so disks with the same directories and links answer it alike (`SameWays.canonical`).
  Neither log files that come and go nor a new directory with a file in it show a link that was not
  seen before, or hide one; so on a disk where no path leads into a loop of links, none does later on.
-/

namespace SecureStartup.Disk

/-- **Links end**: no path leads into a loop of symbolic links. -/
def LinksEnd (d : Disk) : Prop :=
  ∀ rooted here pieces, ∃ there, d.canonicalFrom [] rooted here pieces = .ok there

/-- On such a disk every path has a canonical location. -/
theorem LinksEnd.canonical {d : Disk} (a : LinksEnd d) (cwd : Location) (path : String) :
    ∃ l, d.canonical cwd path = .ok l := by
  unfold Disk.canonical
  obtain ⟨⟨rooted, l⟩, hl⟩ := a (startsAtRoot path) (if startsAtRoot path then [] else cwd)
    (pathPieces path)
  simp only [hl]
  exact ⟨l, rfl⟩

/-! ## What the search looks at -/

theorem link?_eq {d : Disk} {l : Location} (h : l ≠ []) :
    d.link? l = match d.entryAt? l with
      | some (.link target) => some target
      | _ => none := by
  have hl : l.isEmpty = false := List.isEmpty_eq_false_iff.mpr h
  unfold link? entryAt?
  rw [hl, if_neg Bool.false_ne_true]
  generalize List.find? _ d.entries = found
  rcases found with _ | ⟨m, e⟩
  · rfl
  · cases e <;> rfl

section Step

variable {d : Disk} {active : List Spelled} {rooted : Bool} {here : Location} {name : String}
  (hskip : ¬(name == "" || name == ".") = true) (hup : ¬(name == "..") = true)

include hskip hup

/-- A name that no link can be seen under is kept. -/
theorem canonicalFrom_plain (hl : d.visibleLink? here name = none) (rest : List String) :
    d.canonicalFrom active rooted here (name :: rest) =
      d.canonicalFrom active rooted (here ++ [name]) rest := by
  rw [canonicalFrom, if_neg hskip, if_neg hup]
  split
  · rfl
  · rename_i target ht
    rw [hl] at ht
    cases ht

/-- A link that is being followed already ends the search. -/
theorem canonicalFrom_loop {target : String} (hl : d.visibleLink? here name = some target)
    (ha : active.contains (rooted, here ++ [name]) = true) (rest : List String) :
    d.canonicalFrom active rooted here (name :: rest) = .error (behind (here ++ [name]) rest) := by
  rw [canonicalFrom, if_neg hskip, if_neg hup]
  split
  · rename_i ht
    rw [hl] at ht
    cases ht
  · exact dif_pos ha

/-- Another link is followed, and then the names behind it. -/
theorem canonicalFrom_follow {target : String} (hl : d.visibleLink? here name = some target)
    (ha : ¬active.contains (rooted, here ++ [name]) = true) (rest : List String) {rooted' : Bool}
    {start : Location}
    (hstart : (if startsAtRoot target then (true, []) else (rooted, here)) = (rooted', start)) :
    d.canonicalFrom active rooted here (name :: rest) =
      match d.canonicalFrom ((rooted, here ++ [name]) :: active) rooted' start
          (pathPieces target) with
      | .ok (rooted, there) => d.canonicalFrom active rooted there rest
      | .error loop => .error (behind loop rest) := by
  rw [canonicalFrom, if_neg hskip, if_neg hup]
  split
  · rename_i ht
    rw [hl] at ht
    cases ht
  · rename_i target' ht
    cases hl.symm.trans ht
    rw [dif_neg ha]
    generalize (if startsAtRoot target then (true, []) else (rooted, here)) = p at hstart ⊢
    cases hstart
    rfl

end Step

/-- **Only links that can be seen matter.**  Along the search; a link that is followed leads both
    searches to the same place, or both into the same loop. -/
theorem canonicalFrom_congr {d d' : Disk}
    (hv : ∀ dir name, d'.visibleLink? dir name = d.visibleLink? dir name) (active : List Spelled)
    (rooted : Bool) (here : Location) (pieces : List String) :
    d'.canonicalFrom active rooted here pieces = d.canonicalFrom active rooted here pieces := by
  fun_induction canonicalFrom d active rooted here pieces with
  | case1 active rooted here => rw [canonicalFrom]
  | case2 active rooted here name rest hskip ih =>
    rw [canonicalFrom, if_pos hskip]
    exact ih
  | case3 active rooted here name rest hskip hup ih =>
    rw [canonicalFrom, if_neg hskip, if_pos hup]
    exact ih
  | case4 active rooted here name rest hskip hup hl ih =>
    rw [canonicalFrom_plain hskip hup ((hv here name).trans hl)]
    exact ih
  | case5 active rooted here name rest hskip hup target hl link ha =>
    exact canonicalFrom_loop hskip hup ((hv here name).trans hl) ha rest
  | case6 active rooted here name rest hskip hup target hl link ha rooted' start hstart rooted''
      there hthere ihthere ihrest =>
    rw [canonicalFrom_follow hskip hup ((hv here name).trans hl) ha rest
      ((dite_eq_ite ..).symm.trans hstart), ihthere, hthere]
    exact ihrest
  | case7 active rooted here name rest hskip hup target hl link ha rooted' start hstart loop hloop
      ihloop =>
    rw [canonicalFrom_follow hskip hup ((hv here name).trans hl) ha rest
      ((dite_eq_ite ..).symm.trans hstart), ihloop, hloop]

theorem LinksEnd.congr {d d' : Disk} (a : LinksEnd d)
    (hv : ∀ dir name, d'.visibleLink? dir name = d.visibleLink? dir name) : LinksEnd d' := by
  intro rooted here pieces
  rw [canonicalFrom_congr hv]
  exact a rooted here pieces

/-- A disk that lists no links has none to follow.  By induction on the pieces. -/
theorem linksEnd_of_entries {d : Disk} (h : ∀ x ∈ d.entries, ∀ target, x.2 ≠ .link target) :
    LinksEnd d := by
  have hnone : ∀ dir name, d.visibleLink? dir name = none := by
    intro dir name
    rcases hv : d.visibleLink? dir name with _ | target
    · rfl
    · exact absurd rfl (h _ (mem_of_visibleLink? hv) target)
  intro rooted here pieces
  induction pieces generalizing here with
  | nil => exact ⟨_, canonicalFrom.eq_1 ..⟩
  | cons name rest ih =>
    by_cases hskip : (name == "" || name == ".") = true
    · rw [canonicalFrom, if_pos hskip]
      exact ih here
    · by_cases hup : (name == "..") = true
      · rw [canonicalFrom, if_neg hskip, if_pos hup]
        exact ih here.dropLast
      · rw [canonicalFrom_plain hskip hup (hnone here name)]
        exact ih (here ++ [name])

/-! ## Disks that show the same links -/

namespace SameWays

variable {d d' : Disk}

/-- What stands at a location is the same directory on both, or a directory on none. -/
theorem directory_cases (h : SameWays d d') (l : Location) :
    (∃ mode, d.entryAt? l = some (.directory mode) ∧ d'.entryAt? l = some (.directory mode)) ∨
      (∀ mode, d.entryAt? l ≠ some (.directory mode)) ∧
        ∀ mode, d'.entryAt? l ≠ some (.directory mode) := by
  by_cases hd : ∃ mode, d.entryAt? l = some (.directory mode)
  · obtain ⟨mode, hd⟩ := hd
    exact .inl ⟨mode, hd, h.keeps.directory hd⟩
  · refine .inr ⟨fun mode hm => hd ⟨mode, hm⟩, fun mode hm => hd ⟨mode, ?_⟩⟩
    exact h.symm.keeps.directory hm

theorem isSearchable (h : SameWays d d') (l : Location) : d'.isSearchable l = d.isSearchable l := by
  unfold Disk.isSearchable
  congr 1
  funext n
  rcases h.directory_cases (l.take n) with ⟨mode, hd, hd'⟩ | ⟨hd, hd'⟩
  · rw [hd, hd']
  · split
    · rename_i mode hm
      exact absurd hm (hd' mode)
    · rfl

/-- **The same links can be seen.** -/
theorem visibleLink? (h : SameWays d d') (dir : Location) (name : String) :
    d'.visibleLink? dir name = d.visibleLink? dir name := by
  have hne : dir ++ [name] ≠ [] := List.append_ne_nil_of_right_ne_nil _ (List.cons_ne_nil _ _)
  have hlink : d'.link? (dir ++ [name]) = d.link? (dir ++ [name]) := by
    rw [link?_eq hne, link?_eq hne]
    split
    · rename_i target ht
      rw [h.symm.keeps.link ht]
    · rename_i hno
      split
      · rename_i target ht
        exact absurd (h.keeps.link ht) (hno target)
      · rfl
  unfold Disk.visibleLink?
  rw [h.isSearchable, hlink]

/-- **A walk that follows too many links** does so on both.  Along the walk; nothing that comes or goes
    is passed. -/
theorem walkFrom_tooManyLinks (h : SameWays d d') {aim : Aim} {links : Nat} {here : Location}
    {names : List String} (hw : d.walkFrom aim links here names = .error .tooManyLinks) :
    d'.walkFrom aim links here names = .error .tooManyLinks := by
  have hk := h.keeps
  fun_induction walkFrom d aim links here names with
  | case3 links here name rest mode h₁ hd ih =>
    rw [walkFrom, hk.directory hd]
    exact (if_pos h₁).trans (ih hw)
  | case6 links here name rest mode _ h₁ h₂ h₃ h₄ hd ih =>
    rw [walkFrom, hk.directory hd]
    simp only [if_neg h₁, if_neg h₂, if_pos h₄]
    exact (if_neg h₃).trans (ih hw)
  | case7 links here name rest mode _ h₁ h₂ h₃ h₄ h₅ hd ih =>
    rw [walkFrom, hk.directory hd]
    simp only [if_neg h₁, if_neg h₂, if_neg h₄, if_pos h₅]
    exact (if_neg h₃).trans (ih hw)
  -- the link for which there was none left: it stands there on both
  | case12 here name rest mode _ h₁ h₂ h₃ h₄ h₅ h₆ target he h₇ hd =>
    rw [walkFrom, hk.directory hd]
    simp only [if_neg h₁, if_neg h₂, if_neg h₄, if_neg h₅, if_neg h₆, hk.link he, if_neg h₇]
    exact if_neg h₃
  | case13 here name rest mode _ h₁ h₂ h₃ h₄ h₅ h₆ target he h₇ links hd ih =>
    rw [walkFrom, hk.directory hd]
    simp only [if_neg h₁, if_neg h₂, if_neg h₄, if_neg h₅, if_neg h₆, hk.link he, if_neg h₇]
    exact (if_neg h₃).trans (ih hw)
  | case14 links here name rest mode _ h₁ h₂ h₃ h₄ h₅ h₆ e hlink he hd ih =>
    by_cases hdir : ∃ m, e = .directory m
    · obtain ⟨m, rfl⟩ := hdir
      rw [walkFrom, hk.directory hd]
      simp only [if_neg h₁, if_neg h₂, if_neg h₄, if_neg h₅, if_neg h₆, hk.directory he]
      exact (if_neg h₃).trans (ih hw)
    · -- behind what is no directory no link is followed
      rw [walkFrom, he] at hw
      rcases rest with _ | ⟨n, ns⟩
      · cases hw
      · cases e with
        | directory m => exact absurd ⟨m, rfl⟩ hdir
        | file id | link target | special s => cases hw
  | _ => cases hw

theorem walk_tooManyLinks (h : SameWays d d') (cwd : Location) (path : String) (aim : Aim) :
    d'.walk cwd path aim = .error .tooManyLinks ↔ d.walk cwd path aim = .error .tooManyLinks := by
  unfold walk
  split
  · exact Iff.rfl
  · split
    · exact Iff.rfl
    · exact ⟨h.symm.walkFrom_tooManyLinks, h.walkFrom_tooManyLinks⟩

/-- **The canonical location** of a path is the same on both. -/
theorem canonical (h : SameWays d d') (cwd : Location) (path : String) :
    d'.canonical cwd path = d.canonical cwd path := by
  unfold Disk.canonical
  simp only [canonicalFrom_congr h.visibleLink?]
  split
  · rfl
  · split
    · rename_i hw
      rw [(h.walk_tooManyLinks ..).mp hw]
    · rename_i hno
      split
      · rename_i hw
        exact absurd ((h.walk_tooManyLinks ..).mpr hw) hno
      · rfl

end SameWays

/-- What happens to log files moves no link. -/
theorem LinksEnd.logged {logs : Set Location} {d d' : Disk} (a : LinksEnd d)
    (hp : LogPlaces logs d) (b : LogsOnly logs d d') : LinksEnd d' :=
  a.congr (b.ways hp).visibleLink?

/-- A new directory holds no link, and what lies elsewhere is seen as before. -/
theorem Holding.visibleLink? {logs : Set Location} {l : Location} {mode : Nat}
    {file : Option (String × Nat)} {d₀ d : Disk} (a : Holding logs l mode file d₀ d) (hs : Sound d₀)
    (hp : LogPlaces logs d₀) (dir : Location) (name : String) :
    d.visibleLink? dir name = d₀.visibleLink? dir name := by
  have hne : dir ++ [name] ≠ [] := List.append_ne_nil_of_right_ne_nil _ (List.cons_ne_nil _ _)
  by_cases hl : l <+: dir ++ [name]
  · -- in the directory there was nothing, and there is no link now
    have h₀ : d₀.entryAt? (dir ++ [name]) = none := hs.entryAt?_below a.fresh hl
    have hnow : ∀ target, d.entryAt? (dir ++ [name]) ≠ some (.link target) := by
      intro target ht
      by_cases hm : dir ++ [name] = l
      · rw [hm, a.directory] at ht
        exact nomatch ht
      · obtain ⟨_, _, _, _, he⟩ := a.eq_child hl hm ht
        exact nomatch he
    unfold Disk.visibleLink?
    rw [link?_eq hne, link?_eq hne, h₀, ite_self]
    split
    · split
      · rename_i target ht
        exact absurd ht (hnow target)
      · rfl
    · rfl
  · -- elsewhere it is as if the directory were not there
    rw [← (a.rest.ways hp).visibleLink? dir name]
    have habove : ∀ n, ¬ l <+: dir.take n := fun n hn =>
      hl (hn.trans ((List.take_prefix n dir).trans (List.prefix_append dir [name])))
    have hsearch : (d.cut l).isSearchable dir = d.isSearchable dir := by
      unfold isSearchable
      simp only [fun n => entryAt?_cut_of_not_below (d := d) (habove n)]
    unfold Disk.visibleLink?
    rw [hsearch, link?_eq hne, link?_eq hne, entryAt?_cut_of_not_below hl]

end SecureStartup.Disk
