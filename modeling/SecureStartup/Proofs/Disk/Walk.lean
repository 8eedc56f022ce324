import Mathlib.Logic.Relation
import SecureStartup.Disk.Operations

/-!
  Walks on a disk that changes.

  Program: every path that the program gives the system (`mkdir`, `chmod`, `open`, `shutil.copyfile`,
  `unlink`) is walked, name after name and link after link.  While it runs it makes directories, writes
  files, and lets its log files come and go.

  A walk passes directories and links and looks at one thing more, where it ends.  So it goes the same
  way on a disk that has kept these (`KeepsWays`), whatever has become of the files:

  1. What was found is found again, if it is there still (`walkFrom_found_keeps`).
  2. A place that was free, and holds a directory now, is what the path leads to from then on, with any
     further names behind it (`walkFrom_into`).
  3. A walk to a place where files come and go ends at this place on either disk (`walkFrom_place`).

  A walk is taken apart into single steps (`Step`), each of which passes one name or follows one
  link, whatever the walk is for.  What a walk is for only matters at its end: a walk for a name stops at
  a link, and one for a new file stops where a directory is wished for.

  Proofs along a walk have the cases of `walkFrom` in the order of its text.  A walk passes an empty name
  (3), stays at `.` (6), goes up at `..` (7), follows a link (13) or goes down (14).  It ends with all
  names passed (2), at a free place (9), or at the link that it is for (11).  The other cases are refusals:
  no such entry (1, 10), no right to search (4), a wish for a directory where a file is to be made (5), a
  name that is too long (8), too many links (12), and names behind what is no directory (15).
-/

namespace SecureStartup.Disk

/-- Every entry of the one disk is on the other. -/
def Extends (d d' : Disk) : Prop := ∀ l e, d.entryAt? l = some e → d'.entryAt? l = some e

theorem Extends.refl (d : Disk) : Extends d d := fun _ _ h => h

/-- Directories and links lead somewhere; a walk ends at everything else. -/
def isWay : Entry → Bool
  | .directory _ | .link _ => true
  | .file _ | .special _ => false

/-- **The ways stay**: every directory and every link of the one disk is on the other. -/
def KeepsWays (d d' : Disk) : Prop :=
  ∀ l e, isWay e = true → d.entryAt? l = some e → d'.entryAt? l = some e

theorem Extends.ways {d d' : Disk} (a : Extends d d') : KeepsWays d d' := fun l e _ h => a l e h

namespace KeepsWays

variable {d d' d'' : Disk}

theorem refl (d : Disk) : KeepsWays d d := fun _ _ _ h => h

theorem trans (a : KeepsWays d d') (b : KeepsWays d' d'') : KeepsWays d d'' :=
  fun l e hw h => b l e hw (a l e hw h)

theorem directory (a : KeepsWays d d') {l : Location} {mode : Nat}
    (h : d.entryAt? l = some (.directory mode)) : d'.entryAt? l = some (.directory mode) :=
  a l _ rfl h

theorem link (a : KeepsWays d d') {l : Location} {target : String}
    (h : d.entryAt? l = some (.link target)) : d'.entryAt? l = some (.link target) :=
  a l _ rfl h

end KeepsWays

/-- **The same ways**: the directories and links of the one disk are those of the other. -/
def SameWays (d d' : Disk) : Prop :=
  ∀ l e, isWay e = true → (d'.entryAt? l = some e ↔ d.entryAt? l = some e)

theorem SameWays.keeps {d d' : Disk} (a : SameWays d d') : KeepsWays d d' :=
  fun l e hw h => (a l e hw).mpr h

theorem SameWays.symm {d d' : Disk} (a : SameWays d d') : SameWays d' d :=
  fun l e hw => (a l e hw).symm

/-- A name that stands for an entry of a directory. -/
structure IsName (n : String) : Prop where
  ne_empty : n ≠ ""
  ne_dot : n ≠ "."
  ne_dots : n ≠ ".."

theorem isName_of_beq {n : String} (h₁ : ¬ (n == "") = true) (h₂ : ¬ (n == ".") = true)
    (h₃ : ¬ (n == "..") = true) : IsName n :=
  ⟨fun h => h₁ (beq_iff_eq.mpr h), fun h => h₂ (beq_iff_eq.mpr h), fun h => h₃ (beq_iff_eq.mpr h)⟩

/-! ## Single steps -/

/-- How far a walk has come: the links that may still be followed, the location, the names left. -/
abbrev Point := Nat × Location × List String

/-- **One step of a walk.** -/
inductive Step (d : Disk) : Point → Point → Prop where
  /-- An empty name asks for a directory, and one is there. -/
  | skip {links : Nat} {here : Location} {rest : List String} {mode : Nat} :
      d.entryAt? here = some (.directory mode) → Step d (links, here, "" :: rest) (links, here, rest)
  | stay {links : Nat} {here : Location} {rest : List String} {mode : Nat} :
      d.entryAt? here = some (.directory mode) → maySearch mode = true →
      Step d (links, here, "." :: rest) (links, here, rest)
  | up {links : Nat} {here : Location} {rest : List String} {mode : Nat} :
      d.entryAt? here = some (.directory mode) → maySearch mode = true →
      Step d (links, here, ".." :: rest) (links, here.dropLast, rest)
  | down {links : Nat} {here : Location} {name : String} {rest : List String} {mode : Nat}
      {e : Entry} :
      d.entryAt? here = some (.directory mode) → maySearch mode = true → IsName name →
      name.utf8ByteSize ≤ maxName → d.entryAt? (here ++ [name]) = some e →
      (∀ target, e ≠ .link target) →
      Step d (links, here, name :: rest) (links, here ++ [name], rest)
  | follow {links : Nat} {here : Location} {name : String} {rest : List String} {mode : Nat}
      {target : String} :
      d.entryAt? here = some (.directory mode) → maySearch mode = true → IsName name →
      name.utf8ByteSize ≤ maxName → d.entryAt? (here ++ [name]) = some (.link target) →
      Step d (links + 1, here, name :: rest)
        (links, if startsAtRoot target then [] else here, pathNames target ++ rest)

/-- Any number of steps. -/
abbrev Travels (d : Disk) : Point → Point → Prop := Relation.ReflTransGen (Step d)

/-- A step leaves a directory. -/
theorem Step.directory {d : Disk} {p q : Point} (h : Step d p q) :
    ∃ mode, d.entryAt? p.2.1 = some (.directory mode) := by
  cases h with
  | skip hd => exact ⟨_, hd⟩
  | stay hd _ => exact ⟨_, hd⟩
  | up hd _ => exact ⟨_, hd⟩
  | down hd _ _ _ _ _ => exact ⟨_, hd⟩
  | follow hd _ _ _ _ => exact ⟨_, hd⟩

/-- **A step to a directory** is one on every disk that keeps the ways. -/
theorem Step.keeps {d d' : Disk} (hk : KeepsWays d d') {p q : Point} (h : Step d p q)
    (hq : ∃ mode, d.entryAt? q.2.1 = some (.directory mode)) : Step d' p q := by
  cases h with
  | skip hd => exact .skip (hk.directory hd)
  | stay hd hs => exact .stay (hk.directory hd) hs
  | up hd hs => exact .up (hk.directory hd) hs
  | down hd hs hn hl he ht =>
    obtain ⟨mode, hdir⟩ := hq
    cases Option.some.inj (he.symm.trans hdir)
    exact .down (hk.directory hd) hs hn hl (hk.directory he) ht
  | follow hd hs hn hl he => exact .follow (hk.directory hd) hs hn hl (hk.link he)

/-- Any number of steps that end at a directory: each of them leads to one, from which the next is
    taken. -/
theorem Travels.keeps {d d' : Disk} (hk : KeepsWays d d') {p q : Point} (h : Travels d p q)
    (hq : ∃ mode, d.entryAt? q.2.1 = some (.directory mode)) : Travels d' p q := by
  induction h using Relation.ReflTransGen.head_induction_on with
  | refl => exact .refl
  | head hstep hgo ih =>
    refine ih.head (hstep.keeps hk ?_)
    rcases hgo.cases_head with rfl | ⟨r, hr, _⟩
    · exact hq
    · exact hr.directory

/-- More names behind the others do not matter for a step. -/
theorem Step.append {d : Disk} (tail : List String) {p q : Point} (h : Step d p q) :
    Step d (p.1, p.2.1, p.2.2 ++ tail) (q.1, q.2.1, q.2.2 ++ tail) := by
  cases h with
  | skip hd => exact .skip hd
  | stay hd hs => exact .stay hd hs
  | up hd hs => exact .up hd hs
  | down hd hs hn hl he ht => exact .down hd hs hn hl he ht
  | follow hd hs hn hl he =>
    simp only [List.append_assoc]
    exact .follow hd hs hn hl he

/-- There is a step only where there is a name. -/
theorem Step.names_ne_nil {d : Disk} {p q : Point} (h : Step d p q) : p.2.2 ≠ [] := by
  cases h <;> exact nofun

/-- **A walk goes on after a step**, unless the step is at its end and it matters what the walk is
    for: then some name has to come. -/
theorem walkFrom_step {d : Disk} {aim : Aim} {links links' : Nat} {here here' : Location}
    {name : String} {rest names' : List String}
    (h : Step d (links, here, name :: rest) (links', here', names'))
    (hc : aim = .target ∨ ∃ n ∈ rest, n ≠ "") :
    d.walkFrom aim links here (name :: rest) = d.walkFrom aim links' here' names' := by
  -- That a file is to be made only matters at the last name, and so does that a name is looked for.
  have hnew : (aim == .newFile && rest.all (·.isEmpty) && !rest.isEmpty) = false := by
    rcases hc with rfl | ⟨n, hn, hne⟩
    · rfl
    · have : rest.all (·.isEmpty) = false := by
        rw [List.all_eq_false]
        exact ⟨n, hn, by simpa using hne⟩
      rw [this, Bool.and_false, Bool.false_and]
  have hname : (rest.isEmpty && aim == .name) = false := by
    rcases hc with rfl | ⟨n, hn, hne⟩
    · exact Bool.and_false _
    · rw [List.isEmpty_eq_false_iff.mpr (List.ne_nil_of_mem hn), Bool.false_and]
  rw [walkFrom]
  cases h with
  | skip hd => simp only [hd, beq_self_eq_true, if_true]
  | stay hd hs =>
    simp only [hd, hs, hnew]
    rfl
  | up hd hs =>
    have h₁ : ((".." : String) == "") = false := rfl
    have h₂ : ((".." : String) == ".") = false := rfl
    simp only [hd, hs, hnew, h₁, h₂, Bool.not_true, Bool.false_eq_true, if_false, beq_self_eq_true,
      if_true]
  | down hd hs hn hl he ht =>
    simp only [hd, hs, hnew, he, beq_eq_false_iff_ne.mpr hn.ne_empty,
      beq_eq_false_iff_ne.mpr hn.ne_dot, beq_eq_false_iff_ne.mpr hn.ne_dots, Nat.not_lt.mpr hl,
      Bool.not_true, Bool.false_eq_true, if_false]
  | follow hd hs hn hl he =>
    simp only [hd, hs, hnew, he, hname, beq_eq_false_iff_ne.mpr hn.ne_empty,
      beq_eq_false_iff_ne.mpr hn.ne_dot, beq_eq_false_iff_ne.mpr hn.ne_dots, Nat.not_lt.mpr hl,
      Bool.not_true, Bool.false_eq_true, if_false]

/-- **A walk goes on after any number of steps**, with names behind that matter. -/
theorem walkFrom_travels {d : Disk} {p q : Point} (h : Travels d p q)
    {aim : Aim} (tail : List String) (hc : aim = .target ∨ ∃ n ∈ tail, n ≠ "") :
    d.walkFrom aim p.1 p.2.1 (p.2.2 ++ tail) = d.walkFrom aim q.1 q.2.1 (q.2.2 ++ tail) := by
  induction h with
  | refl => rfl
  | @tail q r _ hstep ih =>
    rw [ih]
    obtain ⟨links, here, names⟩ := q
    rcases names with _ | ⟨name, rest⟩
    · exact absurd rfl hstep.names_ne_nil
    · refine walkFrom_step (hstep.append tail) (hc.imp_right ?_)
      rintro ⟨n, hn, hne⟩
      exact ⟨n, List.mem_append_right _ hn, hne⟩

/-! ## Where walks end -/

/-- A place is free: a directory that can be searched, with nothing under a name. -/
structure IsFree (d : Disk) (dir : Location) (name : String) : Prop where
  directory : ∃ mode, d.entryAt? dir = some (.directory mode) ∧ maySearch mode = true
  isName : IsName name
  short : name.utf8ByteSize ≤ maxName
  absent : d.entryAt? (dir ++ [name]) = none

/-- **A walk to a free place**: steps, and then the name of the place, behind which nothing but the
    wish for a directory comes, and nothing at all when the place is for a file. -/
theorem travels_of_free {d : Disk} {aim : Aim} {links : Nat} {here : Location} {names : List String}
    {dir : Location} {name : String} (h : d.walkFrom aim links here names = .ok (.free dir name)) :
    IsFree d dir name ∧ ∃ links' rest, Travels d (links, here, names) (links', dir, name :: rest) ∧
      (∀ n ∈ rest, n = "") ∧ (aim = .newFile → rest = []) := by
  fun_induction walkFrom d aim links here names with
  | case3 links here name₁ rest mode h₁ hd ih =>
    obtain ⟨hfree, links', rest', ht, hrest⟩ := ih h
    cases eq_of_beq h₁
    exact ⟨hfree, links', rest', ht.head (.skip hd), hrest⟩
  | case6 links here name₁ rest mode _ h₁ h₂ h₃ h₄ hd ih =>
    obtain ⟨hfree, links', rest', ht, hrest⟩ := ih h
    cases eq_of_beq h₄
    exact ⟨hfree, links', rest', ht.head (.stay hd (by simpa using h₂)), hrest⟩
  | case7 links here name₁ rest mode _ h₁ h₂ h₃ h₄ h₅ hd ih =>
    obtain ⟨hfree, links', rest', ht, hrest⟩ := ih h
    cases eq_of_beq h₅
    exact ⟨hfree, links', rest', ht.head (.up hd (by simpa using h₂)), hrest⟩
  | case9 links here name₁ rest mode _ h₁ h₂ h₃ h₄ h₅ h₆ he hlast hd =>
    cases h
    have hsearch : maySearch mode = true := by simpa using h₂
    refine ⟨⟨⟨mode, hd, hsearch⟩, isName_of_beq h₁ h₄ h₅, Nat.not_lt.mp h₆, he⟩, links, rest,
      .refl, fun n hn => String.isEmpty_iff.mp (List.all_eq_true.mp hlast n hn), ?_⟩
    rintro rfl
    exact (show _ → rest = [] by simpa using h₃) hlast
  | case13 here name₁ rest mode _ h₁ h₂ h₃ h₄ h₅ h₆ target he h₇ links hd ih =>
    obtain ⟨hfree, links', rest', ht, hrest⟩ := ih h
    have hsearch : maySearch mode = true := by simpa using h₂
    exact ⟨hfree, links', rest',
      ht.head (.follow hd hsearch (isName_of_beq h₁ h₄ h₅) (Nat.not_lt.mp h₆) he), hrest⟩
  | case14 links here name₁ rest mode _ h₁ h₂ h₃ h₄ h₅ h₆ e hlink he hd ih =>
    obtain ⟨hfree, links', rest', ht, hrest⟩ := ih h
    have hsearch : maySearch mode = true := by simpa using h₂
    exact ⟨hfree, links', rest',
      ht.head (.down hd hsearch (isName_of_beq h₁ h₄ h₅) (Nat.not_lt.mp h₆) he
        fun t ht => hlink t ht), hrest⟩
  | _ => cases h

/-- Empty names behind a directory are passed. -/
theorem travels_skip {d : Disk} {l : Location} {mode : Nat}
    (hd : d.entryAt? l = some (.directory mode)) (links : Nat) (tail : List String)
    {rest : List String} (hrest : ∀ n ∈ rest, n = "") :
    Travels d (links, l, rest ++ tail) (links, l, tail) := by
  induction rest with
  | nil => exact .refl
  | cons n rest ih =>
    cases hrest n (List.mem_cons_self ..)
    exact (ih fun m hm => hrest m (List.mem_cons_of_mem _ hm)).head (.skip hd)

/-- **Into a new directory.**  Where a walk found a free place, and a directory has come to it, the
    walk leads there, and on from there with the names behind it. -/
theorem walkFrom_into {d d' : Disk} (hk : KeepsWays d d') {aim aim' : Aim} {links : Nat}
    {here : Location} {names : List String} {dir : Location} {name : String}
    (h : d.walkFrom aim links here names = .ok (.free dir name)) {mode : Nat}
    (hd : d'.entryAt? (dir ++ [name]) = some (.directory mode)) (tail : List String)
    (hc : aim' = .target ∨ ∃ n ∈ tail, n ≠ "") :
    ∃ links', d'.walkFrom aim' links here (names ++ tail) =
      d'.walkFrom aim' links' (dir ++ [name]) tail := by
  obtain ⟨⟨⟨m, hm, hs⟩, hname, hshort, _⟩, links', rest, ht, hrest, _⟩ := travels_of_free h
  refine ⟨links', ?_⟩
  have hdown : Step d' (links', dir, name :: rest) (links', dir ++ [name], rest) :=
    .down (hk.directory hm) hs hname hshort hd fun _ => nofun
  have hin : Travels d' (links', dir, name :: rest) (links', dir ++ [name], []) := by
    have hskip := travels_skip hd links' [] hrest
    rw [List.append_nil] at hskip
    exact hskip.head hdown
  exact (walkFrom_travels (ht.keeps hk ⟨m, hm⟩) tail hc).trans (walkFrom_travels hin tail hc)

/-- What a walk to a place finds, as the place is: an entry, or nothing. -/
def placeAt (d : Disk) (dir : Location) (name : String) : Place :=
  match d.entryAt? (dir ++ [name]) with
  | some e => .found (dir ++ [name]) e
  | none => .free dir name

theorem placeAt_none {d : Disk} {dir : Location} {name : String}
    (h : d.entryAt? (dir ++ [name]) = none) : d.placeAt dir name = .free dir name := by
  unfold placeAt
  rw [h]

theorem placeAt_some {d : Disk} {dir : Location} {name : String} {e : Entry}
    (h : d.entryAt? (dir ++ [name]) = some e) : d.placeAt dir name = .found (dir ++ [name]) e := by
  unfold placeAt
  rw [h]

theorem placeAt_eq_found {d : Disk} {dir l : Location} {name : String} {e : Entry}
    (h : d.placeAt dir name = .found l e) : l = dir ++ [name] ∧ d.entryAt? l = some e := by
  rcases he : d.entryAt? (dir ++ [name]) with _ | e'
  · rw [placeAt_none he] at h
    exact nomatch h
  · rw [placeAt_some he] at h
    cases h
    exact ⟨rfl, he⟩

theorem placeAt_eq_free {d : Disk} {dir l : Location} {name n : String}
    (h : d.placeAt dir name = .free l n) : l = dir ∧ n = name ∧ d.entryAt? (l ++ [n]) = none := by
  rcases he : d.entryAt? (dir ++ [name]) with _ | e'
  · rw [placeAt_none he] at h
    cases h
    exact ⟨rfl, rfl, he⟩
  · rw [placeAt_some he] at h
    exact nomatch h

/-- **The last name** of a walk is looked up, and nothing else, if it is not that of a link. -/
theorem walkFrom_last {d : Disk} {l : Location} {mode : Nat}
    (hd : d.entryAt? l = some (.directory mode)) (hs : maySearch mode = true) {n : String}
    (hn : IsName n) (hlink : ∀ target, d.entryAt? (l ++ [n]) ≠ some (.link target)) (aim : Aim)
    (links : Nat) :
    d.walkFrom aim links l [n] =
      if maxName < n.utf8ByteSize then .error .nameTooLong else .ok (d.placeAt l n) := by
  rw [walkFrom]
  simp only [hd, hs, beq_eq_false_iff_ne.mpr hn.ne_empty, beq_eq_false_iff_ne.mpr hn.ne_dot,
    beq_eq_false_iff_ne.mpr hn.ne_dots, Bool.not_true, Bool.false_eq_true, if_false, List.isEmpty_nil,
    Bool.and_false, List.all_nil, if_true]
  rcases he : d.entryAt? (l ++ [n]) with _ | e
  · rw [placeAt_none he]
  · rw [placeAt_some he]
    cases e with
    | link target => exact absurd he (hlink target)
    | directory m | file id | special s =>
      simp only
      rw [walkFrom, he]

/-- A name that nothing stands under is a free place. -/
theorem walkFrom_absent {d : Disk} {l : Location} {mode : Nat}
    (hd : d.entryAt? l = some (.directory mode)) (hs : maySearch mode = true) {n : String}
    (hn : IsName n) (ha : d.entryAt? (l ++ [n]) = none) (aim : Aim) (links : Nat) :
    d.walkFrom aim links l [n] =
      if maxName < n.utf8ByteSize then .error .nameTooLong else .ok (.free l n) := by
  rw [walkFrom_last hd hs hn (fun target ht => nomatch ha.symm.trans ht) aim links, placeAt_none ha]

/-- A name that a file stands under leads to it. -/
theorem walkFrom_file {d : Disk} {l : Location} {mode : Nat}
    (hd : d.entryAt? l = some (.directory mode)) (hs : maySearch mode = true) {n : String}
    (hn : IsName n) {id : Nat} (hf : d.entryAt? (l ++ [n]) = some (.file id)) (aim : Aim)
    (links : Nat) :
    d.walkFrom aim links l [n] =
      if maxName < n.utf8ByteSize then .error .nameTooLong
      else .ok (.found (l ++ [n]) (.file id)) := by
  rw [walkFrom_last hd hs hn (fun target ht => nomatch hf.symm.trans ht) aim links, placeAt_some hf]

/-- A walk that stands at something that leads nowhere has no names left. -/
theorem walkFrom_end {d : Disk} {aim : Aim} {links : Nat} {here : Location} {names : List String}
    {e : Entry} {p : Place} (he : d.entryAt? here = some e) (hw : ∀ mode, e ≠ .directory mode)
    (h : d.walkFrom aim links here names = .ok p) : names = [] ∧ p = .found here e := by
  rw [walkFrom, he] at h
  rcases names with _ | ⟨name, rest⟩
  · exact ⟨rfl, (Except.ok.inj h).symm⟩
  · cases e with
    | directory mode => exact absurd rfl (hw mode)
    | file id => exact nomatch h
    | link target => exact nomatch h
    | special s => exact nomatch h

/-- **What was found is found again**, if it is there still. -/
theorem walkFrom_found_keeps {d d' : Disk} (hk : KeepsWays d d') {aim : Aim} {links : Nat}
    {here : Location} {names : List String} {l : Location} {e : Entry}
    (h : d.walkFrom aim links here names = .ok (.found l e)) (he : d'.entryAt? l = some e) :
    d'.walkFrom aim links here names = .ok (.found l e) := by
  fun_induction walkFrom d aim links here names with
  | case2 links here entry hd =>
    cases h
    rw [walkFrom, he]
  | case3 links here name rest mode h₁ hd ih =>
    rw [walkFrom, hk.directory hd]
    simp only [h₁, if_true]
    exact ih h
  | case6 links here name rest mode _ h₁ h₂ h₃ h₄ hd ih =>
    rw [walkFrom, hk.directory hd]
    simp only [if_neg h₁, if_neg h₂, if_pos h₄]
    exact (if_neg h₃).trans (ih h)
  | case7 links here name rest mode _ h₁ h₂ h₃ h₄ h₅ hd ih =>
    rw [walkFrom, hk.directory hd]
    simp only [if_neg h₁, if_neg h₂, if_neg h₄, if_pos h₅]
    exact (if_neg h₃).trans (ih h)
  | case11 links here name rest mode _ h₁ h₂ h₃ h₄ h₅ h₆ target ht h₇ hd =>
    rw [walkFrom, hk.directory hd]
    simp only [if_neg h₁, if_neg h₂, if_neg h₄, if_neg h₅, if_neg h₆, hk.link ht, if_pos h₇]
    exact (if_neg h₃).trans h
  | case13 here name rest mode _ h₁ h₂ h₃ h₄ h₅ h₆ target ht h₇ links hd ih =>
    rw [walkFrom, hk.directory hd]
    simp only [if_neg h₁, if_neg h₂, if_neg h₄, if_neg h₅, if_neg h₆, hk.link ht, if_neg h₇]
    exact (if_neg h₃).trans (ih h)
  | case14 links here name rest mode _ h₁ h₂ h₃ h₄ h₅ h₆ e' hlink he' hd ih =>
    rw [walkFrom, hk.directory hd]
    simp only [if_neg h₁, if_neg h₂, if_neg h₄, if_neg h₅, if_neg h₆]
    cases e' with
    | link target => exact absurd rfl (hlink target)
    | directory m =>
      rw [hk.directory he']
      exact (if_neg h₃).trans (ih h)
    | file id =>
      -- nothing lies behind it, so it is what was found
      obtain ⟨_, hp⟩ := walkFrom_end he' (fun _ => nofun) h
      cases hp
      rw [he]
      exact (if_neg h₃).trans (ih h)
    | special s =>
      obtain ⟨_, hp⟩ := walkFrom_end he' (fun _ => nofun) h
      cases hp
      rw [he]
      exact (if_neg h₃).trans (ih h)
  | _ => cases h

/-- No name is left, or the last one is no wish for a directory. -/
def EndsInName (names : List String) : Prop := ∀ n ∈ names.getLast?, n ≠ ""

theorem EndsInName.tail {name : String} {rest : List String} (h : EndsInName (name :: rest)) :
    EndsInName rest := by
  intro n hn
  refine h n ?_
  rw [List.getLast?_cons, hn]
  rfl

theorem EndsInName.append {front rest : List String} (h : EndsInName rest) (hne : rest ≠ []) :
    EndsInName (front ++ rest) := by
  intro n hn
  rw [List.getLast?_append, List.getLast?_eq_some_getLast hne] at hn
  cases hn
  exact h _ (List.getLast_mem_getLast? hne)

/-- Names that are all empty do not come behind the last one. -/
theorem EndsInName.eq_nil {name : String} {rest : List String} (h : EndsInName (name :: rest))
    (hrest : rest.all (·.isEmpty) = true) : rest = [] := by
  rcases hlast : rest.getLast? with _ | n
  · exact List.getLast?_eq_none_iff.mp hlast
  · have hempty : n.isEmpty = true := List.all_eq_true.mp hrest n (List.mem_of_getLast? hlast)
    exact absurd (String.isEmpty_iff.mp hempty) (h.tail n hlast)

section Place

variable {d d' : Disk} (hk : KeepsWays d d') {dir : Location} {name : String}
  (hlink : ∀ target, d'.entryAt? (dir ++ [name]) ≠ some (.link target))
  (hbelow : ∀ n e, d.entryAt? (dir ++ [name] ++ [n]) = some e →
    ∃ mode, d.entryAt? (dir ++ [name]) = some (.directory mode))

include hk hlink hbelow

/-- **A walk to a place** ends there on every disk that keeps the ways, whatever has come to the place
    or gone from it; only a link at the place would lead on.  Along the walk: what stands at the place
    is looked at only once all names are passed. -/
theorem walkFrom_place {aim : Aim} {links : Nat} {here : Location} {names : List String}
    (haim : aim = .newFile ∨ aim = .name ∧ EndsInName names)
    (hhere : names = [] → here = dir ++ [name] → ∃ mode, d.entryAt? here = some (.directory mode))
    (h : d.walkFrom aim links here names = .ok (d.placeAt dir name)) :
    d'.walkFrom aim links here names = .ok (d'.placeAt dir name) := by
  -- Along the walk.  `hhere` is kept for a walk that may end at the place: a directory stands there then.
  fun_induction walkFrom d aim links here names with
  | case2 links here entry hd =>
    obtain ⟨rfl, _⟩ := placeAt_eq_found (Except.ok.inj h).symm
    obtain ⟨mode, hdir⟩ := hhere rfl rfl
    rw [walkFrom, hk.directory hdir, placeAt_some (hk.directory hdir)]
  | case3 links here name₁ rest mode h₁ hd ih =>
    rw [walkFrom, hk.directory hd]
    refine (if_pos h₁).trans (ih ?_ (fun _ _ => ⟨mode, hd⟩) h)
    exact haim.imp id fun hname => ⟨hname.1, hname.2.tail⟩
  | case6 links here name₁ rest mode _ h₁ h₂ h₃ h₄ hd ih =>
    rw [walkFrom, hk.directory hd]
    simp only [if_neg h₁, if_neg h₂, if_pos h₄]
    refine (if_neg h₃).trans (ih ?_ (fun _ _ => ⟨mode, hd⟩) h)
    exact haim.imp id fun hname => ⟨hname.1, hname.2.tail⟩
  | case7 links here name₁ rest mode _ h₁ h₂ h₃ h₄ h₅ hd ih =>
    rw [walkFrom, hk.directory hd]
    simp only [if_neg h₁, if_neg h₂, if_neg h₄, if_pos h₅]
    refine (if_neg h₃).trans (ih ?_ (fun _ hup => ?_) h)
    · exact haim.imp id fun hname => ⟨hname.1, hname.2.tail⟩
    · -- the walk comes up to the place, so something lies below it
      rcases here.eq_nil_or_concat with rfl | ⟨up, last, rfl⟩
      · exact ⟨rootMode, rfl⟩
      · rw [List.concat_eq_append, List.dropLast_concat] at hup ⊢
        rw [List.concat_eq_append, hup] at hd
        rw [hup]
        exact hbelow last _ hd
  | case9 links here name₁ rest mode _ h₁ h₂ h₃ h₄ h₅ h₆ he hall hd =>
    -- the last name, and nothing stands there: this is the place
    have hrest : rest = [] := by
      rcases haim with rfl | ⟨rfl, hname⟩
      · exact (show _ → rest = [] by simpa using h₃) hall
      · exact hname.eq_nil hall
    obtain ⟨rfl, rfl, _⟩ := placeAt_eq_free (Except.ok.inj h).symm
    subst hrest
    rw [walkFrom_last (hk.directory hd) (by simpa using h₂) (isName_of_beq h₁ h₄ h₅) hlink,
      if_neg h₆]
  | case11 links here name₁ rest mode _ h₁ h₂ h₃ h₄ h₅ h₆ target he h₇ hd =>
    -- a link at the place, which there is none of
    obtain ⟨hplace, _⟩ := placeAt_eq_found (Except.ok.inj h).symm
    rw [hplace] at he
    exact absurd (hk.link he) (hlink target)
  | case13 here name₁ rest mode _ h₁ h₂ h₃ h₄ h₅ h₆ target he h₇ links hd ih =>
    rw [walkFrom, hk.directory hd]
    simp only [if_neg h₁, if_neg h₂, if_neg h₄, if_neg h₅, if_neg h₆, hk.link he, if_neg h₇]
    refine (if_neg h₃).trans (ih ?_ (fun _ hstart => ?_) h)
    · rcases haim with rfl | ⟨rfl, hname⟩
      · exact .inl rfl
      · have hne : rest ≠ [] := fun hnil => h₇ (by rw [hnil]; rfl)
        exact .inr ⟨rfl, hname.tail.append hne⟩
    · by_cases hroot : startsAtRoot target = true
      · rw [dif_pos hroot]
        exact ⟨rootMode, rfl⟩
      · rw [dif_neg hroot]
        exact ⟨mode, hd⟩
  | case14 links here name₁ rest mode _ h₁ h₂ h₃ h₄ h₅ h₆ e hno he hd ih =>
    by_cases hdir : ∃ m, e = .directory m
    · obtain ⟨m, rfl⟩ := hdir
      rw [walkFrom, hk.directory hd]
      simp only [if_neg h₁, if_neg h₂, if_neg h₄, if_neg h₅, if_neg h₆, hk.directory he]
      refine (if_neg h₃).trans (ih ?_ (fun _ _ => ⟨m, he⟩) h)
      exact haim.imp id fun hname => ⟨hname.1, hname.2.tail⟩
    · -- nothing lies behind it, so this is the place
      obtain ⟨hrest, hp⟩ := walkFrom_end he (fun m hm => hdir ⟨m, hm⟩) h
      obtain ⟨hplace, _⟩ := placeAt_eq_found hp
      obtain ⟨rfl, hname⟩ := List.append_inj' hplace rfl
      cases hname
      subst hrest
      rw [walkFrom_last (hk.directory hd) (by simpa using h₂) (isName_of_beq h₁ h₄ h₅) hlink,
        if_neg h₆]
  | _ => cases h

end Place

/-- **A walk for a file** goes as one for what the path leads to, unless it is refused. -/
theorem walkFrom_newFile {d : Disk} {links : Nat} {here : Location} {names : List String} {p : Place}
    (h : d.walkFrom .newFile links here names = .ok p) :
    d.walkFrom .target links here names = .ok p := by
  fun_induction walkFrom d .newFile links here names with
  | case2 links here entry hd =>
    rw [walkFrom, hd]
    exact h
  | case3 links here name rest mode h₁ hd ih =>
    rw [walkFrom, hd]
    exact (if_pos h₁).trans (ih h)
  | case6 links here name rest mode _ h₁ h₂ h₃ h₄ hd ih =>
    rw [walkFrom, hd]
    simp only [if_neg h₁, if_neg h₂, if_pos h₄]
    exact ih h
  | case7 links here name rest mode _ h₁ h₂ h₃ h₄ h₅ hd ih =>
    rw [walkFrom, hd]
    simp only [if_neg h₁, if_neg h₂, if_neg h₄, if_pos h₅]
    exact ih h
  | case9 links here name rest mode _ h₁ h₂ h₃ h₄ h₅ h₆ he hlast hd =>
    rw [walkFrom, hd]
    simp only [if_neg h₁, if_neg h₂, if_neg h₄, if_neg h₅, if_neg h₆, he]
    exact (if_pos hlast).trans h
  | case13 here name rest mode _ h₁ h₂ h₃ h₄ h₅ h₆ target he h₇ links hd ih =>
    rw [walkFrom, hd]
    simp only [if_neg h₁, if_neg h₂, if_neg h₄, if_neg h₅, if_neg h₆, he]
    have hname : (rest.isEmpty && Aim.target == .name) = false := Bool.and_false _
    rw [hname]
    exact ih h
  | case14 links here name rest mode _ h₁ h₂ h₃ h₄ h₅ h₆ e hlink he hd ih =>
    rw [walkFrom, hd]
    simp only [if_neg h₁, if_neg h₂, if_neg h₄, if_neg h₅, if_neg h₆, he]
    cases e with
    | link target => exact absurd rfl (hlink target)
    | directory m | file id | special s => exact ih h
  -- a walk for a file never looks for a name
  | case11 links here name rest mode _ h₁ h₂ h₃ h₄ h₅ h₆ target he h₇ hd =>
    have hname : (rest.isEmpty && Aim.newFile == .name) = false := Bool.and_false _
    rw [hname] at h₇
    cases h₇
  | _ => cases h

/-! ## By path -/

/-- What is no separator stands in a piece. -/
theorem exists_piece {s : List Char} (h : ∃ c ∈ s, c ≠ '/') : ∃ q ∈ Text.splitOn '/' s, q ≠ [] := by
  induction s with
  | nil =>
    obtain ⟨c, hc, _⟩ := h
    exact nomatch hc
  | cons x r ih =>
    unfold Text.splitOn Text.splitWhere
    by_cases hx : x = '/'
    · rw [if_pos (beq_iff_eq.mpr hx)]
      obtain ⟨c, hc, hne⟩ := h
      have hr : c ∈ r := (List.mem_cons.mp hc).resolve_left fun hcx => hne (hcx.trans hx)
      obtain ⟨q, hq, hne'⟩ := ih ⟨c, hr, hne⟩
      exact ⟨q, List.mem_cons_of_mem _ hq, hne'⟩
    · rw [if_neg fun hp => hx (beq_iff_eq.mp hp)]
      rcases Text.splitWhere (· == '/') r with _ | ⟨piece, more⟩
      · exact ⟨[x], List.mem_cons_self, List.cons_ne_nil _ _⟩
      · exact ⟨x :: piece, List.mem_cons_self, List.cons_ne_nil _ _⟩

/-- A path has a name, or asks for a directory. -/
theorem pathNames_ne_nil {path : String} (h : path ≠ "") : pathNames path ≠ [] := by
  have hne : path.toList ≠ [] := fun hnil => h (String.toList_eq_nil_iff.mp hnil)
  unfold pathNames
  simp only
  split
  · exact List.append_ne_nil_of_right_ne_nil _ (List.cons_ne_nil _ _)
  · rename_i hlast
    have hend : path.toList.getLast hne ≠ '/' := by
      intro hc
      rw [List.getLast?_eq_some_getLast hne, hc] at hlast
      exact hlast rfl
    obtain ⟨q, hq, hqne⟩ := exists_piece ⟨_, List.getLast_mem hne, hend⟩
    have hmem : q ∈ (Text.splitOn '/' path.toList).filter fun p => !p.isEmpty := by
      refine List.mem_filter.mpr ⟨hq, ?_⟩
      rw [List.isEmpty_eq_false_iff.mpr hqne]
      rfl
    exact fun hnil => List.ne_nil_of_mem hmem (List.map_eq_nil_iff.mp hnil)

theorem walk_eq {d : Disk} {cwd : Location} {path : String} (aim : Aim) (hp : path ≠ "") :
    d.walk cwd path aim =
      if maxPath ≤ path.utf8ByteSize then .error .nameTooLong
      else d.walkFrom aim maxLinks (if startsAtRoot path then [] else cwd) (pathNames path) := by
  unfold walk
  rw [if_neg fun h => hp (beq_iff_eq.mp h)]

theorem ne_empty_of_walk {d : Disk} {cwd : Location} {path : String} {aim : Aim} {p : Place}
    (h : d.walk cwd path aim = .ok p) : path ≠ "" := by
  rintro rfl
  exact nomatch h

theorem walkFrom_of_walk {d : Disk} {cwd : Location} {path : String} {aim : Aim} {p : Place}
    (h : d.walk cwd path aim = .ok p) :
    path.utf8ByteSize < maxPath ∧
      d.walkFrom aim maxLinks (if startsAtRoot path then [] else cwd) (pathNames path) = .ok p := by
  rw [walk_eq aim (ne_empty_of_walk h)] at h
  by_cases hl : maxPath ≤ path.utf8ByteSize
  · rw [if_pos hl] at h
    exact nomatch h
  · rw [if_neg hl] at h
    exact ⟨Nat.not_le.mp hl, h⟩

theorem isFree_of_walk {d : Disk} {cwd : Location} {path : String} {aim : Aim} {dir : Location}
    {name : String} (h : d.walk cwd path aim = .ok (.free dir name)) : IsFree d dir name :=
  (travels_of_free (walkFrom_of_walk h).2).1

/-- What a path leads to stays, if it is there still. -/
theorem walk_found_keeps {d d' : Disk} (hk : KeepsWays d d') {cwd : Location} {path : String}
    {aim : Aim} {l : Location} {e : Entry} (h : d.walk cwd path aim = .ok (.found l e))
    (he : d'.entryAt? l = some e) : d'.walk cwd path aim = .ok (.found l e) := by
  obtain ⟨hl, hw⟩ := walkFrom_of_walk h
  rw [walk_eq aim (ne_empty_of_walk h), if_neg (Nat.not_le.mpr hl)]
  exact walkFrom_found_keeps hk hw he

section Place

variable {d d' : Disk} {cwd dir : Location} {path name : String} {aim : Aim}

/-- **A path to a place** leads there on every disk that keeps the ways. -/
theorem walk_place (hk : KeepsWays d d')
    (hlink : ∀ target, d'.entryAt? (dir ++ [name]) ≠ some (.link target))
    (hbelow : ∀ n e, d.entryAt? (dir ++ [name] ++ [n]) = some e →
      ∃ mode, d.entryAt? (dir ++ [name]) = some (.directory mode))
    (haim : aim = .newFile ∨ aim = .name ∧ EndsInName (pathNames path))
    (h : d.walk cwd path aim = .ok (d.placeAt dir name)) :
    d'.walk cwd path aim = .ok (d'.placeAt dir name) := by
  obtain ⟨hl, hw⟩ := walkFrom_of_walk h
  have hp := ne_empty_of_walk h
  rw [walk_eq aim hp, if_neg (Nat.not_le.mpr hl)]
  exact walkFrom_place hk hlink hbelow haim (fun hnil => absurd hnil (pathNames_ne_nil hp)) hw

end Place

/-- What a walk finds is there. -/
theorem entryAt?_of_walkFrom {d : Disk} {aim : Aim} {links : Nat} {here : Location}
    {names : List String} {l : Location} {e : Entry}
    (h : d.walkFrom aim links here names = .ok (.found l e)) : d.entryAt? l = some e := by
  fun_induction walkFrom d aim links here names with
  | case2 links here entry hd =>
    cases h
    exact hd
  | case11 links here name rest mode _ h₁ h₂ h₃ h₄ h₅ h₆ target ht h₇ hd =>
    cases h
    exact ht
  | case3 _ _ _ _ _ _ _ ih => exact ih h
  | case6 _ _ _ _ _ _ _ _ _ _ _ ih => exact ih h
  | case7 _ _ _ _ _ _ _ _ _ _ _ _ ih => exact ih h
  | case13 _ _ _ _ _ _ _ _ _ _ _ _ _ _ _ _ ih => exact ih h
  | case14 _ _ _ _ _ _ _ _ _ _ _ _ _ _ _ _ ih => exact ih h
  | _ => cases h

theorem entryAt?_of_walk {d : Disk} {cwd : Location} {path : String} {aim : Aim} {l : Location}
    {e : Entry} (h : d.walk cwd path aim = .ok (.found l e)) : d.entryAt? l = some e :=
  entryAt?_of_walkFrom (walkFrom_of_walk h).2

theorem stat_eq_ok {d : Disk} {cwd : Location} {path : String} {l : Location} {e : Entry} :
    d.stat cwd path = .ok (l, e) ↔ d.walk cwd path .target = .ok (.found l e) := by
  unfold stat
  rcases d.walk cwd path .target with r | ⟨l', e'⟩ | ⟨dir, name⟩
  · exact ⟨nofun, nofun⟩
  · constructor <;> intro h <;> cases h <;> rfl
  · exact ⟨nofun, nofun⟩

/-- What a path leads to, it leads to still. -/
theorem stat_keeps {d d' : Disk} (hk : KeepsWays d d') {cwd : Location} {path : String} {l : Location}
    {e : Entry} (h : d.stat cwd path = .ok (l, e)) (he : d'.entryAt? l = some e) :
    d'.stat cwd path = .ok (l, e) :=
  stat_eq_ok.mpr (walk_found_keeps hk (stat_eq_ok.mp h) he)

theorem stat_extends {d d' : Disk} (hx : Extends d d') {cwd : Location} {path : String} {l : Location}
    {e : Entry} (h : d.stat cwd path = .ok (l, e)) : d'.stat cwd path = .ok (l, e) :=
  stat_keeps hx.ways h (hx l e (entryAt?_of_walk (stat_eq_ok.mp h)))

section New

variable {d d' : Disk} {cwd : Location} {path : String} {dir : Location} {name : String} {mode : Nat}

/-- The path of a directory that was made leads to it. -/
theorem stat_into (h : d.walk cwd path .name = .ok (.free dir name)) (hk : KeepsWays d d')
    (hd : d'.entryAt? (dir ++ [name]) = some (.directory mode)) :
    d'.stat cwd path = .ok (dir ++ [name], .directory mode) := by
  obtain ⟨hl, hw⟩ := walkFrom_of_walk h
  obtain ⟨links', hin⟩ := walkFrom_into hk hw hd [] (.inl rfl : Aim.target = .target ∨ _)
  have hend : d'.walkFrom .target links' (dir ++ [name]) [] =
      .ok (.found (dir ++ [name]) (.directory mode)) := by
    rw [walkFrom, hd]
  rw [List.append_nil, hend] at hin
  unfold stat
  rw [walk_eq _ (ne_empty_of_walk h), if_neg (Nat.not_le.mpr hl), hin]

/-- One name more leads into it. -/
theorem walk_into (h : d.walk cwd path .name = .ok (.free dir name)) (hk : KeepsWays d d')
    (hd : d'.entryAt? (dir ++ [name]) = some (.directory mode)) {n path' : String} (hn : IsName n)
    (hnames : pathNames path' = pathNames path ++ [n])
    (hroot : startsAtRoot path' = startsAtRoot path) (aim : Aim) :
    ∃ links', d'.walk cwd path' aim =
      if maxPath ≤ path'.utf8ByteSize then .error .nameTooLong
      else d'.walkFrom aim links' (dir ++ [name]) [n] := by
  obtain ⟨_, hw⟩ := walkFrom_of_walk h
  obtain ⟨links', hin⟩ := walkFrom_into hk hw hd [n]
    (.inr ⟨n, List.mem_singleton.mpr rfl, hn.ne_empty⟩ : aim = .target ∨ _)
  have hp : path' ≠ "" := by
    rintro rfl
    have hnil : pathNames path ++ [n] = [] := hnames.symm
    exact absurd hnil (List.append_ne_nil_of_right_ne_nil _ (List.cons_ne_nil _ _))
  exact ⟨links', by rw [walk_eq aim hp, hroot, hnames, hin]⟩

end New

/-- **The path of a file that was made** leads to it. -/
theorem stat_newFile {d d' : Disk} {cwd : Location} {path : String} {dir : Location} {name : String}
    {id : Nat} (h : d.walk cwd path .newFile = .ok (.free dir name)) (hk : KeepsWays d d')
    (hf : d'.entryAt? (dir ++ [name]) = some (.file id)) :
    d'.stat cwd path = .ok (dir ++ [name], .file id) := by
  obtain ⟨hl, hw⟩ := walkFrom_of_walk h
  obtain ⟨⟨⟨mode, hd, hs⟩, hname, hshort, _⟩, links', rest, ht, _, hend⟩ := travels_of_free hw
  cases hend rfl
  have hgoes := walkFrom_travels (ht.keeps hk ⟨mode, hd⟩) [] (.inl rfl : Aim.target = .target ∨ _)
  rw [List.append_nil, List.append_nil, walkFrom_file (hk.directory hd) hs hname hf,
    if_neg (Nat.not_lt.mpr hshort)] at hgoes
  refine stat_eq_ok.mpr ?_
  rw [walk_eq _ (ne_empty_of_walk h), if_neg (Nat.not_le.mpr hl)]
  exact hgoes

/-- A walk for a file finds what the path leads to. -/
theorem stat_of_walk_newFile {d : Disk} {cwd : Location} {path : String} {l : Location} {e : Entry}
    (h : d.walk cwd path .newFile = .ok (.found l e)) : d.stat cwd path = .ok (l, e) := by
  obtain ⟨hl, hw⟩ := walkFrom_of_walk h
  refine stat_eq_ok.mpr ?_
  rw [walk_eq _ (ne_empty_of_walk h), if_neg (Nat.not_le.mpr hl)]
  exact walkFrom_newFile hw

end SecureStartup.Disk
