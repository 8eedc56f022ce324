import SecureStartup.Proofs.Disk.Arrival
import SecureStartup.Proofs.Disk.Files

/-!
  Removing the name of a file.

  Program: `copy_to_local` with `delete_source` removes the source after the copy (`Path.unlink`).

  1. A name is removed where the walk for the name ends: at the file itself, or at a link that leads to
     it (`standsFor_of_lstat`).

  2. Whoever passes that place arrives at the file.  So a path to another file does not pass it, and
     leads there still when the name is gone (`stat_drop`): a copy outlives its original, unless the two
     are one file.

  It does not matter whether the original is a file with bytes or a special one; both are LEAVES, where
  ways end.
-/

namespace SecureStartup.Disk

/-! ## Dropping an entry -/

/-- **Removing a name** drops what a walk for the name finds, which is no directory. -/
theorem unlink_ok {d d' : Disk} {cwd : Location} {path : String} (h : d.unlink cwd path = .ok d') :
    ∃ n e, d.lstat cwd path = .ok (n, e) ∧ (∀ mode, e ≠ .directory mode) ∧ d' = d.drop n := by
  unfold unlink at h
  rcases hl : d.lstat cwd path with r | ⟨n, e⟩ <;> rw [hl] at h
  · cases h
  refine ⟨n, e, rfl, ?_⟩
  by_cases hm : d.mayChange n.dropLast = true
  · simp only [bind, Except.bind, hm] at h
    cases e with
    | directory mode => cases h
    | file id | link target | special s => exact ⟨by simp, (Except.ok.inj h).symm⟩
  · simp only [bind, Except.bind, Bool.eq_false_iff.mpr hm] at h
    cases h

theorem lstat_eq_ok {d : Disk} {cwd : Location} {path : String} {l : Location} {e : Entry} :
    d.lstat cwd path = .ok (l, e) ↔ d.walk cwd path .name = .ok (.found l e) := by
  unfold lstat
  rcases d.walk cwd path .name with r | ⟨l', e'⟩ | ⟨dir, name⟩
  · exact ⟨nofun, nofun⟩
  · constructor <;> intro h <;> cases h <;> rfl
  · exact ⟨nofun, nofun⟩

/-! ## What stands for a file -/

/-- A file, or a special file: a way ends there. -/
def IsLeaf (e : Entry) : Prop := (∀ mode, e ≠ .directory mode) ∧ ∀ target, e ≠ .link target

/-- **A place that stands for a leaf**: this lies there, or a link that leads to it. -/
inductive StandsFor (d : Disk) (leaf : Entry) : Location → Prop where
  | itself {l : Location} : d.entryAt? l = some leaf → StandsFor d leaf l
  | link {dir l : Location} {name target : String} {j k : Nat} :
      d.entryAt? (dir ++ [name]) = some (.link target) →
      Travels d (j, if startsAtRoot target then [] else dir, pathNames target) (k, l, []) →
      d.entryAt? l = some leaf → StandsFor d leaf (dir ++ [name])

/-- A step at the last name, when it is that of a link, is to follow the link. -/
theorem Step.eq_follow {d : Disk} {dir : Location} {name target : String} {j : Nat} {q : Point}
    (hn : IsName name) (hlink : d.entryAt? (dir ++ [name]) = some (.link target))
    (h : Step d (j, dir, [name]) q) :
    q.2 = (if startsAtRoot target then [] else dir, pathNames target) := by
  cases h with
  | skip _ => exact absurd rfl hn.ne_empty
  | stay _ _ => exact absurd rfl hn.ne_dot
  | up _ _ => exact absurd rfl hn.ne_dots
  | down _ _ _ _ he ht => exact absurd (Option.some.inj (he.symm.trans hlink)) (ht target)
  | follow _ _ _ _ he =>
    cases Option.some.inj (he.symm.trans hlink)
    exact congrArg (Prod.mk _) (List.append_nil _)

/-- **The name of a path that leads to a leaf** stands for the leaf. -/
theorem standsFor_of_lstat {d : Disk} {cwd : Location} {path : String} {n l : Location}
    {e leaf : Entry} (hn : d.lstat cwd path = .ok (n, e))
    (hl : d.stat cwd path = .ok (l, leaf)) : StandsFor d leaf n := by
  obtain ⟨hfile, links, ht⟩ := travels_of_stat hl
  rw [← List.append_nil (pathNames path)] at ht
  cases arrives_of_found (walkFrom_of_walk (lstat_eq_ok.mp hn)).2 with
  | passed he hpassed =>
    obtain ⟨j, hend⟩ := hpassed.resume ht
    rcases hend.cases_head with heq | ⟨q, hstep, _⟩
    · cases heq
      exact .itself hfile
    · exact absurd rfl hstep.names_ne_nil
  | @before _ dir name target hname hlink hbefore =>
    -- what is left of the walk to the file begins by following the link
    obtain ⟨j, hrest⟩ := hbefore.resume ht
    rcases hrest.cases_head with heq | ⟨⟨j', here, names⟩, hstep, hgo⟩
    · exact nomatch congrArg (fun x : Point => x.2.2) heq
    · obtain ⟨rfl, rfl⟩ := Prod.mk.inj (Step.eq_follow hname hlink hstep)
      exact .link hlink hgo hfile

/-! ## Walks to other files -/

/-- What stands for a leaf is no directory. -/
theorem StandsFor.ne_directory {d : Disk} {leaf : Entry} (hleaf : IsLeaf leaf) {n l : Location}
    {mode : Nat} (h : StandsFor d leaf n) (hd : d.entryAt? l = some (.directory mode)) : l ≠ n := by
  rintro rfl
  cases h with
  | itself he => exact hleaf.1 mode (Option.some.inj (he.symm.trans hd))
  | link he _ _ => exact nomatch he.symm.trans hd

section Drop

variable {d : Disk} {leaf other : Entry} (hleaf : IsLeaf leaf) {n : Location}

include hleaf

/-- **A step on the way to something else** does not pass what stands for a leaf: who does arrives at
    the leaf. -/
theorem Step.drop (hn : StandsFor d leaf n) (hne : other ≠ leaf) {p q : Point} {k : Nat}
    {l : Location} (h : Step d p q) (hgo : Travels d q (k, l, []))
    (hl : d.entryAt? l = some other) : Step (d.drop n) p q := by
  have hdir : ∀ {m : Location} {mode : Nat}, d.entryAt? m = some (.directory mode) →
      (d.drop n).entryAt? m = some (.directory mode) := fun hm =>
    (entryAt?_drop_of_ne d (hn.ne_directory hleaf hm)).trans hm
  cases h with
  | skip hd => exact .skip (hdir hd)
  | stay hd hs => exact .stay (hdir hd) hs
  | up hd hs => exact .up (hdir hd) hs
  | @down links here name rest mode e hd hs hname hlen he ht =>
    have hother : here ++ [name] ≠ n := by
      intro heq
      -- what stands there is no link, so it is the leaf, and nothing lies behind it
      cases hn with
      | @itself _ hfile =>
        rw [← heq] at hfile
        have hloc : here ++ [name] = l := congrArg Prod.fst (hgo.at_file hfile hleaf.1)
        rw [← hloc, hfile] at hl
        exact hne (Option.some.inj hl).symm
      | link hlink _ _ =>
        rw [heq, hlink] at he
        exact ht _ (Option.some.inj he).symm
    exact .down (hdir hd) hs hname hlen ((entryAt?_drop_of_ne d hother).trans he) ht
  | @follow links here name rest mode target hd hs hname hlen he =>
    have hother : here ++ [name] ≠ n := by
      intro heq
      cases hn with
      | itself hfile =>
        rw [heq, hfile] at he
        exact hleaf.2 target (Option.some.inj he)
      | @link dir m name' target' j k' hlink hleads hfile =>
        -- the link leads to the leaf, whatever names come behind it
        obtain ⟨rfl, hnames⟩ := List.append_inj' heq rfl
        cases hnames
        cases Option.some.inj (he.symm.trans hlink)
        obtain ⟨j', hrest⟩ := hleads.resume hgo
        have hloc : m = l := congrArg Prod.fst (hrest.at_file hfile hleaf.1)
        rw [← hloc, hfile] at hl
        exact hne (Option.some.inj hl).symm
    exact .follow (hdir hd) hs hname hlen ((entryAt?_drop_of_ne d hother).trans he)

/-- By induction on the steps, from the last one. -/
theorem Travels.drop (hn : StandsFor d leaf n) (hne : other ≠ leaf) {p : Point} {k : Nat}
    {l : Location} (h : Travels d p (k, l, [])) (hl : d.entryAt? l = some other) :
    Travels (d.drop n) p (k, l, []) := by
  induction h using Relation.ReflTransGen.head_induction_on with
  | refl => exact .refl
  | head hstep hgo ih => exact ih.head (hstep.drop hleaf hn hne hgo hl)

/-- **A path to another file** leads there still when the name is gone. -/
theorem stat_drop (hn : StandsFor d leaf n) {id : Nat} (hne : .file id ≠ leaf) {cwd l : Location}
    {path : String} (h : d.stat cwd path = .ok (l, .file id)) :
    (d.drop n).stat cwd path = .ok (l, .file id) := by
  obtain ⟨hl, links, ht⟩ := travels_of_stat h
  have hw := walkFrom_of_walk (stat_eq_ok.mp h)
  have hother : l ≠ n := by
    rintro rfl
    cases hn with
    | itself hfile => exact hne (Option.some.inj (hl.symm.trans hfile))
    | link hlink _ _ => exact nomatch hl.symm.trans hlink
  have hgoes := walkFrom_travels (Travels.drop hleaf hn hne ht hl) []
    (.inl rfl : Aim.target = .target ∨ _)
  have hend : (d.drop n).walkFrom .target links l [] = .ok (.found l (.file id)) := by
    rw [walkFrom, entryAt?_drop_of_ne d hother, hl]
  rw [List.append_nil, List.append_nil] at hgoes
  refine stat_eq_ok.mpr ?_
  rw [walk_eq _ (ne_empty_of_walk (stat_eq_ok.mp h)), if_neg (Nat.not_le.mpr hw.1)]
  exact hgoes.trans hend

end Drop

end SecureStartup.Disk
