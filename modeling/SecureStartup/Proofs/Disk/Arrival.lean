import SecureStartup.Proofs.Disk.Walk

/-!
  Where walks arrive.

  The other modules say what a walk finds on another disk.  Here two walks on one disk are compared: the
  walk to a file that is to be kept, and the walk for a name that is to be removed.

  1. A walk that finds something has passed all its names, step by step; only a walk for a name may
     stop in front of a link, which is then the last name (`arrives_of_found`).

  2. The way is given by the names: of two walks along the same ones, whatever links they may still
     follow, the one that arrives comes by where the other one is (`Travels.resume`).  Nothing lies
     behind a file, so who passes a file has arrived there (`Travels.at_file`).

  3. Hence one name more behind the path of a directory is looked up in this directory, and nowhere
     else (`walk_below`).
-/

namespace SecureStartup.Disk

/-- **Arriving at an entry**: all names are passed, or the walk is for a name, and the last name is that
    of a link. -/
inductive Arrives (d : Disk) (p : Point) : Aim → Location → Entry → Prop where
  | passed {aim : Aim} {links : Nat} {l : Location} {e : Entry} :
      d.entryAt? l = some e → Travels d p (links, l, []) → Arrives d p aim l e
  | before {links : Nat} {dir : Location} {name target : String} :
      IsName name → d.entryAt? (dir ++ [name]) = some (.link target) →
      Travels d p (links, dir, [name]) → Arrives d p .name (dir ++ [name]) (.link target)

/-- One step more at the beginning. -/
theorem Arrives.head {d : Disk} {p q : Point} {aim : Aim} {l : Location} {e : Entry}
    (h : Arrives d q aim l e) (hstep : Step d p q) : Arrives d p aim l e := by
  cases h with
  | passed he ht => exact .passed he (ht.head hstep)
  | before hn he ht => exact .before hn he (ht.head hstep)

/-- **A walk that finds an entry** arrives there. -/
theorem arrives_of_found {d : Disk} {aim : Aim} {links : Nat} {here : Location}
    {names : List String} {l : Location} {e : Entry}
    (h : d.walkFrom aim links here names = .ok (.found l e)) :
    Arrives d (links, here, names) aim l e := by
  fun_induction walkFrom d aim links here names with
  | case2 links here entry hd =>
    cases h
    exact .passed hd .refl
  | case3 links here name rest mode h₁ hd ih =>
    cases eq_of_beq h₁
    exact (ih h).head (.skip hd)
  | case6 links here name rest mode _ h₁ h₂ h₃ h₄ hd ih =>
    cases eq_of_beq h₄
    exact (ih h).head (.stay hd (by simpa using h₂))
  | case7 links here name rest mode _ h₁ h₂ h₃ h₄ h₅ hd ih =>
    cases eq_of_beq h₅
    exact (ih h).head (.up hd (by simpa using h₂))
  | case11 links here name rest mode _ h₁ h₂ h₃ h₄ h₅ h₆ target he h₇ hd =>
    -- the last name is that of a link, and it is not followed
    cases h
    obtain ⟨hrest, hname⟩ := Bool.and_eq_true_iff.mp h₇
    cases List.isEmpty_iff.mp hrest
    cases eq_of_beq hname
    exact .before (isName_of_beq h₁ h₄ h₅) he .refl
  | case13 here name rest mode _ h₁ h₂ h₃ h₄ h₅ h₆ target he h₇ links hd ih =>
    have hs : maySearch mode = true := by simpa using h₂
    exact (ih h).head (.follow hd hs (isName_of_beq h₁ h₄ h₅) (Nat.not_lt.mp h₆) he)
  | case14 links here name rest mode _ h₁ h₂ h₃ h₄ h₅ h₆ e hlink he hd ih =>
    have hs : maySearch mode = true := by simpa using h₂
    exact (ih h).head
      (.down hd hs (isName_of_beq h₁ h₄ h₅) (Nat.not_lt.mp h₆) he fun t ht => hlink t ht)
  | _ => cases h

/-- What a path leads to is behind all its names. -/
theorem travels_of_stat {d : Disk} {cwd : Location} {path : String} {l : Location} {e : Entry}
    (h : d.stat cwd path = .ok (l, e)) :
    d.entryAt? l = some e ∧ ∃ links,
      Travels d (maxLinks, if startsAtRoot path then [] else cwd, pathNames path) (links, l, []) := by
  cases arrives_of_found (walkFrom_of_walk (stat_eq_ok.mp h)).2 with
  | passed he ht => exact ⟨he, _, ht⟩

/-! ## One way for the same names -/

/-- **The next step is given by the names**, whatever comes behind them and however many links may
    still be followed. -/
theorem Step.alike {d : Disk} {p q p' q' : Point} {tail : List String} (h : Step d p q)
    (hp : p'.2 = (p.2.1, p.2.2 ++ tail)) (h' : Step d p' q') : q'.2 = (q.2.1, q.2.2 ++ tail) := by
  have hnames := congrArg Prod.snd hp
  -- A name decides its step: what is empty, `.` or `..` is no name of an entry, and what stands under a
  -- name is a link or is none.
  cases h with
  | skip _ =>
    cases h' with
    | skip _ => cases hp; rfl
    | stay _ _ | up _ _ => exact absurd (List.cons.inj hnames).1 (by decide)
    | down _ _ hn _ _ _ | follow _ _ hn _ _ => exact absurd (List.cons.inj hnames).1 hn.ne_empty
  | stay _ _ =>
    cases h' with
    | stay _ _ => cases hp; rfl
    | skip _ | up _ _ => exact absurd (List.cons.inj hnames).1 (by decide)
    | down _ _ hn _ _ _ | follow _ _ hn _ _ => exact absurd (List.cons.inj hnames).1 hn.ne_dot
  | up _ _ =>
    cases h' with
    | up _ _ => cases hp; rfl
    | skip _ | stay _ _ => exact absurd (List.cons.inj hnames).1 (by decide)
    | down _ _ hn _ _ _ | follow _ _ hn _ _ => exact absurd (List.cons.inj hnames).1 hn.ne_dots
  | down _ _ hn _ he ht =>
    cases h' with
    | skip _ => exact absurd (List.cons.inj hnames).1.symm hn.ne_empty
    | stay _ _ => exact absurd (List.cons.inj hnames).1.symm hn.ne_dot
    | up _ _ => exact absurd (List.cons.inj hnames).1.symm hn.ne_dots
    | down _ _ _ _ _ _ => cases hp; rfl
    | follow _ _ _ _ he' =>
      cases hp
      exact absurd (Option.some.inj (he.symm.trans he')) (ht _)
  | follow _ _ hn _ he =>
    cases h' with
    | skip _ => exact absurd (List.cons.inj hnames).1.symm hn.ne_empty
    | stay _ _ => exact absurd (List.cons.inj hnames).1.symm hn.ne_dot
    | up _ _ => exact absurd (List.cons.inj hnames).1.symm hn.ne_dots
    | down _ _ _ _ he' ht' =>
      cases hp
      exact absurd (Option.some.inj (he'.symm.trans he)) (ht' _)
    | follow _ _ _ _ he' =>
      cases hp
      cases Option.some.inj (he.symm.trans he')
      exact congrArg (Prod.mk _) (List.append_assoc ..).symm

namespace Travels

variable {d : Disk} {p q : Point} {m : Location} {k : Nat}

/-- **Who arrives comes by.**  By induction on the steps of the walk that is passed. -/
theorem resume (h : Travels d p q) {tail : List String} :
    ∀ {j : Nat}, Travels d (j, p.2.1, p.2.2 ++ tail) (k, m, []) →
      ∃ j', Travels d (j', q.2.1, q.2.2 ++ tail) (k, m, []) := by
  induction h using Relation.ReflTransGen.head_induction_on with
  | refl => exact fun {j} h' => ⟨j, h'⟩
  | head hstep _ ih =>
    -- the other walk has names left, so it takes a step as well, and the same one
    intro j h'
    rcases h'.cases_head with hend | ⟨r, hr, hrest⟩
    · have hnil := congrArg (fun x : Point => x.2.2) hend
      exact absurd (List.append_eq_nil_iff.mp hnil).1 hstep.names_ne_nil
    · obtain ⟨j', here, names⟩ := r
      obtain ⟨rfl, rfl⟩ := Prod.mk.inj (hstep.alike rfl hr)
      exact ih hrest

/-- **Nothing lies behind a file.** -/
theorem at_file (h : Travels d p (k, m, [])) {e : Entry} (he : d.entryAt? p.2.1 = some e)
    (hfile : ∀ mode, e ≠ .directory mode) : p.2 = (m, []) := by
  rcases h.cases_head with hend | ⟨q, hq, _⟩
  · exact congrArg Prod.snd hend
  · obtain ⟨mode, hd⟩ := hq.directory
    exact absurd (Option.some.inj (he.symm.trans hd)) (hfile mode)

end Travels

/-! ## Below a directory -/

/-- **One name more** behind the path of a directory is looked up in this directory. -/
theorem walk_below {d : Disk} {cwd : Location} {path path' n : String} {l : Location} {mode : Nat}
    (h : d.stat cwd path = .ok (l, .directory mode)) (hn : n ≠ "")
    (hnames : pathNames path' = pathNames path ++ [n])
    (hroot : startsAtRoot path' = startsAtRoot path) (aim : Aim) :
    ∃ links, d.walk cwd path' aim =
      if maxPath ≤ path'.utf8ByteSize then .error .nameTooLong
      else d.walkFrom aim links l [n] := by
  obtain ⟨_, links, ht⟩ := travels_of_stat h
  have hgoes := walkFrom_travels ht [n]
    (.inr ⟨n, List.mem_singleton.mpr rfl, hn⟩ : aim = .target ∨ _)
  have hp : path' ≠ "" := by
    rintro rfl
    have hnil : pathNames path ++ [n] = [] := hnames.symm
    exact absurd hnil (List.append_ne_nil_of_right_ne_nil _ (List.cons_ne_nil _ _))
  refine ⟨links, ?_⟩
  rw [walk_eq aim hp, hroot, hnames]
  exact congrArg _ hgoes

end SecureStartup.Disk
