import SecureStartup.Proofs.Disk.Links
import SecureStartup.Proofs.Path.Parts

/-!
  The canonical location of a path, as a relation.

  1. **Program** — `Path.resolve`, which `LocalSharedFileSystem` calls on its base path and on the path of
     every keytab, before it asks whether the one lies below the other.

  2. **Specification** — `canonicalFrom` follows names with a record of the links being followed, so
     that it comes to an end on every disk.  What it computes needs no such record: `Follows` is the plain
     reading of "all links followed", name after name, and has at most one answer (`Follows.unique`).

  3. **The search is right** — it gives that answer (`canonical_of_canonicalFrom`), and it gives one for
     every path exactly when every path leads somewhere (`linksEnd_iff`): a link met again while it is
     being followed would take more steps than itself.  The number of steps in `Follows` is there for
     this argument.

  A canonical location is STRAIGHT: no link can be seen on the way to it.  So what is found under its
  own text is the entry that lies there (`walk_straight`).
-/

namespace SecureStartup

open SecureStartup.Text

/-- Where following a path text begins, seen from a location. -/
def pathStart (here : Location) (path : String) : Location :=
  if startsAtRoot path then [] else here

namespace Disk

/-! ## Following names -/

/-- **Following names, links and all**: from a location, in so many steps, to a location.  A name
    that no link can be seen under is kept, whether or not anything is there. -/
inductive Follows (d : Disk) : Nat → Location → List String → Location → Prop where
  | done (here : Location) : Follows d 0 here [] here
  | stay {n : Nat} {here there : Location} {name : String} {rest : List String} :
      name = "" ∨ name = "." → Follows d n here rest there →
      Follows d (n + 1) here (name :: rest) there
  | up {n : Nat} {here there : Location} {rest : List String} :
      Follows d n here.dropLast rest there → Follows d (n + 1) here (".." :: rest) there
  | down {n : Nat} {here there : Location} {name : String} {rest : List String} :
      IsName name → d.visibleLink? here name = none → Follows d n (here ++ [name]) rest there →
      Follows d (n + 1) here (name :: rest) there
  | link {m n : Nat} {here mid there : Location} {name target : String} {rest : List String} :
      IsName name → d.visibleLink? here name = some target →
      Follows d m (pathStart here target) (pathPieces target) mid → Follows d n mid rest there →
      Follows d (m + n + 1) here (name :: rest) there

/-- **The canonical location** that names lead to from a location. -/
def Canonical (d : Disk) (here : Location) (names : List String) (there : Location) : Prop :=
  ∃ n, d.Follows n here names there

theorem not_skipped {name : String} (h : IsName name) : ¬(name = "" ∨ name = ".") :=
  fun hs => hs.elim h.ne_empty h.ne_dot

theorem dots_not_skipped : ¬((".." : String) = "" ∨ (".." : String) = ".") := by decide

/-- **There is one answer**, in one number of steps.  By induction on the one way; the kind of name,
    and what can be seen under it, say how the other goes on. -/
theorem Follows.unique {d : Disk} {n n' : Nat} {here there there' : Location} {names : List String}
    (a : d.Follows n here names there) (b : d.Follows n' here names there') :
    n = n' ∧ there = there' := by
  -- The name decides the kind of step, and what can be seen under it decides between the last two.
  induction a generalizing n' there' with
  | done here =>
    cases b
    exact ⟨rfl, rfl⟩
  | stay hs _ ih =>
    cases b with
    | stay _ b =>
      obtain ⟨rfl, rfl⟩ := ih b
      exact ⟨rfl, rfl⟩
    | up _ => exact absurd hs dots_not_skipped
    | down hn _ _ => exact absurd hs (not_skipped hn)
    | link hn _ _ _ => exact absurd hs (not_skipped hn)
  | up _ ih =>
    cases b with
    | stay hs _ => exact absurd hs dots_not_skipped
    | up b =>
      obtain ⟨rfl, rfl⟩ := ih b
      exact ⟨rfl, rfl⟩
    | down hn _ _ => exact absurd rfl hn.ne_dots
    | link hn _ _ _ => exact absurd rfl hn.ne_dots
  | down hn hv _ ih =>
    cases b with
    | stay hs _ => exact absurd hs (not_skipped hn)
    | up _ => exact absurd rfl hn.ne_dots
    | down _ _ b =>
      obtain ⟨rfl, rfl⟩ := ih b
      exact ⟨rfl, rfl⟩
    | link _ hv' _ _ => exact nomatch hv.symm.trans hv'
  | link hn hv _ _ ihtarget ihrest =>
    cases b with
    | stay hs _ => exact absurd hs (not_skipped hn)
    | up _ => exact absurd rfl hn.ne_dots
    | down _ hv' _ => exact nomatch hv.symm.trans hv'
    | link _ hv' btarget brest =>
      cases hv.symm.trans hv'
      obtain ⟨rfl, rfl⟩ := ihtarget btarget
      obtain ⟨rfl, rfl⟩ := ihrest brest
      exact ⟨rfl, rfl⟩

theorem Canonical.unique {d : Disk} {here there there' : Location} {names : List String}
    (a : d.Canonical here names there) (b : d.Canonical here names there') : there = there' := by
  obtain ⟨_, a⟩ := a
  obtain ⟨_, b⟩ := b
  exact (a.unique b).2

section Cons

variable {d : Disk} {here there : Location} {name : String} {rest : List String}

theorem canonical_nil : d.Canonical here [] there ↔ there = here := by
  constructor
  · rintro ⟨_, h⟩
    cases h
    rfl
  · rintro rfl
    exact ⟨0, .done _⟩

theorem canonical_stay (hs : name = "" ∨ name = ".") :
    d.Canonical here (name :: rest) there ↔ d.Canonical here rest there := by
  constructor
  · rintro ⟨_, h⟩
    cases h with
    | stay _ h => exact ⟨_, h⟩
    | up _ => exact absurd hs dots_not_skipped
    | down hn _ _ => exact absurd hs (not_skipped hn)
    | link hn _ _ _ => exact absurd hs (not_skipped hn)
  · rintro ⟨n, h⟩
    exact ⟨n + 1, .stay hs h⟩

theorem canonical_up : d.Canonical here (".." :: rest) there ↔ d.Canonical here.dropLast rest there := by
  constructor
  · rintro ⟨_, h⟩
    cases h with
    | stay hs _ => exact absurd hs dots_not_skipped
    | up h => exact ⟨_, h⟩
    | down hn _ _ => exact absurd rfl hn.ne_dots
    | link hn _ _ _ => exact absurd rfl hn.ne_dots
  · rintro ⟨n, h⟩
    exact ⟨n + 1, .up h⟩

theorem canonical_down (hn : IsName name) (hv : d.visibleLink? here name = none) :
    d.Canonical here (name :: rest) there ↔ d.Canonical (here ++ [name]) rest there := by
  constructor
  · rintro ⟨_, h⟩
    cases h with
    | stay hs _ => exact absurd hs (not_skipped hn)
    | up _ => exact absurd rfl hn.ne_dots
    | down _ _ h => exact ⟨_, h⟩
    | link _ hv' _ _ => exact nomatch hv.symm.trans hv'
  · rintro ⟨n, h⟩
    exact ⟨n + 1, .down hn hv h⟩

theorem canonical_link {target : String} (hn : IsName name)
    (hv : d.visibleLink? here name = some target) :
    d.Canonical here (name :: rest) there ↔
      ∃ mid, d.Canonical (pathStart here target) (pathPieces target) mid ∧
        d.Canonical mid rest there := by
  constructor
  · rintro ⟨_, h⟩
    cases h with
    | stay hs _ => exact absurd hs (not_skipped hn)
    | up _ => exact absurd rfl hn.ne_dots
    | down _ hv' _ => exact nomatch hv.symm.trans hv'
    | link _ hv' htarget hrest =>
      cases hv.symm.trans hv'
      exact ⟨_, ⟨_, htarget⟩, ⟨_, hrest⟩⟩
  · rintro ⟨mid, ⟨m, hm⟩, ⟨n, hr⟩⟩
    exact ⟨m + n + 1, .link hn hv hm hr⟩

end Cons

/-- A name asks to stay, to go up, or for an entry. -/
theorem name_cases (name : String) : (name = "" ∨ name = ".") ∨ name = ".." ∨ IsName name := by
  by_cases h₁ : name = ""
  · exact .inl (.inl h₁)
  · by_cases h₂ : name = "."
    · exact .inl (.inr h₂)
    · by_cases h₃ : name = ".."
      · exact .inr (.inl h₃)
      · exact .inr (.inr ⟨h₁, h₂, h₃⟩)

/-- **Every path leads somewhere if every link does.** -/
theorem canonical_total {d : Disk}
    (h : ∀ dir name target, d.visibleLink? dir name = some target →
      ∃ there, d.Canonical (pathStart dir target) (pathPieces target) there)
    (here : Location) (names : List String) : ∃ there, d.Canonical here names there := by
  induction names generalizing here with
  | nil => exact ⟨here, canonical_nil.mpr rfl⟩
  | cons name rest ih =>
    rcases name_cases name with hs | rfl | hn
    · obtain ⟨there, hr⟩ := ih here
      exact ⟨there, (canonical_stay hs).mpr hr⟩
    · obtain ⟨there, hr⟩ := ih here.dropLast
      exact ⟨there, canonical_up.mpr hr⟩
    · rcases hv : d.visibleLink? here name with _ | target
      · obtain ⟨there, hr⟩ := ih (here ++ [name])
        exact ⟨there, (canonical_down hn hv).mpr hr⟩
      · obtain ⟨mid, hm⟩ := h here name target hv
        obtain ⟨there, hr⟩ := ih mid
        exact ⟨there, (canonical_link hn hv).mpr ⟨mid, hm, hr⟩⟩

/-! ## The search -/

theorem skip_iff {name : String} : (name == "" || name == ".") = true ↔ name = "" ∨ name = "." := by
  rw [Bool.or_eq_true, beq_iff_eq, beq_iff_eq]

theorem isName_of_not {name : String} (hskip : ¬(name == "" || name == ".") = true)
    (hup : ¬(name == "..") = true) : IsName name := by
  refine ⟨fun h => hskip (skip_iff.mpr (.inl h)), fun h => hskip (skip_iff.mpr (.inr h)), ?_⟩
  exact fun h => hup (beq_iff_eq.mpr h)

/-- Where the search begins to follow a link. -/
theorem start_eq {here start : Location} {target : String} {rooted rooted' : Bool}
    (h : (if startsAtRoot target then (true, []) else (rooted, here)) =
      ((rooted', start) : Spelled)) : start = pathStart here target := by
  unfold pathStart
  by_cases ht : startsAtRoot target = true
  · rw [if_pos ht] at h ⊢
    cases h
    rfl
  · rw [if_neg ht] at h ⊢
    cases h
    rfl

/-- **What the search finds** is the canonical location. -/
theorem canonical_of_canonicalFrom {d : Disk} (active : List Spelled) (rooted : Bool)
    (here : Location) (pieces : List String) :
    ∀ rooted' there, d.canonicalFrom active rooted here pieces = .ok (rooted', there) →
      d.Canonical here pieces there := by
  fun_induction canonicalFrom d active rooted here pieces with
  | case1 active rooted here =>
    intro _ _ h
    cases h
    exact canonical_nil.mpr rfl
  | case2 active rooted here name rest hskip ih =>
    intro _ _ h
    exact (canonical_stay (skip_iff.mp hskip)).mpr (ih _ _ h)
  | case3 active rooted here name rest hskip hup ih =>
    intro _ _ h
    cases eq_of_beq hup
    exact canonical_up.mpr (ih _ _ h)
  | case4 active rooted here name rest hskip hup hv ih =>
    intro _ _ h
    exact (canonical_down (isName_of_not hskip hup) hv).mpr (ih _ _ h)
  | case5 =>
    intro _ _ h
    cases h
  | case6 active rooted here name rest hskip hup target hv link ha rooted₁ start hstart rooted₂ mid
      hmid ihtarget ihrest =>
    intro _ _ h
    -- the names of the link, from where they count, and then the rest from there
    have hs : start = pathStart here target := start_eq ((dite_eq_ite ..).symm.trans hstart)
    rw [hs] at ihtarget hmid
    exact (canonical_link (isName_of_not hskip hup) hv).mpr ⟨mid, ihtarget _ _ hmid, ihrest _ _ h⟩
  | case7 =>
    intro _ _ h
    cases h

/-- A link that is being followed is one that takes at least as many steps as are left. -/
def Outlasts (d : Disk) (n : Nat) (l : Location) : Prop :=
  ∀ dir name target, l = dir ++ [name] → d.visibleLink? dir name = some target →
    ∃ k mid, n ≤ k ∧ d.Follows k (pathStart dir target) (pathPieces target) mid

theorem Outlasts.mono {d : Disk} {m n : Nat} {l : Location} (a : d.Outlasts n l) (h : m ≤ n) :
    d.Outlasts m l := by
  intro dir name target hl hv
  obtain ⟨k, mid, hk, hf⟩ := a dir name target hl hv
  exact ⟨k, mid, Nat.le_trans h hk, hf⟩

/-- **The search finds what there is to find.**  By induction on the way there.  A link that is met
    while it is being followed would have to take fewer steps than are left, and it takes as many. -/
theorem Follows.canonicalFrom {d : Disk} {n : Nat} {here there : Location} {names : List String}
    (a : d.Follows n here names there) :
    ∀ (active : List Spelled) (rooted : Bool), (∀ x ∈ active, d.Outlasts n x.2) →
      ∃ rooted', d.canonicalFrom active rooted here names = .ok (rooted', there) := by
  induction a with
  | done here => exact fun _ rooted _ => ⟨rooted, Disk.canonicalFrom.eq_1 ..⟩
  | stay hs _ ih =>
    intro active rooted ha
    rw [Disk.canonicalFrom, if_pos (skip_iff.mpr hs)]
    exact ih active rooted fun x hx => (ha x hx).mono (Nat.le_succ _)
  | up _ ih =>
    intro active rooted ha
    rw [Disk.canonicalFrom, if_neg (by decide), if_pos (beq_self_eq_true _)]
    exact ih active rooted fun x hx => (ha x hx).mono (Nat.le_succ _)
  | down hn hv _ ih =>
    intro active rooted ha
    rw [canonicalFrom_plain (fun h => not_skipped hn (skip_iff.mp h))
      (fun h => hn.ne_dots (beq_iff_eq.mp h)) hv]
    exact ih active rooted fun x hx => (ha x hx).mono (Nat.le_succ _)
  | @link m n here mid there name target rest hn hv htarget _ ihtarget ihrest =>
    intro active rooted ha
    have hskip : ¬(name == "" || name == ".") = true := fun h => not_skipped hn (skip_iff.mp h)
    have hup : ¬(name == "..") = true := fun h => hn.ne_dots (beq_iff_eq.mp h)
    -- It cannot be among those being followed: it would take at least as many steps as are left.
    have hnew : ¬active.contains (rooted, here ++ [name]) = true := by
      intro hc
      obtain ⟨k, mid', hk, hf⟩ := ha _ (List.contains_iff_mem.mp hc) here name target rfl hv
      obtain ⟨rfl, _⟩ := htarget.unique hf
      omega
    -- Following it takes some of the steps, and so it joins the ones being followed.
    have hactive : ∀ x ∈ (rooted, here ++ [name]) :: active, d.Outlasts m x.2 := by
      intro x hx
      rcases List.mem_cons.mp hx with rfl | hx
      · intro dir name' target' hl hv'
        obtain ⟨rfl, hname⟩ := List.append_inj' hl rfl
        cases hname
        cases hv.symm.trans hv'
        exact ⟨m, mid, Nat.le_refl m, htarget⟩
      · exact (ha x hx).mono (by omega)
    obtain ⟨rooted', start, hstart⟩ : ∃ rooted' start,
        (if startsAtRoot target then (true, []) else (rooted, here)) = ((rooted', start) : Spelled) :=
      ⟨_, _, rfl⟩
    obtain ⟨rooted₁, h₁⟩ := ihtarget _ rooted' hactive
    rw [canonicalFrom_follow hskip hup hv hnew rest hstart, start_eq hstart, h₁]
    exact ihrest active rooted₁ fun x hx => (ha x hx).mono (by omega)

/-- **Links end when every path leads somewhere**, and only then. -/
theorem linksEnd_iff {d : Disk} :
    d.LinksEnd ↔ ∀ here names, ∃ there, d.Canonical here names there := by
  constructor
  · intro h here names
    obtain ⟨⟨rooted, there⟩, ht⟩ := h true here names
    exact ⟨there, canonical_of_canonicalFrom _ _ _ _ _ _ ht⟩
  · intro h rooted here names
    obtain ⟨there, n, hf⟩ := h here names
    obtain ⟨rooted', ht⟩ := hf.canonicalFrom [] rooted fun _ hx => absurd hx List.not_mem_nil
    exact ⟨_, ht⟩

end Disk

end SecureStartup
