import SecureStartup.Proofs.Keytab.Private
import SecureStartup.Proofs.Startup.Ending
import SecureStartup.Proofs.Store.Refusals

/-!
  How a staging ends start-up.

  1. **Program** — the part of `resolve_security` that calls `get_keytab_file`, and so `fetch`, when there
     is a shared keytab.

  2. **Specification** — the first request of a staging that fails decides the exit code, by what was
     requested and by the family of the failure: a directory that cannot be made or closed is an issue of
     staging, and a copy that fails is the store's matter.

  3. **The proof** — `Early` is the invariant: up to the copy a staging has not changed where links lead,
     and the faults that are to come are the system's.  `ask_ends` gives the code of one failed request,
     `Early.ask` keeps the invariant, and `course_ends` follows the requests.
-/

namespace SecureStartup.Startup

open SecureStartup.Disk SecureStartup.KeytabStager

/-- The ending that an answer leads to, if it is a failure: 73 for a directory or a mode that the
    system refuses, 74 for a copy, 78 for a value that is wrong; the name of a cluster that is no text
    is not reported. -/
def replyEnding? (cluster : Value) (q : Reply) : Option Ending :=
  match q.answer with
  | .ok _ => none
  | .error f =>
    match q.request with
    | .copy _ _ _ => some (.exits (if f.isSystem then 74 else 78))
    | .build _ _ =>
      match cluster with
      | .str _ => some (.exits 78)
      | _ => some .escapes
    | _ => some (.exits (if f.isSystem then 73 else 78))

/-- The first request that fails decides. -/
def repliesEnding? (cluster : Value) (replies : List Reply) : Option Ending :=
  replies.findSome? (replyEnding? cluster)

/-- Faults to come that are all the system's. -/
def AllSystem (faults : List (Option Fault)) : Prop :=
  ∀ fault, some fault ∈ faults → fault.failure.isSystem = true

theorem AllSystem.drop {faults : List (Option Fault)} (a : AllSystem faults) :
    AllSystem (takeFault faults).2 := fun fault hf => a fault (List.mem_of_mem_drop hf)

theorem AllSystem.take {faults : List (Option Fault)} (a : AllSystem faults) {f : Failure}
    (hf : (takeFault faults).1 = some f) : f.isSystem = true := by
  obtain ⟨fault, hjoin, rfl⟩ := Option.map_eq_some_iff.mp hf
  have hhead : faults.head? = some (some fault) := Option.join_eq_some_iff.mp hjoin
  exact a fault (List.mem_of_mem_head? hhead)

/-! ## Making a directory and setting a mode -/

section Requests

variable {h : Host} {path : String}

theorem failsOnly_makeDir (hm : AllSystem h.makeDirFaults) :
    Act.FailsOnly Failure.Plain (makeDir path) h := by
  intro f hf
  rw [makeDir_on] at hf
  rcases ht : (takeFault h.makeDirFaults).1 with _ | g <;> rw [ht] at hf
  · exact Act.failsOnly_changeDisk path _ f hf
  · cases hf
    exact .inl (hm.take ht)

theorem failsOnly_setMode (hm : AllSystem h.setModeFaults) (mode : Nat) :
    Act.FailsOnly Failure.Plain (setMode path mode) h := by
  intro f hf
  rw [setMode_on] at hf
  rcases ht : (takeFault h.setModeFaults).1 with _ | g <;> rw [ht] at hf
  · exact Act.failsOnly_changeDisk path _ f hf
  · cases hf
    exact .inl (hm.take ht)

/-- Operations on the disk have no faults of their own. -/
theorem changeDisk_setModeFaults (op : Disk → Location → Except Refusal Disk) :
    ((Act.changeDisk path op).on h).2.setModeFaults = h.setModeFaults := by
  rw [Act.on_changeDisk]
  split
  · rfl
  · split <;> rfl

theorem makeDir_setModeFaults : ((makeDir path).on h).2.setModeFaults = h.setModeFaults := by
  rw [makeDir_on]
  split
  · rfl
  · exact changeDisk_setModeFaults _

theorem setMode_setModeFaults (mode : Nat) :
    ((setMode path mode).on h).2.setModeFaults = (takeFault h.setModeFaults).2 := by
  rw [setMode_on]
  split
  · rfl
  · exact changeDisk_setModeFaults _

end Requests

/-! ## One request -/

/-- A failure of a staging step: staging, or a bad configuration. -/
theorem of_asIssue {α : Type} (words : Failure → String) {issue : (reason : String) → SetupIssue}
    {f : Failure} (hf : f.Plain) (ht : f.isTold = true)
    (hk : ∀ reason, (issue reason).kind = .staging) :
    Ending.of (.error (asIssue words issue f) : Except Failure α) =
      .exits (if f.isSystem then 73 else 78) := by
  by_cases hs : f.isSystem = true
  · obtain ⟨reason, hissue⟩ := asIssue_system words issue hs ht
    rw [hissue, if_pos hs, Ending.of_setup, hk]
    rfl
  · unfold asIssue
    rw [if_neg hs, if_neg hs, Ending.of_invalid (hf.resolve_left hs)]

/-- **What is known until the copy**, seen from the host before. -/
def Early (logs : Set Location) (h₀ : Host) (st : Stage) (h : Host) : Prop :=
  AllSystem h.setModeFaults ∧
    match st with
    | .planned _ => Idle h₀ h ∧ h₀.LogsTo logs ∧ AllSystem h.makeDirFaults
    | .made dir | .closed dir | .located dir _ => ∃ l mode, Works logs h₀ dir.text l mode none h
    | .copied _ _ | .staged _ _ => True

section Errands

variable {e : Errand} {logs : Set Location} {h₀ h : Host} {st : Stage}

/-- **The ending of a failed request.** -/
theorem ask_ends (hp : e.store.Plain e.cluster) (hs : h₀.disk.Sound) (hl : h₀.disk.LinksEnd)
    (a : Early logs h₀ st h) {r : Event} (hr : e.request st = some r) {f : Failure} {h' : Host}
    (hx : (e.ask st).on h = (.error f, h')) :
    replyEnding? e.cluster ⟨r, h, .error f, h'⟩ =
      some (Ending.of (.error (e.report h'.words st f) : Except Failure String)) := by
  obtain ⟨hmode, hstage⟩ := a
  cases st with
  | planned dir =>
    cases hr
    have hmake : (makeDir dir.text).on h = (.error f, h') := Act.on_bind_pure_eq_error hx
    have hf : f.Plain := failsOnly_makeDir hstage.2.2 f (congrArg Prod.fst hmake)
    exact congrArg some (of_asIssue h'.words hf (makeDir_told hmake) fun _ => rfl).symm
  | made dir =>
    cases hr
    have hset : (setMode dir.text stagingDirMode).on h = (.error f, h') :=
      Act.on_bind_pure_eq_error hx
    have hf : f.Plain := failsOnly_setMode hmode _ f (congrArg Prod.fst hset)
    exact congrArg some (of_asIssue h'.words hf (setMode_told hset) fun _ => rfl).symm
  | closed dir =>
    cases hr
    obtain ⟨answer, hb, hname⟩ := hp.build e.keytab h
    have hbuild := congrArg Prod.fst (Act.on_bind_pure_eq_error hx)
    have hf := hname f ((congrArg Prod.fst hb).symm.trans hbuild)
    unfold IsNameFailure at hf
    unfold replyEnding?
    cases hc : e.cluster with
    | str s =>
      rw [hc] at hf
      obtain ⟨why, rfl⟩ := hf
      rfl
    | _ =>
      rw [hc] at hf
      obtain ⟨why, rfl⟩ := hf
      rfl
  | located dir remote =>
    cases hr
    obtain ⟨l, mode, hw⟩ := hstage
    -- The new directory and the log files have moved no link, so links end when the store is asked.
    have hlinks : h.disk.LinksEnd := hl.congr (hw.holding.visibleLink? hs hw.start.places)
    have hcopy := congrArg Prod.fst (Act.on_bind_pure_eq_error hx)
    have hf : f.Plain := hp.copy remote _ h hlinks f hcopy
    exact congrArg some (Ending.of_plain hf).symm
  | copied dir remote =>
    cases hr
    have hset : (setMode (e.file dir remote) stagedKeytabMode).on h = (.error f, h') :=
      Act.on_bind_pure_eq_error hx
    have hf : f.Plain := failsOnly_setMode hmode _ f (congrArg Prod.fst hset)
    exact congrArg some (of_asIssue h'.words hf (setMode_told hset) fun _ => rfl).symm
  | staged dir remote => exact nomatch hr

/-- Faults that are to come stay the system's. -/
theorem ask_setModeFaults (hp : e.store.Plain e.cluster) (hmode : AllSystem h.setModeFaults)
    {st' : Stage} {h' : Host} (hx : (e.ask st).on h = (.ok st', h')) :
    AllSystem h'.setModeFaults := by
  obtain rfl : ((e.ask st).on h).2 = h' := congrArg Prod.snd hx
  cases st with
  | planned dir =>
    rw [Errand.ask, Act.on_bind_pure, makeDir_setModeFaults]
    exact hmode
  | made dir =>
    rw [Errand.ask, Act.on_bind_pure, setMode_setModeFaults]
    exact hmode.drop
  | closed dir =>
    obtain ⟨answer, hb, _⟩ := hp.build e.keytab h
    rw [Errand.ask, Act.on_bind_pure, hb]
    exact hmode
  | located dir remote =>
    rw [Errand.ask, Act.on_bind_pure, hp.faults remote (e.file dir remote) h]
    exact hmode
  | copied dir remote =>
    rw [Errand.ask, Act.on_bind_pure, setMode_setModeFaults]
    exact hmode.drop
  | staged dir remote => exact hmode

/-- A request that succeeds keeps what is known. -/
theorem Early.ask (hp : e.store.Plain e.cluster) (hs : h₀.disk.Sound) (a : Early logs h₀ st h)
    {st' : Stage} {h' : Host} (hx : (e.ask st).on h = (.ok st', h')) : Early logs h₀ st' h' := by
  have hmode := ask_setModeFaults hp a.1 hx
  have hstage := a.2
  -- By the stage; a request that fails brings a staging nowhere, so only successes are left.
  cases st with
  | planned dir =>
    rw [Errand.ask, Act.on_bind_pure] at hx
    rcases makeDir_keeps hs hstage.2.1 hstage.1 dir.text with
      ⟨f, g, hm, hi⟩ | ⟨l, mode, g, hm, hw⟩ <;> rw [hm] at hx <;> cases hx
    exact ⟨hmode, l, mode, hw⟩
  | made dir =>
    obtain ⟨l, mode, hw⟩ := hstage
    obtain ⟨mode', hw', _⟩ := setMode_keeps hw
    rw [Errand.ask, Act.on_bind_pure] at hx
    rcases hm : (setMode dir.text stagingDirMode).on h with ⟨f | u, g⟩ <;>
      rw [hm] at hx hw' <;> cases hx
    exact ⟨hmode, l, mode', hw'⟩
  | closed dir =>
    obtain ⟨answer, hb, _⟩ := hp.build e.keytab h
    rw [Errand.ask, Act.on_bind_pure, hb] at hx
    rcases answer with f | remote <;> cases hx
    exact ⟨hmode, hstage⟩
  | located dir remote =>
    rw [Errand.ask, Act.on_bind_pure] at hx
    rcases hm : (e.store.copy remote (e.file dir remote) false).on h with ⟨f | u, g⟩ <;>
      rw [hm] at hx <;> cases hx
    exact ⟨hmode, trivial⟩
  | copied dir remote =>
    rw [Errand.ask, Act.on_bind_pure] at hx
    rcases hm : (setMode (e.file dir remote) stagedKeytabMode).on h with ⟨f | u, g⟩ <;>
      rw [hm] at hx <;> cases hx
    exact ⟨hmode, trivial⟩
  | staged dir remote =>
    cases hx
    exact ⟨hmode, trivial⟩

/-- What goes into the log does not matter. -/
theorem Early.remark (a : Early logs h₀ st h) : Early logs h₀ st ((e.remark st).on h).2 := by
  have hlogged := e.remark_logged st h
  obtain ⟨hmode, hstage⟩ := a
  refine ⟨hlogged.setModeFaults ▸ hmode, ?_⟩
  cases st with
  | planned _ | made _ | located _ _ | copied _ _ | staged _ _ => exact hstage
  | closed dir =>
    obtain ⟨l, mode, hw⟩ := hstage
    exact ⟨l, mode, (hw.logged hlogged).1⟩

/-- **The ending of a staging** is that of its first request that fails.  By induction on the number
    of steps left. -/
theorem course_ends (hp : e.store.Plain e.cluster) (hs : h₀.disk.Sound) (hl : h₀.disk.LinksEnd)
    (n : Nat) (a : Early logs h₀ st h) :
    Ending.of? (e.course n st h).outcome = repliesEnding? e.cluster (e.course n st h).replies := by
  induction n generalizing st h with
  | zero => rfl
  | succ n ih =>
    rcases hr : e.request st with _ | r
    · rw [e.course_of_none hr]
      rfl
    · rcases hx : (e.ask st).on h with ⟨f | st', h'⟩
      · rw [e.course_of_error hr hx]
        unfold repliesEnding?
        rw [List.findSome?_cons, ask_ends hp hs hl a hr hx]
        rfl
      · rw [e.course_of_ok hr hx]
        exact ih (a.ask hp hs hx).remark

end Errands

end SecureStartup.Startup
