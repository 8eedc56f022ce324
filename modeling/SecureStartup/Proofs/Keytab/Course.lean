import SecureStartup.Keytab.Stager
import SecureStartup.Proofs.Failure.Reason
import SecureStartup.Proofs.Host.Running
import SecureStartup.Proofs.Store.Names

/-!
  The course of a staging, step by step.

  1. **Program** — `SecureKeytabFetcher.fetch` makes five requests, and each of them may fail: it makes its
     directory, sets its mode, asks the store where the keytab lies (`build_keytab_path`), has it copied
     (`copy_to_local`), and sets the mode of the copy.  After the second and the last it logs a line.

  2. **Taken apart** — a `Stage` says how far a staging has come, `ask` is the one request that is made
     there, and `course` follows the requests and keeps, for each, what was asked, how it was answered,
     and the host afterwards.

  3. **The same thing** — `fetch_on` says that this is what `fetch` does.  Everything that holds "after
     every step" is then said of the replies of a course, and proved one step at a time; the equations
     `course_of_none`, `course_of_error` and `course_of_ok` are the three ways for a course to go on.
-/

namespace SecureStartup

/-- What is to be staged: the keytab of a cluster, from a store. -/
structure Errand where
  store : SharedStore
  keytab : String
  cluster : Value

/-- How far a staging has come.  The directory is known from the start, the path in the store from
    the third step on. -/
inductive Stage where
  | planned (dir : PurePath)
  | made (dir : PurePath)
  | closed (dir : PurePath)
  | located (dir : PurePath) (remote : String)
  | copied (dir : PurePath) (remote : String)
  | staged (dir : PurePath) (remote : String)

/-- How a request was answered. -/
structure Reply where
  request : Event
  /-- The host right before the answer. -/
  before : Host
  answer : Except Failure Stage
  /-- The host right after the answer. -/
  after : Host

/-- What happened from some stage on. -/
structure Course where
  replies : List Reply
  outcome : Except Failure String
  after : Host

namespace KeytabStager

/-- The directory that the next staging on a host makes. -/
def nextDir (s : KeytabStager) (h : Host) : PurePath :=
  let ms := (Host.takeNext h.readings).1.getD (Int.fdiv h.nanos 1000000)
  let token := (Host.takeNext h.suffixes).1.getD (h.randomHex 8)
  ((PurePath.ofString (Disk.locationText h.workDir)).join s.root).child s!"keytab-{ms}-{token}"

/-- A host whose clock and random source have been read once more. -/
def named (h : Host) : Host :=
  { h with readings := (Host.takeNext h.readings).2, suffixes := (Host.takeNext h.suffixes).2 }

theorem newDir_on (s : KeytabStager) (h : Host) : s.newDir.on h = (.ok (s.nextDir h), named h) := rfl

/-- The name of a staged keytab whose own name is a text. -/
def localName (remote keytab : String) : String :=
  let name := (PurePath.ofString remote).name
  if name == "" then (PurePath.ofString keytab).name else name

theorem fileName_str (remote keytab : String) :
    fileName remote (.str keytab) = .ok (localName remote keytab) := by
  unfold fileName localName
  simp only
  split <;> rfl

/-- The path of the directory ends in its name, or in the last part of it: a suffix may have slashes
    in it. -/
theorem nextDir_endsInPart (s : KeytabStager) (h : Host) : (s.nextDir h).EndsInPart := by
  unfold nextDir
  simp only
  generalize (Host.takeNext h.readings).1.getD _ = ms
  generalize (Host.takeNext h.suffixes).1.getD _ = token
  obtain ⟨r, hr⟩ : ∃ r, (s!"keytab-{ms}-{token}").toList = 'k' :: r := by
    refine ⟨"eytab-".toList ++ (toString ms ++ "-" ++ token).toList, ?_⟩
    simp [toString]
  generalize s!"keytab-{ms}-{token}" = name at hr ⊢
  have hne : pathParts name.toList ≠ [] := by
    rw [hr]
    exact pathParts_ne_nil (by decide) (by decide) r
  have hlast := List.getLast?_eq_some_getLast hne
  refine ⟨_, ?_, isPart_of_mem_pathParts (List.getLast_mem hne)⟩
  unfold PurePath.child PurePath.join
  split
  · exact hlast
  · show (_ ++ pathParts name.toList).getLast? = _
    rw [List.getLast?_append, hlast]
    rfl

/-- **What a staged keytab is called**, whatever its own name is: the last part of its path in the
    store, which is the name of an entry. -/
theorem fileName_of_hasName {remote : String} (h : HasName remote) :
    ∃ name, Disk.IsName name ∧ IsPart name.toList ∧ ∀ keytab, fileName remote keytab = .ok name := by
  obtain ⟨q, hq, hpart, hup⟩ := h
  have hname : (PurePath.ofString remote).name = String.ofList q := by
    show String.ofList ((pathParts remote.toList).getLast?.getD []) = _
    rw [hq]
    rfl
  have hne : ∀ t : List Char, q ≠ t → String.ofList q ≠ String.ofList t := fun t ht he =>
    ht (String.ofList_injective he)
  refine ⟨String.ofList q, ⟨hne [] hpart.1, hne ['.'] hpart.2.1, hne ['.', '.'] hup⟩, ?_, ?_⟩
  · rw [String.toList_ofList]
    exact hpart
  · intro keytab
    unfold fileName
    rw [hname]
    exact if_neg fun h => hne [] hpart.1 (eq_of_beq h)

/-- The same for a keytab whose own name is a text. -/
theorem localName_isName {remote : String} (h : HasName remote) (keytab : String) :
    Disk.IsName (localName remote keytab) ∧ IsPart (localName remote keytab).toList := by
  obtain ⟨name, hname, hpart, hfile⟩ := fileName_of_hasName h
  obtain rfl : localName remote keytab = name :=
    Except.ok.inj ((fileName_str remote keytab).symm.trans (hfile _))
  exact ⟨hname, hpart⟩

/-- What a failure of a staging step is reported as: the system's failures as an issue of the step,
    with their reasons. -/
def asIssue (words : Failure → String) (issue : (reason : String) → SetupIssue) (f : Failure) :
    Failure :=
  if f.isSystem then
    match f.reason words with
    | .ok reason => .setup (issue reason) (some f)
    | .error g => g
  else f

theorem stagingStep_on (issue : (reason : String) → SetupIssue) (act : Act Unit) (h : Host) :
    (stagingStep issue act).on h = match act.on h with
      | (.ok a, h') => (.ok a, h')
      | (.error f, h') => (.error (asIssue h'.words issue f), h') := by
  unfold stagingStep asIssue
  rw [Act.on_tryCatch]
  rcases act.on h with ⟨f | _, h'⟩
  · by_cases hf : f.isSystem = true
    · simp only [hf, if_true]
      rw [Act.on_bind_ok (Act.on_get h'), Act.on_bind, Act.on_ofExcept]
      rcases f.reason h'.words with g | reason <;> rfl
    · simp only [hf]
      rfl
  · rfl

/-! ## Making a directory and setting a mode -/

/-- A host that was asked to make a directory: the request is recorded, and a fault that was due is
    used up. -/
def askedToMake (h : Host) (path : String) : Host :=
  { h.note (.makeDir path (modeText stagingDirMode)) with
    makeDirFaults := (takeFault h.makeDirFaults).2 }

/-- A host that was asked to set a mode. -/
def askedToSet (h : Host) (path : String) (mode : Nat) : Host :=
  { h.note (.setMode path (modeText mode)) with setModeFaults := (takeFault h.setModeFaults).2 }

/-- Either a fault is due, or it is the disk that answers. -/
theorem makeDir_on (path : String) (h : Host) :
    (makeDir path).on h = match (takeFault h.makeDirFaults).1 with
      | some f => (.error f, askedToMake h path)
      | none => (Act.changeDisk path fun d cwd => d.makeDir cwd path (h.granted stagingDirMode)).on
          (askedToMake h path) := by
  show (match (takeFault h.makeDirFaults).1 with
    | some f => throw f
    | none => Act.changeDisk path fun d cwd =>
        d.makeDir cwd path (h.granted stagingDirMode) : Act Unit).on (askedToMake h path) = _
  rcases (takeFault h.makeDirFaults).1 with _ | f <;> rfl

theorem setMode_on (path : String) (mode : Nat) (h : Host) :
    (setMode path mode).on h = match (takeFault h.setModeFaults).1 with
      | some f => (.error f, askedToSet h path mode)
      | none => (Act.changeDisk path fun d cwd => d.setMode cwd path mode).on
          (askedToSet h path mode) := by
  show (match (takeFault h.setModeFaults).1 with
    | some f => throw f
    | none => Act.changeDisk path fun d cwd => d.setMode cwd path mode : Act Unit).on
      (askedToSet h path mode) = _
  rcases (takeFault h.setModeFaults).1 with _ | f <;> rfl

/-- Where no fault is due, and the disk makes the directory, it is made. -/
theorem makeDir_ok_on {path : String} {h : Host} {d : Disk}
    (hf : (takeFault h.makeDirFaults).1 = none) (hp : Invalid.forSystem? path = none)
    (hd : h.disk.makeDir h.workDir path (h.granted stagingDirMode) = .ok d) :
    (makeDir path).on h = (.ok (), { askedToMake h path with disk := d }) := by
  have hasked : (askedToMake h path).disk.makeDir (askedToMake h path).workDir path
      (h.granted stagingDirMode) = .ok d := hd
  rw [makeDir_on, hf]
  simp only
  rw [Act.on_changeDisk, hp, hasked]

theorem setMode_ok_on {path : String} {mode : Nat} {h : Host} {d : Disk}
    (hf : (takeFault h.setModeFaults).1 = none) (hp : Invalid.forSystem? path = none)
    (hd : h.disk.setMode h.workDir path mode = .ok d) :
    (setMode path mode).on h = (.ok (), { askedToSet h path mode with disk := d }) := by
  have hasked : (askedToSet h path mode).disk.setMode (askedToSet h path mode).workDir path mode =
      .ok d := hd
  rw [setMode_on, hf]
  simp only
  rw [Act.on_changeDisk, hp, hasked]

/-- Failures that were prepared can say what they are. -/
theorem takeFault_told {fs : List (Option Fault)} {f : Failure} (h : (takeFault fs).1 = some f) :
    f.isTold = true := by
  obtain ⟨fault, _, rfl⟩ := Option.map_eq_some_iff.mp h
  exact fault.told

/-- So can those of the disk. -/
theorem changeDisk_told {path : String} {op : Disk → Location → Except Refusal Disk} {h h' : Host}
    {f : Failure} (hf : (Act.changeDisk path op).on h = (.error f, h')) : f.isTold = true := by
  rw [Act.on_changeDisk] at hf
  split at hf
  · cases hf
    rfl
  · split at hf <;> cases hf
    rfl

theorem makeDir_told {path : String} {h h' : Host} {f : Failure}
    (hf : (makeDir path).on h = (.error f, h')) : f.isTold = true := by
  rw [makeDir_on] at hf
  rcases ht : (takeFault h.makeDirFaults).1 with _ | g <;> rw [ht] at hf
  · exact changeDisk_told hf
  · cases hf
    exact takeFault_told ht

theorem setMode_told {path : String} {mode : Nat} {h h' : Host} {f : Failure}
    (hf : (setMode path mode).on h = (.error f, h')) : f.isTold = true := by
  rw [setMode_on] at hf
  rcases ht : (takeFault h.setModeFaults).1 with _ | g <;> rw [ht] at hf
  · exact changeDisk_told hf
  · cases hf
    exact takeFault_told ht

/-- **A failure of the system** is reported as an issue of its step, if it can say what it is. -/
theorem asIssue_system (words : Failure → String) (issue : (reason : String) → SetupIssue)
    {f : Failure} (hs : f.isSystem = true) (ht : f.isTold = true) :
    ∃ reason, asIssue words issue f = .setup (issue reason) (some f) := by
  obtain ⟨reason, hr⟩ := f.reason_ok words hs ht
  refine ⟨reason, ?_⟩
  unfold asIssue
  rw [if_pos hs, hr]

end KeytabStager

namespace Errand

open KeytabStager

variable (e : Errand)

/-- The path of the staged keytab. -/
def file (dir : PurePath) (remote : String) : String := (dir.child (localName remote e.keytab)).text

/-! ## One step -/

/-- What is asked for next; nothing, once the keytab is staged. -/
def request : Stage → Option Event
  | .planned dir => some (.makeDir dir.text (modeText stagingDirMode))
  | .made dir => some (.setMode dir.text (modeText stagingDirMode))
  | .closed _ => some (.build (.str e.keytab) e.cluster)
  | .located dir remote => some (.copy remote (e.file dir remote) false)
  | .copied dir remote => some (.setMode (e.file dir remote) (modeText stagedKeytabMode))
  | .staged _ _ => none

/-- The request itself, and the stage that its success leads to. -/
def ask : Stage → Act Stage
  | .planned dir => do
    makeDir dir.text
    return .made dir
  | .made dir => do
    setMode dir.text stagingDirMode
    return .closed dir
  | .closed dir => do
    let remote ← e.store.build (.str e.keytab) e.cluster
    return .located dir remote
  | .located dir remote => do
    e.store.copy remote (e.file dir remote) false
    return .copied dir remote
  | .copied dir remote => do
    setMode (e.file dir remote) stagedKeytabMode
    return .staged dir remote
  | .staged dir remote => return .staged dir remote

/-- What goes into the log when a stage is reached. -/
def remark : Stage → Act Unit
  | .closed dir =>
    Act.log logger Log.debug "Created keytab staging directory"
      [("staging_dir", .str dir.text), ("file_mode", .str (modeText stagingDirMode))]
  | .staged dir remote =>
    Act.log logger Log.info "Staged keytab from shared filesystem"
      [("keytab_name", .str e.keytab), ("remote_path", .str remote),
       ("keytab_path", .str (e.file dir remote)), ("file_mode", .str (modeText stagedKeytabMode))]
  | _ => return ()

/-- What a failed request is reported as, with the runtime's words for failures of its making. -/
def report (words : Failure → String) : Stage → Failure → Failure
  | .planned dir => asIssue words (.cannotCreate dir.text)
  | .made dir => asIssue words (.cannotProtect dir.text (modeText stagingDirMode))
  | .copied dir remote =>
    asIssue words (.cannotProtect (e.file dir remote) (modeText stagedKeytabMode))
  | _ => id

/-- The path that a staging answers with at the end. -/
def answer : Stage → String
  | .located dir remote | .copied dir remote | .staged dir remote => e.file dir remote
  | .planned dir | .made dir | .closed dir => dir.text

/-! ## All steps -/

/-- **The course of a staging** from a stage on, as far as `n` steps. -/
def course : Nat → Stage → Host → Course
  | 0, st, h => ⟨[], .ok (e.answer st), h⟩
  | n + 1, st, h =>
    match e.request st with
    | none => ⟨[], .ok (e.answer st), h⟩
    | some r =>
      match (e.ask st).on h with
      | (.error f, h') => ⟨[⟨r, h, .error f, h'⟩], .error (e.report h'.words st f), h'⟩
      | (.ok st', h') =>
        let c := course n st' ((e.remark st').on h').2
        ⟨⟨r, h, .ok st', h'⟩ :: c.replies, c.outcome, c.after⟩

theorem course_of_none {n : Nat} {st : Stage} {h : Host} (hr : e.request st = none) :
    e.course n st h = ⟨[], .ok (e.answer st), h⟩ := by
  cases n with
  | zero => rfl
  | succ n => rw [course, hr]

theorem course_of_error {n : Nat} {st : Stage} {h h' : Host} {r : Event} {f : Failure}
    (hr : e.request st = some r) (ha : (e.ask st).on h = (.error f, h')) :
    e.course (n + 1) st h = ⟨[⟨r, h, .error f, h'⟩], .error (e.report h'.words st f), h'⟩ := by
  rw [course, hr, ha]

theorem course_of_ok {n : Nat} {st st' : Stage} {h h' : Host} {r : Event}
    (hr : e.request st = some r) (ha : (e.ask st).on h = (.ok st', h')) :
    e.course (n + 1) st h =
      let c := e.course n st' ((e.remark st').on h').2
      ⟨⟨r, h, .ok st', h'⟩ :: c.replies, c.outcome, c.after⟩ := by
  rw [course, hr, ha]

/-- **Five requests that succeed** are a staging that succeeds. -/
theorem course_of_all {dir : PurePath} {remote : String} {h h₁ h₂ h₃ h₄ h₅ : Host}
    (hmake : (makeDir dir.text).on h = (.ok (), h₁))
    (hclose : (setMode dir.text stagingDirMode).on h₁ = (.ok (), h₂))
    (hbuild : (e.store.build (.str e.keytab) e.cluster).on ((e.remark (.closed dir)).on h₂).2 =
      (.ok remote, h₃))
    (hcopy : (e.store.copy remote (e.file dir remote) false).on h₃ = (.ok (), h₄))
    (hprotect : (setMode (e.file dir remote) stagedKeytabMode).on h₄ = (.ok (), h₅)) :
    (e.course 5 (.planned dir) h).outcome = .ok (e.file dir remote) ∧
      (e.course 5 (.planned dir) h).after = ((e.remark (.staged dir remote)).on h₅).2 := by
  have ha₁ : (e.ask (.planned dir)).on h = (.ok (.made dir), h₁) := Act.on_bind_ok hmake
  have ha₂ : (e.ask (.made dir)).on h₁ = (.ok (.closed dir), h₂) := Act.on_bind_ok hclose
  have ha₃ : (e.ask (.closed dir)).on ((e.remark (.closed dir)).on h₂).2 =
      (.ok (.located dir remote), h₃) := Act.on_bind_ok hbuild
  have ha₄ : (e.ask (.located dir remote)).on h₃ = (.ok (.copied dir remote), h₄) :=
    Act.on_bind_ok hcopy
  have ha₅ : (e.ask (.copied dir remote)).on h₄ = (.ok (.staged dir remote), h₅) :=
    Act.on_bind_ok hprotect
  rw [course_of_ok e rfl ha₁, show ((e.remark (.made dir)).on h₁).2 = h₁ from rfl,
    course_of_ok e rfl ha₂, course_of_ok e rfl ha₃,
    show ((e.remark (.located dir remote)).on h₃).2 = h₃ from rfl, course_of_ok e rfl ha₄,
    show ((e.remark (.copied dir remote)).on h₄).2 = h₄ from rfl, course_of_ok e rfl ha₅]
  exact ⟨rfl, rfl⟩

/-- **A staging takes its course**: reading the clock and the random source comes first and cannot
    fail; then everything goes as the five requests are answered.  The requests are followed one by
    one, and a request that fails is the end of both sides. -/
theorem fetch_on (s : KeytabStager) (h : Host) :
    (s.fetch e.store (.str e.keytab) e.cluster).on h =
      ((e.course 5 (.planned (s.nextDir h)) (named h)).outcome,
        (e.course 5 (.planned (s.nextDir h)) (named h)).after) := by
  simp only [KeytabStager.fetch, createDir, Act.on_bind, newDir_on, protect, stagingStep_on,
    Act.on_ofExcept, fileName_str, Act.on_pure]
  generalize s.nextDir h = dir
  generalize named h = k0
  rcases h1 : (makeDir dir.text).on k0 with ⟨f | _, k1⟩
  · have ha : (e.ask (.planned dir)).on k0 = (.error f, k1) := Act.on_bind_error h1
    rw [course_of_error e rfl ha]
    rfl
  have ha1 : (e.ask (.planned dir)).on k0 = (.ok (.made dir), k1) := Act.on_bind_ok h1
  rw [course_of_ok e rfl ha1, show ((e.remark (.made dir)).on k1).2 = k1 from rfl]
  rcases h2 : (setMode dir.text stagingDirMode).on k1 with ⟨f | _, k2⟩
  · have ha : (e.ask (.made dir)).on k1 = (.error f, k2) := Act.on_bind_error h2
    rw [course_of_error e rfl ha]
    simp only [h2]
    rfl
  have ha2 : (e.ask (.made dir)).on k1 = (.ok (.closed dir), k2) := Act.on_bind_ok h2
  rw [course_of_ok e rfl ha2]
  simp only [h2]
  -- the directory is ready, and the log says so
  rcases hl : (e.remark (.closed dir)).on k2 with ⟨_, k3⟩
  have hl' : (Act.log logger Log.debug "Created keytab staging directory"
      [("staging_dir", .str dir.text), ("file_mode", .str (modeText stagingDirMode))]).on k2
        = (.ok ⟨⟩, k3) := Prod.ext rfl (congrArg Prod.snd hl :)
  simp only [hl']
  rcases h3 : (e.store.build (.str e.keytab) e.cluster).on k3 with ⟨f | remote, k4⟩
  · have ha : (e.ask (.closed dir)).on k3 = (.error f, k4) := Act.on_bind_error h3
    rw [course_of_error e rfl ha]
    rfl
  have ha3 : (e.ask (.closed dir)).on k3 = (.ok (.located dir remote), k4) := Act.on_bind_ok h3
  rw [course_of_ok e rfl ha3, show ((e.remark (.located dir remote)).on k4).2 = k4 from rfl]
  simp only
  rcases h4 : (e.store.copy remote (dir.child (localName remote e.keytab)).text false).on k4 with
    ⟨f | _, k5⟩
  · have ha : (e.ask (.located dir remote)).on k4 = (.error f, k5) := Act.on_bind_error h4
    rw [course_of_error e rfl ha]
    rfl
  have ha4 : (e.ask (.located dir remote)).on k4 = (.ok (.copied dir remote), k5) :=
    Act.on_bind_ok h4
  rw [course_of_ok e rfl ha4, show ((e.remark (.copied dir remote)).on k5).2 = k5 from rfl]
  simp only
  rcases h5 : (setMode (dir.child (localName remote e.keytab)).text stagedKeytabMode).on k5 with
    ⟨f | _, k6⟩
  · have ha : (e.ask (.copied dir remote)).on k5 = (.error f, k6) := Act.on_bind_error h5
    rw [course_of_error e rfl ha]
    rfl
  have ha5 : (e.ask (.copied dir remote)).on k5 = (.ok (.staged dir remote), k6) :=
    Act.on_bind_ok h5
  rw [course_of_ok e rfl ha5]
  rfl

end Errand

end SecureStartup
