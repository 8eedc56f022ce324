import SecureStartup.Proofs.Keytab.Course
import SecureStartup.Proofs.Host.Logging

/-!
  The order of the steps of a staging.

  1. **Program** — `SecureKeytabFetcher.fetch`.  It makes its five requests in one fixed order, whatever
     fails: the directory is made, its mode is set, the store is asked for the path of the keytab, the
     keytab is copied, and the mode of the copy is set.

  2. **Specification** — the requests made are the first ones of the plan, and the first request that
     fails is the last one made (`InOrder`).  So nothing is copied before the directory is closed to
     others, and no path is returned before the copy is read-only.  A failure is reported as it was met,
     or, where the system refuses a step of the staging itself, as an issue of that step (`Reports`).

  3. **The proof** goes along the course of a staging.  One step: a request that succeeds brings a staging
     one stage further and keeps its directory and the path in the store (`ask_ok`), and it is what the
     trace grows by (`ask_trace`).  All steps: by induction on the number of steps left.

  The store may be anything that answers.  What it does on its way to an answer is its own matter: it is
  put behind a record of what it was asked (`SharedStore.recorded`), and this is what the trace shows.
-/

namespace SecureStartup

/-- A store that records what is asked of it, and nothing else that happens in it. -/
def SharedStore.recorded (store : SharedStore) : SharedStore where
  build keytab cluster := fun h =>
    let (answer, h') := (store.build keytab cluster).on (h.note (.build keytab cluster))
    (answer, { h' with trace := .build keytab cluster :: h.trace })
  copy remote target deleteSource := fun h =>
    let (answer, h') := (store.copy remote target deleteSource).on
      (h.note (.copy remote target deleteSource))
    (answer, { h' with trace := .copy remote target deleteSource :: h.trace })

namespace KeytabStager

theorem makeDir_trace (path : String) (h : Host) :
    ((makeDir path).on h).2.trace = .makeDir path (modeText stagingDirMode) :: h.trace := by
  rw [makeDir_on]
  rcases (takeFault h.makeDirFaults).1 with _ | f
  · exact Act.changeDisk_trace _ _ _
  · rfl

theorem setMode_trace (path : String) (mode : Nat) (h : Host) :
    ((setMode path mode).on h).2.trace = .setMode path (modeText mode) :: h.trace := by
  rw [setMode_on]
  rcases (takeFault h.setModeFaults).1 with _ | f
  · exact Act.changeDisk_trace _ _ _
  · rfl

end KeytabStager

namespace Stage

/-- How many steps have been made. -/
def passed : Stage → Nat
  | .planned _ => 0
  | .made _ => 1
  | .closed _ => 2
  | .located _ _ => 3
  | .copied _ _ => 4
  | .staged _ _ => 5

/-- The directory. -/
def dir : Stage → PurePath
  | .planned d | .made d | .closed d | .located d _ | .copied d _ | .staged d _ => d

/-- The path in the store, once the store has given it. -/
def remote? : Stage → Option String
  | .planned _ | .made _ | .closed _ => none
  | .located _ m | .copied _ m | .staged _ m => some m

end Stage

namespace Errand

open KeytabStager

variable (e : Errand)

/-- **The five requests of a staging**, in order. -/
def plan (dir : PurePath) (remote : String) : List Event :=
  [.makeDir dir.text (modeText stagingDirMode),
   .setMode dir.text (modeText stagingDirMode),
   .build (.str e.keytab) e.cluster,
   .copy remote (e.file dir remote) false,
   .setMode (e.file dir remote) (modeText stagedKeytabMode)]

/-- What a caller learns of a request that failed.  A refusal of the system to make a directory or
    to set a mode is reported as an issue of staging that names the path; every other failure, and
    every failure of the store, is passed on as it is. -/
def Reports : Event → (cause : Failure) → (reported : Failure) → Prop
  | .makeDir path _, cause, f | .setMode path _, cause, f =>
    if cause.isSystem then
      ∃ issue, f = .setup issue (some cause) ∧ issue.kind = .staging ∧ issue.path? = some path
    else f = cause
  | _, cause, f => f = cause

/-- Replies and outcome are those of a staging that goes by the plan, from the point on where `done`
    requests have been answered. -/
structure InOrder (dir : PurePath) (remote : String) (done : Nat) (replies : List Reply)
    (outcome : Except Failure String) : Prop where
  /-- The requests are the next ones of the plan. -/
  planned : replies.map (·.request) <+: (e.plan dir remote).drop done
  /-- The path in the store is the one that the store gives when it is asked. -/
  built : ∀ r ∈ replies, r.request = .build (.str e.keytab) e.cluster →
    ∀ m h', (e.store.build (.str e.keytab) e.cluster).on r.before = (.ok m, h') → m = remote
  /-- Every request but the last has succeeded. -/
  proceeds : ∀ r ∈ replies.dropLast, ∃ st, r.answer = .ok st
  /-- A path is returned if and only if all five requests have succeeded. -/
  succeeds : (∃ file, outcome = .ok file) ↔
    done + replies.length = 5 ∧ ∀ r ∈ replies, ∃ st, r.answer = .ok st
  /-- It is the path of the copy. -/
  returns : ∀ file, outcome = .ok file → file = e.file dir remote
  /-- A failure is the one of the last request. -/
  fails : ∀ f, outcome = .error f →
    ∃ r cause, replies.getLast? = some r ∧ r.answer = .error cause ∧ Reports r.request cause f

/-- The errand with a store that records. -/
def recorded : Errand := { e with store := e.store.recorded }

/-! ## One step -/

/-- A request that is due is the one that the plan has there. -/
theorem request_planned {st : Stage} {r : Event} (hr : e.request st = some r) (remote : String)
    (hm : ∀ m, st.remote? = some m → m = remote) :
    (e.plan st.dir remote).drop st.passed = r :: (e.plan st.dir remote).drop (st.passed + 1) := by
  cases st with
  | planned dir => cases hr; rfl
  | made dir => cases hr; rfl
  | closed dir => cases hr; rfl
  | located dir m => cases hr; cases hm m rfl; rfl
  | copied dir m => cases hr; cases hm m rfl; rfl
  | staged dir m => cases hr

/-- Once all five have been made, nothing is due. -/
theorem request_eq_none {st : Stage} : e.request st = none ↔ st.passed = 5 := by
  cases st <;> simp [request, Stage.passed]

theorem answer_staged {st : Stage} (h5 : st.passed = 5) {remote : String}
    (hm : ∀ m, st.remote? = some m → m = remote) : e.answer st = e.file st.dir remote := by
  cases st with
  | staged dir m => cases hm m rfl; rfl
  | planned _ | made _ | closed _ | located _ _ | copied _ _ => exact nomatch h5

/-- **A request that succeeds** brings a staging one stage further: the directory stays, and the path
    in the store stays once it is there. -/
theorem ask_ok {st st' : Stage} {h h' : Host} (hst : st.passed < 5)
    (ha : (e.ask st).on h = (.ok st', h')) :
    st'.passed = st.passed + 1 ∧ st'.dir = st.dir ∧
      (∀ m, st.remote? = some m → st'.remote? = some m) := by
  cases st with
  | planned dir =>
    obtain ⟨_, _, _, hk⟩ := Act.on_bind_eq_ok ha
    cases hk
    exact ⟨rfl, rfl, fun m hm => nomatch hm⟩
  | made dir =>
    obtain ⟨_, _, _, hk⟩ := Act.on_bind_eq_ok ha
    cases hk
    exact ⟨rfl, rfl, fun m hm => nomatch hm⟩
  | closed dir =>
    obtain ⟨_, _, _, hk⟩ := Act.on_bind_eq_ok ha
    cases hk
    exact ⟨rfl, rfl, fun m hm => nomatch hm⟩
  | located dir remote =>
    obtain ⟨_, _, _, hk⟩ := Act.on_bind_eq_ok ha
    cases hk
    exact ⟨rfl, rfl, fun m hm => hm⟩
  | copied dir remote =>
    obtain ⟨_, _, _, hk⟩ := Act.on_bind_eq_ok ha
    cases hk
    exact ⟨rfl, rfl, fun m hm => hm⟩
  | staged dir remote => exact absurd hst (Nat.lt_irrefl 5)

/-- Asking the store for a path gives the path that the store gives. -/
theorem ask_build {st : Stage} {r : Event} {h h' : Host} {m : String} (hr : e.request st = some r)
    (hb : r = .build (.str e.keytab) e.cluster)
    (hm : (e.store.build (.str e.keytab) e.cluster).on h = (.ok m, h')) :
    (e.ask st).on h = (.ok (.located st.dir m), h') := by
  cases st with
  | closed dir => exact Act.on_bind_ok hm
  | planned _ | made _ | located _ _ | copied _ _ =>
    cases hr
    exact nomatch hb
  | staged _ _ => cases hr

/-- **A request goes into the trace**, whether it succeeds or fails, and nothing else does. -/
theorem ask_trace {st : Stage} {r : Event} (hr : e.request st = some r) (h : Host) :
    ((e.recorded.ask st).on h).2.trace = r :: h.trace := by
  cases st with
  | planned dir =>
    cases hr
    rw [ask, Act.on_bind_pure]
    exact makeDir_trace dir.text h
  | made dir =>
    cases hr
    rw [ask, Act.on_bind_pure]
    exact setMode_trace dir.text stagingDirMode h
  | closed dir =>
    cases hr
    rw [ask, Act.on_bind_pure]
    rfl
  | located dir remote =>
    cases hr
    rw [ask, Act.on_bind_pure]
    rfl
  | copied dir remote =>
    cases hr
    rw [ask, Act.on_bind_pure]
    exact setMode_trace (e.file dir remote) stagedKeytabMode h
  | staged dir remote => cases hr

theorem remark_trace (st : Stage) (h : Host) : ((e.remark st).on h).2.trace = h.trace := by
  cases st with
  | planned dir | made dir | located dir remote | copied dir remote => rfl
  | closed dir | staged dir remote => exact (Host.Logged.of_log _ _ _ _ h).trace

/-- A request that the staging itself makes fails with a failure that can say what it is. -/
theorem ask_told {st : Stage} {h h' : Host} {f : Failure} (ha : (e.ask st).on h = (.error f, h')) :
    (∃ dir, st = .closed dir) ∨ (∃ dir remote, st = .located dir remote) ∨ f.isTold = true := by
  have hbind : ∀ {x : Act Unit} {st' : Stage}, (x >>= fun _ => pure st').on h = (.error f, h') →
      x.on h = (.error f, h') := by
    intro x st' hx
    rw [Act.on_bind_pure] at hx
    rcases hon : x.on h with ⟨g | _, k⟩ <;> rw [hon] at hx <;> cases hx
    rfl
  cases st with
  | planned dir => exact .inr (.inr (makeDir_told (hbind ha)))
  | made dir => exact .inr (.inr (setMode_told (hbind ha)))
  | closed dir => exact .inl ⟨dir, rfl⟩
  | located dir remote => exact .inr (.inl ⟨dir, remote, rfl⟩)
  | copied dir remote => exact .inr (.inr (setMode_told (hbind ha)))
  | staged dir remote => exact nomatch ha

/-- **A request that fails** is reported as it should be. -/
theorem report_reports {st : Stage} {r : Event} (hr : e.request st = some r) {h h' : Host}
    {cause : Failure} (ha : (e.ask st).on h = (.error cause, h')) (words : Failure → String) :
    Reports r cause (e.report words st cause) := by
  have htold := e.ask_told ha
  cases st with
  | planned dir | made dir | copied dir remote =>
    cases hr
    have ht : cause.isTold = true := by
      rcases htold with ⟨_, h⟩ | ⟨_, _, h⟩ | h
      · exact nomatch h
      · exact nomatch h
      · exact h
    show if cause.isSystem then _ else _
    by_cases hs : cause.isSystem = true
    · obtain ⟨reason, hreason⟩ := asIssue_system _ _ hs ht
      rw [if_pos hs]
      exact ⟨_, hreason, rfl, rfl⟩
    · rw [if_neg hs]
      exact if_neg hs
  | closed dir | located dir remote => cases hr; exact rfl
  | staged dir remote => cases hr

/-! ## All steps -/

section Plan

variable {e : Errand} {st st' : Stage} {r : Event} {h h' : Host} {remote : String}

/-- Behind the last request nothing of the plan is left. -/
theorem inOrder_staged (h5 : st.passed = 5) (hm : ∀ m, st.remote? = some m → m = remote) :
    e.InOrder st.dir remote st.passed [] (.ok (e.answer st)) where
  planned := List.nil_prefix
  built _ hr := nomatch hr
  proceeds _ hr := nomatch hr
  succeeds := ⟨fun _ => ⟨h5, fun r hr => nomatch hr⟩, fun _ => ⟨_, rfl⟩⟩
  returns file hf := by
    cases hf
    exact e.answer_staged h5 hm
  fails f hf := nomatch hf

/-- A request that fails is the last one. -/
theorem inOrder_failed {f : Failure} (hr : e.request st = some r)
    (ha : (e.ask st).on h = (.error f, h')) (hm : ∀ m, st.remote? = some m → m = remote) :
    e.InOrder st.dir remote st.passed [⟨r, h, .error f, h'⟩] (.error (e.report h'.words st f)) where
  planned := by
    rw [e.request_planned hr _ hm]
    exact ⟨_, rfl⟩
  built := by
    intro q hq hreq m h₁ hb
    cases List.mem_singleton.mp hq
    rw [e.ask_build hr hreq hb] at ha
    exact nomatch ha
  proceeds r' hr' := nomatch hr'
  succeeds := by
    constructor
    · rintro ⟨file, hf⟩
      exact nomatch hf
    · rintro ⟨_, hall⟩
      obtain ⟨_, hok⟩ := hall _ (List.mem_singleton.mpr rfl)
      exact nomatch hok
  returns file hf := nomatch hf
  fails g hg := by
    cases hg
    exact ⟨_, f, rfl, rfl, e.report_reports hr ha h'.words⟩

/-- A request that succeeds comes before what goes by the rest of the plan. -/
theorem InOrder.cons {replies : List Reply} {outcome : Except Failure String}
    (hrest : e.InOrder st.dir remote (st.passed + 1) replies outcome) (hr : e.request st = some r)
    (ha : (e.ask st).on h = (.ok st', h')) (hm : ∀ m, st.remote? = some m → m = remote)
    (hm' : ∀ m, st'.remote? = some m → m = remote) :
    e.InOrder st.dir remote st.passed (⟨r, h, .ok st', h'⟩ :: replies) outcome where
  planned := by
    rw [e.request_planned hr remote hm, List.map_cons, List.prefix_cons_inj]
    exact hrest.planned
  -- if it is this request that asks the store, the answer is the path that the rest goes on with
  built := by
    intro q hq hreq m h₁ hb
    rcases List.mem_cons.mp hq with rfl | hq
    · rw [e.ask_build hr hreq hb] at ha
      cases ha
      exact hm' m rfl
    · exact hrest.built q hq hreq m h₁ hb
  proceeds := by
    intro q hq
    rcases replies with _ | ⟨q₁, qs⟩
    · exact nomatch hq
    · rw [List.dropLast_cons_cons] at hq
      rcases List.mem_cons.mp hq with rfl | hq'
      · exact ⟨st', rfl⟩
      · exact hrest.proceeds q hq'
  succeeds := by
    rw [hrest.succeeds, List.length_cons, List.forall_mem_cons]
    constructor
    · rintro ⟨hlen, hall⟩
      exact ⟨by omega, ⟨st', rfl⟩, hall⟩
    · rintro ⟨hlen, _, hall⟩
      exact ⟨by omega, hall⟩
  returns := hrest.returns
  fails := by
    intro f hf
    obtain ⟨q, cause, hlast, hq, hrep⟩ := hrest.fails f hf
    refine ⟨q, cause, ?_, hq, hrep⟩
    rw [List.getLast?_cons, hlast]
    rfl

end Plan

/-- **The course of a staging goes by the plan**, from any stage on.  By induction on the number of
    steps left; the path in the store is whatever the rest of the course says it is. -/
theorem course_inOrder (n : Nat) (st : Stage) (h : Host) (hn : st.passed + n = 5) :
    ∃ remote, (∀ m, st.remote? = some m → m = remote) ∧
      e.InOrder st.dir remote st.passed (e.course n st h).replies (e.course n st h).outcome := by
  have hknown : ∀ m, st.remote? = some m → m = st.remote?.getD "" := fun m hm => by rw [hm]; rfl
  induction n generalizing st h with
  | zero => exact ⟨_, hknown, inOrder_staged hn hknown⟩
  | succ n ih =>
    have hlt : st.passed < 5 := by omega
    obtain ⟨r, hr⟩ : ∃ r, e.request st = some r := by
      rcases hq : e.request st with _ | r
      · have := (e.request_eq_none).mp hq
        omega
      · exact ⟨r, rfl⟩
    rcases ha : (e.ask st).on h with ⟨f | st', h'⟩
    · rw [e.course_of_error hr ha]
      exact ⟨_, hknown, inOrder_failed hr ha hknown⟩
    · obtain ⟨hp, hd, hkeep⟩ := e.ask_ok hlt ha
      obtain ⟨remote, hm', hrest⟩ := ih st' ((e.remark st').on h').2 (by omega)
        fun m hm => by rw [hm]; rfl
      have hm : ∀ m, st.remote? = some m → m = remote := fun m hst => hm' m (hkeep m hst)
      rw [e.course_of_ok hr ha]
      rw [hd, hp] at hrest
      exact ⟨remote, hm, hrest.cons hr ha hm hm'⟩

/-- **The trace of a course** grows by its requests, in their order. -/
theorem course_trace (n : Nat) (st : Stage) (h : Host) :
    (e.recorded.course n st h).after.trace =
      ((e.recorded.course n st h).replies.map (·.request)).reverse ++ h.trace := by
  induction n generalizing st h with
  | zero => rfl
  | succ n ih =>
    rcases hr : e.recorded.request st with _ | r
    · rw [course_of_none _ hr]
      rfl
    · have ht := e.ask_trace hr h
      rcases ha : (e.recorded.ask st).on h with ⟨f | st', h'⟩
      · rw [course_of_error _ hr ha]
        rw [ha] at ht
        exact ht
      · rw [course_of_ok _ hr ha]
        rw [ha] at ht
        simp only
        rw [ih, remark_trace, show h'.trace = r :: h.trace from ht, List.map_cons,
          List.reverse_cons, List.append_assoc]
        rfl

end Errand

/-- **A staging goes by the plan**, whatever the store is and whatever fails.  Its outcome and the
    host afterwards are those of its course; the course makes the five requests in their order, up to
    the first one that fails; and when the store records what is asked of it, the requests are all
    that the trace grows by. -/
theorem KeytabStager.fetch_in_order (s : KeytabStager) (e : Errand) (h : Host) :
    let c := e.course 5 (.planned (s.nextDir h)) (named h)
    (s.fetch e.store (.str e.keytab) e.cluster).on h = (c.outcome, c.after) ∧
      (∃ remote, e.InOrder (s.nextDir h) remote 0 c.replies c.outcome) ∧
      (∀ store : SharedStore, e.store = store.recorded →
        c.after.events = h.events ++ c.replies.map (·.request)) := by
  intro c
  refine ⟨e.fetch_on s h, ?_, ?_⟩
  · obtain ⟨remote, _, hin⟩ := e.course_inOrder 5 (.planned (s.nextDir h)) (named h) rfl
    exact ⟨remote, hin⟩
  · intro store hs
    have he : e = ({ e with store := store } : Errand).recorded := by
      cases e
      cases hs
      rfl
    have ht := ({ e with store := store } : Errand).course_trace 5 (.planned (s.nextDir h)) (named h)
    rw [← he] at ht
    show c.after.trace.reverse = h.trace.reverse ++ _
    rw [ht, List.reverse_append, List.reverse_reverse]
    rfl

end SecureStartup
