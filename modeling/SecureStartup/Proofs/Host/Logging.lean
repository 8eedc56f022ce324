import SecureStartup.Proofs.Host.Running

/-!
  What logging leaves alone.

  Program: every `logger.debug`, `.info`, `.warning` and `.error` of the program, and what
  `log_exception` makes of a failure.

  1. **One record** is remembered, and goes to the standard streams and to log files.  `logRecord_frame`
     says that this is all: whatever a host has beside them is what it was.

  2. **Any number of records** — `Logged` is how later statements say "and this was logged on the way"
     without saying what.

  3. **Quiet hosts** — before logging is set up, and in the configuration tool, records go to the error
     stream at most (`Quiet`).  Then logging changes no file, and an action that does nothing but log is a
     computation (`Act.Logs`).
-/

namespace SecureStartup

namespace Host

/-! ## One record -/

theorem turn_frame (h : Host) (file : Log.LogFile) : ∃ d, (h.turn file).2 = { h with disk := d } := by
  unfold turn
  split
  · exact ⟨h.disk, rfl⟩
  · exact ⟨_, rfl⟩

theorem writeLine_frame (h : Host) (file : Log.LogFile) (r : Log.Record) :
    ∃ d err, h.writeLine file r = { h with disk := d, err := err } := by
  unfold writeLine
  split
  · split
    · exact ⟨_, h.err, rfl⟩
    · exact ⟨h.disk, _, rfl⟩
  · exact ⟨h.disk, _, rfl⟩

theorem write_frame (h : Host) (r : Log.Record) (sink : Sink) :
    ∃ d out err, h.write r sink = { h with disk := d, out := out, err := err } := by
  cases sink with
  | console level =>
    simp only [write]
    split
    · exact ⟨h.disk, h.out, h.err, rfl⟩
    · split
      · exact ⟨h.disk, _, h.err, rfl⟩
      · exact ⟨h.disk, h.out, _, rfl⟩
  | file level file =>
    obtain ⟨d, ht⟩ := h.turn_frame file
    simp only [write]
    split
    · exact ⟨h.disk, h.out, h.err, rfl⟩
    · rcases hturn : h.turn file with ⟨_ | _, g⟩ <;> rw [hturn] at ht <;> subst ht
      · exact ⟨d, h.out, _, rfl⟩
      · obtain ⟨d', err, hw⟩ := writeLine_frame { h with disk := d } file r
        exact ⟨d', h.out, err, hw⟩
  | tool => exact ⟨h.disk, h.out, _, rfl⟩

theorem foldl_write_frame (r : Log.Record) (sinks : List Sink) (h : Host) :
    ∃ d out err, sinks.foldl (fun h s => h.write r s) h =
      { h with disk := d, out := out, err := err } := by
  induction sinks generalizing h with
  | nil => exact ⟨h.disk, h.out, h.err, rfl⟩
  | cons s ss ih =>
    obtain ⟨d, out, err, hw⟩ := h.write_frame r s
    obtain ⟨d', out', err', hs⟩ := ih (h.write r s)
    refine ⟨d', out', err', ?_⟩
    rw [List.foldl_cons, hs, hw]

/-- **Logging changes** the records, the standard streams and log files, and nothing else. -/
theorem logRecord_frame (h : Host) (r : Log.Record) :
    ∃ d out err, h.logRecord r =
      { h with disk := d, out := out, err := err, log := { h.log with made := r :: h.log.made } } := by
  unfold logRecord
  simp only
  split
  · exact ⟨h.disk, h.out, h.err, rfl⟩
  · split
    · split
      · exact ⟨h.disk, h.out, _, rfl⟩
      · exact ⟨h.disk, h.out, h.err, rfl⟩
    · exact foldl_write_frame r _ _

/-- **A host that logs to the error stream at most**: all its sinks write there, if there are any. -/
def Quiet (h : Host) : Prop := ∀ s ∈ h.log.sinks, s = .tool

theorem quiet_of_no_sinks {h : Host} (hs : h.log.sinks = []) : h.Quiet := by
  unfold Quiet
  rw [hs]
  exact nofun

theorem foldl_write_quiet (r : Log.Record) {sinks : List Sink} (hq : ∀ s ∈ sinks, s = .tool)
    (h : Host) : ∃ err, sinks.foldl (fun h s => h.write r s) h = { h with err := err } := by
  induction sinks generalizing h with
  | nil => exact ⟨h.err, rfl⟩
  | cons s ss ih =>
    obtain ⟨rfl, hss⟩ := List.forall_mem_cons.mp hq
    obtain ⟨err, hrest⟩ := ih hss (h.write r .tool)
    exact ⟨err, hrest⟩

/-- A record on such a host is on the error stream, if it is anywhere. -/
theorem logRecord_quiet {h : Host} (r : Log.Record) (hq : h.Quiet) :
    ∃ err, h.logRecord r = { h with err := err, log := { h.log with made := r :: h.log.made } } := by
  unfold logRecord
  simp only
  split
  · exact ⟨h.err, rfl⟩
  · split
    · split
      · exact ⟨_, rfl⟩
      · exact ⟨h.err, rfl⟩
    · exact foldl_write_quiet r hq { h with log := { h.log with made := r :: h.log.made } }

/-! ## Any number of records -/

/-- A host after some records were logged. -/
def Logged (h h' : Host) : Prop := ∃ rs : List Log.Record, h' = rs.foldl logRecord h

namespace Logged

theorem refl (h : Host) : Logged h h := ⟨[], rfl⟩

theorem trans {h h' h'' : Host} (a : Logged h h') (b : Logged h' h'') : Logged h h'' := by
  obtain ⟨rs, rfl⟩ := a
  obtain ⟨rs', rfl⟩ := b
  exact ⟨rs ++ rs', by rw [List.foldl_append]⟩

theorem of_log (logger : String) (level : Int) (message : String) (fields : List (String × Value))
    (h : Host) : Logged h ((Act.log logger level message fields).on h).2 :=
  ⟨[{ logger := logger, level := level, message := message, file := logger
      extras := fields.map fun f => (.str f.1, f.2) }], rfl⟩

theorem frame {h h' : Host} (a : Logged h h') :
    ∃ d out err made, h' =
      { h with disk := d, out := out, err := err, log := { h.log with made := made } } := by
  obtain ⟨rs, rfl⟩ := a
  induction rs generalizing h with
  | nil => exact ⟨h.disk, h.out, h.err, h.log.made, rfl⟩
  | cons r rs ih =>
    obtain ⟨d, out, err, hr⟩ := h.logRecord_frame r
    obtain ⟨d', out', err', made', hs⟩ := ih (h := h.logRecord r)
    refine ⟨d', out', err', made', ?_⟩
    rw [List.foldl_cons, hs, hr]

/-- **On a quiet host**, logging writes on the error stream at most. -/
theorem frame_of_quiet {h h' : Host} (a : Logged h h') (hq : h.Quiet) :
    ∃ err made, h' = { h with err := err, log := { h.log with made := made } } := by
  obtain ⟨rs, rfl⟩ := a
  induction rs generalizing h with
  | nil => exact ⟨h.err, h.log.made, rfl⟩
  | cons r rs ih =>
    obtain ⟨err, hr⟩ := logRecord_quiet r hq
    obtain ⟨err', made', hrest⟩ := ih (h := h.logRecord r) (by rw [hr]; exact hq)
    refine ⟨err', made', ?_⟩
    rw [List.foldl_cons, hrest, hr]

theorem frame_of_no_sinks {h h' : Host} (a : Logged h h') (hs : h.log.sinks = []) :
    ∃ err made, h' = { h with err := err, log := { h.log with made := made } } :=
  a.frame_of_quiet (quiet_of_no_sinks hs)

/-- Faults that are to come are left alone. -/
theorem setModeFaults {h h' : Host} (a : Logged h h') : h'.setModeFaults = h.setModeFaults := by
  obtain ⟨_, _, _, _, rfl⟩ := a.frame
  rfl

/-- **Logging is no request.** -/
theorem trace {h h' : Host} (a : Logged h h') : h'.trace = h.trace := by
  obtain ⟨_, _, _, _, rfl⟩ := a.frame
  rfl

end Logged

end Host

/-- **What follows a log line** runs on a host after some records. -/
theorem Act.on_log_bind {α : Type} (logger : String) (level : Int) (message : String)
    (fields : List (String × Value)) (k : Unit → Act α) (h : Host) :
    ∃ h', Host.Logged h h' ∧ (Act.log logger level message fields >>= k).on h = (k ()).on h' :=
  ⟨_, Host.Logged.of_log logger level message fields h, rfl⟩

/-! ## Actions that do nothing but log -/

namespace Act

variable {α β : Type} {h : Host}

/-- **On a host, an action gives this outcome** and does nothing but log. -/
def Logs (act : Act α) (h : Host) (r : Except Failure α) : Prop :=
  ∃ h', Host.Logged h h' ∧ act.on h = (r, h')

theorem logs_of_on {act : Act α} {r : Except Failure α} (ha : act.on h = (r, h)) : act.Logs h r :=
  ⟨h, Host.Logged.refl h, ha⟩

theorem logs_log (logger : String) (level : Int) (message : String) (fields : List (String × Value))
    (h : Host) : (log logger level message fields).Logs h (.ok ()) :=
  ⟨_, Host.Logged.of_log logger level message fields h, rfl⟩

/-- What follows a question runs on the same host. -/
theorem logs_bind_ok {x : Act α} {k : α → Act β} {a : α} {r : Except Failure β}
    (hx : x.on h = (.ok a, h)) (hk : (k a).Logs h r) : (x >>= k).Logs h r := by
  obtain ⟨h₂, hlog, hon⟩ := hk
  exact ⟨h₂, hlog, by rw [on_bind_ok hx, hon]⟩

/-- What follows an action that logs runs on a host on which something was logged. -/
theorem Logs.bind_ok {x : Act α} {k : α → Act β} {a : α} {r : Except Failure β}
    (hx : x.Logs h (.ok a)) (hk : ∀ h₁, Host.Logged h h₁ → (k a).Logs h₁ r) :
    (x >>= k).Logs h r := by
  obtain ⟨h₁, hlog, hon⟩ := hx
  obtain ⟨h₂, hlog', hon'⟩ := hk h₁ hlog
  exact ⟨h₂, hlog.trans hlog', by rw [on_bind_ok hon, hon']⟩

theorem Logs.bind_error {x : Act α} {k : α → Act β} {f : Failure} (hx : x.Logs h (.error f)) :
    (x >>= k).Logs h (.error f) := by
  obtain ⟨h₁, hlog, hon⟩ := hx
  exact ⟨h₁, hlog, on_bind_error hon⟩

/-- What follows a computation. -/
theorem logs_ofExcept_bind {x : Except Failure α} {k : α → Act β} {r : α → Except Failure β}
    (hk : ∀ a, (k a).Logs h (r a)) : (ofExcept x >>= k).Logs h (x >>= r) := by
  rcases x with f | a
  · exact logs_of_on rfl
  · exact logs_bind_ok rfl (hk a)

end Act

end SecureStartup
