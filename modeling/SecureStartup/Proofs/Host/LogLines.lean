import SecureStartup.Proofs.Host.LogFiles

/-!
  Log lines come at the end of files.

  1. **The idea** — writing a line opens a file and puts the line behind what it holds, and putting a file
     aside sets no data at all.  So whatever logging does to names, every file keeps its mode and its
     bytes, with lines behind them at most (`Logged.lengthens`).  Nothing comes to a file that stands at
     no log place (`Logged.added`).

  2. **A file that is both** — a file may be a log file and something else as well, a keytab for
     instance.  Then what is logged comes to the keytab.  `LogsPlain` is the plainest such host: its one
     log file is never put aside, and one record is enough to change it (`LogsPlain.disk_ne`).
-/

namespace SecureStartup

/-- A file with some text behind what it held. -/
def FileData.lengthened (f : FileData) (more : String) : FileData :=
  { f with content := f.content ++ more }

theorem FileData.lengthened_empty (f : FileData) : f.lengthened "" = f := by
  unfold lengthened
  rw [String.append_empty]

theorem FileData.lengthened_lengthened (f : FileData) (more more' : String) :
    (f.lengthened more).lengthened more' = f.lengthened (more ++ more') := by
  unfold lengthened
  rw [String.append_assoc]

namespace Disk

/-- **A disk on which files have got longer**: files from before have the modes and the bytes that they
    had, and maybe more bytes behind them. -/
structure Lengthens (d d' : Disk) : Prop where
  nextId : d.nextId ≤ d'.nextId
  data : ∀ id < d.nextId, ∃ more, d'.data? id = (d.data? id).map (·.lengthened more)

theorem map_lengthened_empty (f : Option FileData) : f.map (·.lengthened "") = f := by
  rcases f with _ | f
  · rfl
  · exact congrArg some f.lengthened_empty

/-- Files that keep their data. -/
theorem lengthens_of_data {d d' : Disk} (hn : d.nextId ≤ d'.nextId)
    (hd : ∀ id < d.nextId, d'.data? id = d.data? id) : Lengthens d d' where
  nextId := hn
  data id hid := ⟨"", by rw [map_lengthened_empty, hd id hid]⟩

theorem Lengthens.refl (d : Disk) : Lengthens d d := lengthens_of_data (Nat.le_refl _) fun _ _ => rfl

theorem Lengthens.trans {d d' d'' : Disk} (a : Lengthens d d') (b : Lengthens d' d'') :
    Lengthens d d'' where
  nextId := Nat.le_trans a.nextId b.nextId
  data id hid := by
    obtain ⟨more, hm⟩ := a.data id hid
    obtain ⟨more', hm'⟩ := b.data id (Nat.lt_of_lt_of_le hid a.nextId)
    refine ⟨more ++ more', ?_⟩
    rw [hm', hm, Option.map_map]
    congr 1
    funext f
    exact f.lengthened_lengthened more more'

theorem lengthens_opens {d e : Disk} {fresh : Nat} {cwd : Location} {path : String} {o : Opened}
    (h : Opens d fresh cwd path o e) : Lengthens d e := by
  cases h with
  | file _ _ => exact Lengthens.refl d
  | special _ _ _ => exact Lengthens.refl d
  | new _ _ =>
    exact lengthens_of_data (Nat.le_succ _) fun id hid =>
      data?_addFile_of_ne d fresh _ (Nat.ne_of_lt hid)

/-- More bytes for a file that is open. -/
theorem lengthens_setContent (d : Disk) (id : Nat) (text : String) :
    Lengthens d (d.setContent id (d.held (.file id) ++ text)) where
  nextId := Nat.le_of_eq (nextId_setContent ..).symm
  data id' _ := by
    by_cases hid : id' = id
    · subst hid
      rcases hf : d.data? id' with _ | f
      · refine ⟨"", ?_⟩
        unfold setContent
        rw [hf]
        exact hf
      · have hheld : d.held (.file id') = f.content := by
          show ((d.data? id').map _).getD "" = _
          rw [hf]
          rfl
        refine ⟨text, ?_⟩
        rw [data?_setContent_self hf, hheld]
        rfl
    · refine ⟨"", ?_⟩
      rw [data?_setContent_of_ne d _ hid, map_lengthened_empty]

/-- A text at the end of a file. -/
theorem lengthens_append {d d' : Disk} {fresh : Nat} {cwd : Location} {path text : String}
    (h : d.append fresh cwd path text = .ok d') : Lengthens d d' := by
  unfold append at h
  rcases ho : d.openForWriting fresh cwd path with r | ⟨o, e⟩ <;> rw [ho] at h
  · exact nomatch h
  · refine (lengthens_opens (opens_of_ok ho)).trans ?_
    rcases fill_ok (d := e) h with ⟨id, rfl, rfl⟩ | ⟨_, _, rfl⟩
    · exact lengthens_setContent e id text
    · exact Lengthens.refl d'

end Disk

namespace Host

/-! ## Records -/

theorem turn_lengthens (h : Host) (file : Log.LogFile) :
    Disk.Lengthens h.disk (h.turn file).2.disk := by
  unfold turn
  split
  · exact Disk.Lengthens.refl h.disk
  · rename_i began _
    exact (file.putAside_keepsData began h.disk).elim Disk.lengthens_of_data

theorem writeLine_lengthens (h : Host) (file : Log.LogFile) (r : Log.Record) :
    Disk.Lengthens h.disk (h.writeLine file r).disk := by
  unfold writeLine
  split
  · split
    · rename_i hd
      exact Disk.lengthens_append hd
    · exact Disk.Lengthens.refl h.disk
  · exact Disk.Lengthens.refl h.disk

theorem write_lengthens (h : Host) (r : Log.Record) (sink : Sink) :
    Disk.Lengthens h.disk (h.write r sink).disk := by
  cases sink with
  | console level =>
    simp only [write]
    split
    · exact Disk.Lengthens.refl h.disk
    · split <;> exact Disk.Lengthens.refl h.disk
  | file level file =>
    have hturn := h.turn_lengthens file
    simp only [write]
    split
    · exact Disk.Lengthens.refl h.disk
    · rcases ht : h.turn file with ⟨_ | _, g⟩ <;> rw [ht] at hturn
      · exact hturn
      · exact hturn.trans (g.writeLine_lengthens file r)
  | tool => exact Disk.Lengthens.refl h.disk

theorem foldl_write_lengthens (r : Log.Record) (sinks : List Sink) (h : Host) :
    Disk.Lengthens h.disk (sinks.foldl (fun h s => h.write r s) h).disk := by
  induction sinks generalizing h with
  | nil => exact Disk.Lengthens.refl h.disk
  | cons s ss ih => exact (h.write_lengthens r s).trans (ih (h.write r s))

theorem logRecord_lengthens (h : Host) (r : Log.Record) :
    Disk.Lengthens h.disk (h.logRecord r).disk := by
  unfold logRecord
  simp only
  split
  · exact Disk.Lengthens.refl h.disk
  · split
    · split <;> exact Disk.Lengthens.refl h.disk
    · exact foldl_write_lengthens r h.log.sinks { h with log := { h.log with made := r :: h.log.made } }

/-- **Logging adds lines to files**, and takes no bytes away.  By induction on the records. -/
theorem Logged.lengthens {h h' : Host} (b : Logged h h') : Disk.Lengthens h.disk h'.disk := by
  obtain ⟨rs, rfl⟩ := b
  induction rs generalizing h with
  | nil => exact Disk.Lengthens.refl h.disk
  | cons r rs ih => exact (h.logRecord_lengthens r).trans ih

/-- **What logging adds to a file**: nothing, unless the file stands at a log place. -/
theorem Logged.added {h h' : Host} (b : Logged h h') {id : Nat} (hid : id < h.disk.nextId) :
    ∃ more, h'.disk.data? id = (h.disk.data? id).map (·.lengthened more) ∧
      (more ≠ "" → ∀ logs, h.LogsTo logs → Disk.IsLogFile logs h.disk id) := by
  by_cases hlog : ∀ logs, h.LogsTo logs → Disk.IsLogFile logs h.disk id
  · obtain ⟨more, hm⟩ := b.lengthens.data id hid
    exact ⟨more, hm, fun _ => hlog⟩
  · obtain ⟨logs, hlogs, hno⟩ : ∃ logs, h.LogsTo logs ∧ ¬ Disk.IsLogFile logs h.disk id := by
      simpa using hlog
    refine ⟨"", ?_, fun hne => absurd rfl hne⟩
    rw [(b.logsOnly hlogs).1.data id hid hno, Disk.map_lengthened_empty]

/-! ## Logging to one plain file -/

/-- **The log is a plain file**: everything is logged, as lines of one file that is never put aside. -/
structure LogsPlain (h : Host) (path : String) (id : Nat) (f : FileData) : Prop where
  rootLevel : h.log.rootLevel = Log.debug
  levels : h.log.levels = []
  sinks : h.log.sinks = [.file Log.debug ⟨path, false, .day, 7⟩]
  turns : h.logTurns = fun _ => none
  found : ∃ l, h.disk.walk h.workDir path .newFile = .ok (.found l (.file id))
  data : h.disk.data? id = some f
  mode : Disk.mayWrite f.mode = true

namespace LogsPlain

variable {h g : Host} {path : String} {id : Nat} {f : FileData}

/-- A line comes behind what the file holds, and nothing else of the disk is changed. -/
theorem logRecord (a : h.LogsPlain path id f) {r : Log.Record} (hr : Log.debug ≤ r.level) :
    (h.logRecord r).disk =
      h.disk.setContent id (f.content ++ (Log.plainLine h.now r ++ "\n")) := by
  obtain ⟨l, hwalk⟩ := a.found
  have happend : ∀ text, h.disk.append (h.granted 0o666) h.workDir path text =
      .ok (h.disk.setContent id (f.content ++ text)) := by
    intro text
    have hmode : Disk.mayWrite (h.disk.modeOf (.file id)) = true := by
      simp only [Disk.modeOf, a.data]
      exact a.mode
    unfold Disk.append
    rw [Disk.openForWriting_found hwalk, if_pos hmode]
    simp only [bind, Except.bind, Disk.fill, Disk.held, a.data]
    rfl
  -- Neither the logger nor the sink leaves the record out.
  have hlevel : levelFor h.log r.logger = Log.debug := by
    unfold levelFor
    rw [a.levels, a.rootLevel]
    rfl
  have hwritten : ¬ r.level < levelFor h.log r.logger := by
    rw [hlevel]
    omega
  have hdebug : ¬ r.level < Log.debug := by omega
  refine (congrArg Host.disk (if_neg hwritten)).trans ?_
  simp only [a.sinks, List.foldl_cons, List.foldl_nil, write, if_neg hdebug, turn, a.turns, writeLine,
    Bool.false_eq_true, if_false]
  split
  · rename_i d hd
    exact Except.ok.inj (hd.symm.trans (happend _))
  · rename_i hd
    have hno := hd.symm.trans (happend _)
    cases hno

/-- **One record is enough to change the disk**, whatever is logged after it. -/
theorem disk_ne (a : h.LogsPlain path id f) (hid : id < h.disk.nextId) {r : Log.Record}
    (hr : Log.debug ≤ r.level) (b : Logged (h.logRecord r) g) : g.disk ≠ h.disk := by
  intro he
  have hnext : id < (h.logRecord r).disk.nextId := Nat.lt_of_lt_of_le hid (h.logRecord_lengthens r).nextId
  obtain ⟨more, hmore⟩ := b.lengthens.data id hnext
  rw [he, a.logRecord hr, Disk.data?_setContent_self a.data, a.data] at hmore
  have htext : f.content = f.content ++ (Log.plainLine h.now r ++ "\n") ++ more :=
    congrArg FileData.content (Option.some.inj hmore)
  have hlength := congrArg String.length htext
  have hone : "\n".length = 1 := rfl
  simp only [String.length_append] at hlength
  omega

end LogsPlain

end Host

end SecureStartup
