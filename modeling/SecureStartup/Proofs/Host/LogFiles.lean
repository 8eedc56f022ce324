import SecureStartup.Proofs.Disk.Growth
import SecureStartup.Proofs.Host.Logging
import SecureStartup.Proofs.Log.Rotation

/-!
  Log files.

  Program: `setup_logging` puts a file handler beside the one for the console when a directory for log
  files is given.  The handler writes a line for every record that is not below its level, and puts its
  file aside first when a period is over; failures of it are not raised.

  1. **Where** — `LogsTo` says where that happens: every log file has its path among the log places, and
     so do the names beside it, if it is ever put aside.

  2. **All of it** — then this is all that logging does to the disk (`Logged.logsOnly`), record after
     record, and the log files have their paths still, whatever else the disk has gained since.

  3. **Lookups in between** — `Later` is a host some time later, on which the identity was looked up, the
     directory for temporary files was searched for, and log lines were written.
-/

namespace SecureStartup.Host

/-- Some log file will be put aside some time. -/
def Turns (h : Host) : Prop := ∃ n, (h.logTurns n).isSome

/-- **The log files of a host** have log places: those that their paths lead to, and, if files are put
    aside, all places beside them with names that begin with theirs. -/
structure LogsTo (logs : Set Location) (h : Host) : Prop where
  places : Disk.LogPlaces logs h.disk
  paths : ∀ level file, Sink.file level file ∈ h.log.sinks →
    ∃ dir base, Disk.LogPath logs h.Turns h.disk h.workDir file.path dir base

/-- A host without log files has no log places. -/
theorem logsTo_empty {h : Host} (hs : ∀ level file, Sink.file level file ∉ h.log.sinks) :
    LogsTo ∅ h := ⟨Disk.LogPlaces.empty h.disk, fun level file hf => absurd hf (hs level file)⟩

/-- What two hosts have to share for their paths and their logs to be the same. -/
structure SameSetting (h h' : Host) : Prop where
  workDir : h'.workDir = h.workDir
  sinks : h'.log.sinks = h.log.sinks
  logTurns : h'.logTurns = h.logTurns

theorem SameSetting.refl (h : Host) : SameSetting h h := ⟨rfl, rfl, rfl⟩

theorem SameSetting.trans {h h' h'' : Host} (a : SameSetting h h') (b : SameSetting h' h'') :
    SameSetting h h'' where
  workDir := b.workDir.trans a.workDir
  sinks := b.sinks.trans a.sinks
  logTurns := b.logTurns.trans a.logTurns

theorem Logged.sameSetting {h h' : Host} (a : Logged h h') : SameSetting h h' := by
  obtain ⟨_, _, _, _, rfl⟩ := a.frame
  exact ⟨rfl, rfl, rfl⟩

section LogsTo

variable {logs : Set Location} {h h' : Host}

/-- On a disk that keeps the ways, the log files are where they were. -/
theorem LogsTo.keeps (a : LogsTo logs h) (b : SameSetting h h')
    (hk : Disk.KeepsWays h.disk h'.disk) (hp : Disk.LogPlaces logs h'.disk) : LogsTo logs h' where
  places := hp
  paths level file hs := by
    rw [b.sinks] at hs
    obtain ⟨dir, base, hpath⟩ := a.paths level file hs
    refine ⟨dir, base, ?_⟩
    have hturns : h'.Turns = h.Turns := by
      unfold Turns
      rw [b.logTurns]
    rw [b.workDir, hturns]
    exact hpath.keeps a.places hk hp.noLinks

theorem LogsTo.logsOnly (a : LogsTo logs h) (b : SameSetting h h')
    (hd : Disk.LogsOnly logs h.disk h'.disk) : LogsTo logs h' :=
  a.keeps b (hd.ways a.places).keeps (hd.places a.places)

/-! ## Logging does what log files do -/

theorem turn_logsOnly (a : LogsTo logs h) {level : Int} {file : Log.LogFile}
    (hs : Sink.file level file ∈ h.log.sinks) :
    Disk.LogsOnly logs h.disk (h.turn file).2.disk := by
  obtain ⟨dir, base, hpath⟩ := a.paths level file hs
  unfold turn
  rcases ht : h.logTurns h.log.made.length with _ | began
  · exact Disk.LogsOnly.refl logs h.disk
  · have hturns : h.Turns := ⟨_, Option.isSome_iff_exists.mpr ⟨began, ht⟩⟩
    exact file.putAside_logsOnly began a.places hpath hturns

theorem writeLine_logsOnly (a : LogsTo logs h) {level : Int} {file : Log.LogFile}
    (hs : Sink.file level file ∈ h.log.sinks) (r : Log.Record) :
    Disk.LogsOnly logs h.disk (h.writeLine file r).disk := by
  obtain ⟨dir, base, hpath⟩ := a.paths level file hs
  unfold writeLine
  split
  · split
    · rename_i d hd
      exact hpath.append hd
    · exact Disk.LogsOnly.refl logs h.disk
  · exact Disk.LogsOnly.refl logs h.disk

theorem write_logsOnly (a : LogsTo logs h) (r : Log.Record) {sink : Sink}
    (hs : sink ∈ h.log.sinks) : Disk.LogsOnly logs h.disk (h.write r sink).disk := by
  cases sink with
  | console level =>
    simp only [write]
    split
    · exact Disk.LogsOnly.refl logs h.disk
    · split <;> exact Disk.LogsOnly.refl logs h.disk
  | file level file =>
    have hturn := turn_logsOnly a hs
    obtain ⟨d, hframe⟩ := h.turn_frame file
    simp only [write]
    split
    · exact Disk.LogsOnly.refl logs h.disk
    · -- the line comes after the turn
      rcases ht : h.turn file with ⟨_ | _, g⟩ <;> rw [ht] at hturn hframe <;> subst hframe
      · exact hturn
      · have a' : LogsTo logs { h with disk := d } := a.logsOnly ⟨rfl, rfl, rfl⟩ hturn
        exact hturn.trans (writeLine_logsOnly a' hs r)
  | tool => exact Disk.LogsOnly.refl logs h.disk

theorem foldl_write_logsOnly (r : Log.Record) (sinks : List Sink) {h : Host} (a : LogsTo logs h)
    (hs : ∀ s ∈ sinks, s ∈ h.log.sinks) :
    Disk.LogsOnly logs h.disk (sinks.foldl (fun h s => h.write r s) h).disk := by
  induction sinks generalizing h with
  | nil => exact Disk.LogsOnly.refl logs h.disk
  | cons s ss ih =>
    have hw := write_logsOnly a r (hs s (List.mem_cons_self ..))
    have hsame : SameSetting h (h.write r s) := by
      obtain ⟨_, _, _, he⟩ := h.write_frame r s
      rw [he]
      exact ⟨rfl, rfl, rfl⟩
    refine hw.trans (ih (a.logsOnly hsame hw) fun s' hs' => ?_)
    rw [hsame.sinks]
    exact hs s' (List.mem_cons_of_mem _ hs')

theorem logRecord_logsOnly (a : LogsTo logs h) (r : Log.Record) :
    Disk.LogsOnly logs h.disk (h.logRecord r).disk := by
  unfold logRecord
  simp only
  split
  · exact Disk.LogsOnly.refl logs h.disk
  · split
    · split <;> exact Disk.LogsOnly.refl logs h.disk
    · have a' : LogsTo logs { h with log := { h.log with made := r :: h.log.made } } :=
        a.keeps ⟨rfl, rfl, rfl⟩ (Disk.KeepsWays.refl h.disk) a.places
      exact foldl_write_logsOnly r h.log.sinks a' fun _ hs => hs

end LogsTo

/-- **Logging does what log files do**, in the log places, and leaves these as they are.  By induction
    on the records. -/
theorem Logged.logsOnly {logs : Set Location} {h h' : Host} (a : LogsTo logs h) (b : Logged h h') :
    Disk.LogsOnly logs h.disk h'.disk ∧ LogsTo logs h' := by
  obtain ⟨rs, rfl⟩ := b
  induction rs generalizing h with
  | nil => exact ⟨Disk.LogsOnly.refl logs h.disk, a⟩
  | cons r rs ih =>
    have hr := logRecord_logsOnly a r
    have hsame : SameSetting h (h.logRecord r) := by
      obtain ⟨_, _, _, he⟩ := h.logRecord_frame r
      rw [he]
      exact ⟨rfl, rfl, rfl⟩
    obtain ⟨hrest, hlogs⟩ := ih (a.logsOnly hsame hr)
    exact ⟨hr.trans hrest, hlogs⟩

/-! ## Looking up and logging -/

/-- **A host some time later**, on which nothing has happened but lookups of the identity, a search for
    the directory for temporary files, and log lines. -/
structure Later (logs : Set Location) (h g : Host) : Prop where
  /-- All the rest of the host is what it was. -/
  rest : ∃ d log out err trace answers tempDir, g =
    { h with
      disk := d, log := log, out := out, err := err, trace := trace, answers := answers
      tempDir := tempDir }
  setting : SameSetting h g
  disk : Disk.LogsOnly logs h.disk g.disk

namespace Later

variable {logs : Set Location} {h g k : Host}

theorem refl (logs : Set Location) (h : Host) : Later logs h h :=
  ⟨⟨_, _, _, _, _, _, _, rfl⟩, SameSetting.refl h, Disk.LogsOnly.refl logs h.disk⟩

theorem trans (a : Later logs h g) (b : Later logs g k) : Later logs h k := by
  obtain ⟨⟨_, _, _, _, _, _, _, rfl⟩, hset, hdisk⟩ := a
  obtain ⟨⟨_, _, _, _, _, _, _, rfl⟩, hset', hdisk'⟩ := b
  exact ⟨⟨_, _, _, _, _, _, _, rfl⟩, hset.trans hset', hdisk.trans hdisk'⟩

theorem of_logged (a : LogsTo logs h) (b : Logged h g) : Later logs h g := by
  have hdisk := (b.logsOnly a).1
  have hset := b.sameSetting
  obtain ⟨_, _, _, _, rfl⟩ := b.frame
  exact ⟨⟨_, _, _, _, _, _, _, rfl⟩, hset, hdisk⟩

theorem logsTo (b : Later logs h g) (a : LogsTo logs h) : LogsTo logs g :=
  a.logsOnly b.setting b.disk

end Later

end SecureStartup.Host
