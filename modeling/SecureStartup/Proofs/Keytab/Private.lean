import SecureStartup.Proofs.Keytab.Order
import SecureStartup.Proofs.Store.Copying

/-!
  Staged keytabs are private.

  1. **Program** — `SecureKeytabFetcher.fetch`: a staging makes a directory of its own, sets its mode,
     copies the keytab into it and sets the mode of the copy.

  2. **The idea** — that the directory is new does not rest on its name, since clocks and random
     sources may repeat, but on making it: a directory that is there already is a failure.  Making it
     gives it no more than the rights that the process does not withhold, so it is setting the mode
     that makes it private, and no file comes to it before that.

  3. **Invariant** — `Works`: the disk is the one from before with a new directory, and at most one
     file in it, which comes to a directory of mode 0700 only.  `At` says it for each stage of a
     staging, `ask_keeps` carries it over one request, successful or not, and `course_keeps` over all
     of them, by induction on the number of steps left.
-/

namespace SecureStartup

open SecureStartup.Disk

/-! ## The invariant -/

/-- Nothing has been made so far, seen from the host before. -/
structure Idle (h₀ h : Host) : Prop where
  setting : Host.SameSetting h₀ h
  disk : h.disk = h₀.disk

/-- **A staging at work** in the directory `l` that a path leads to: seen from the host before, the
    disk has this new directory, and at most one file in it.  No file comes to it before it is closed
    to others. -/
structure Works (logs : Set Location) (h₀ : Host) (path : String) (l : Location) (mode : Nat)
    (file : Option (String × Nat)) (h : Host) : Prop where
  setting : Host.SameSetting h₀ h
  start : h₀.LogsTo logs
  sound : h₀.disk.Sound
  place : ∃ dir name, l = dir ++ [name] ∧
    h₀.disk.walk h₀.workDir path .name = .ok (.free dir name)
  holding : Holding logs l mode file h₀.disk h.disk
  closed : ∀ f, file = some f → mode = stagingDirMode

namespace Works

variable {logs : Set Location} {h₀ h h' : Host} {path : String} {l : Location} {mode : Nat}
  {file : Option (String × Nat)}

/-- The directory was made in one. -/
theorem inside (a : Works logs h₀ path l mode file h) :
    ∃ m, h₀.disk.entryAt? l.dropLast = some (.directory m) := by
  obtain ⟨dir, name, rfl, hw⟩ := a.place
  obtain ⟨m, hm, _⟩ := (isFree_of_walk hw).directory
  rw [List.dropLast_concat]
  exact ⟨m, hm⟩

theorem ways (a : Works logs h₀ path l mode file h) : KeepsWays h₀.disk h.disk :=
  a.holding.ways a.start.places

/-- The log files have their places still. -/
theorem logsTo (a : Works logs h₀ path l mode file h) : h.LogsTo logs :=
  a.start.keeps a.setting a.ways (a.holding.places a.sound a.start.places a.inside)

/-- What follows for a host with the same setting and a disk that still holds the directory. -/
theorem next (a : Works logs h₀ path l mode file h) {mode' : Nat} {file' : Option (String × Nat)}
    (hset : Host.SameSetting h h') (hd : Holding logs l mode' file' h₀.disk h'.disk)
    (hc : ∀ f, file' = some f → mode' = stagingDirMode) : Works logs h₀ path l mode' file' h' where
  setting := a.setting.trans hset
  start := a.start
  sound := a.sound
  place := a.place
  holding := hd
  closed := hc

/-- A host that was only asked. -/
theorem asked (a : Works logs h₀ path l mode file h) (hset : Host.SameSetting h h')
    (hd : h'.disk = h.disk) : Works logs h₀ path l mode file h' :=
  a.next hset (hd ▸ a.holding) a.closed

/-- Logging on the way changes neither the directory nor the data of a new file. -/
theorem logged (a : Works logs h₀ path l mode file h) (b : Host.Logged h h') :
    Works logs h₀ path l mode file h' ∧ Disk.LogsOnly logs h.disk h'.disk := by
  obtain ⟨hd, _⟩ := b.logsOnly a.logsTo
  exact ⟨a.next b.sameSetting (a.holding.logged a.sound a.start.places hd) a.closed, hd⟩

/-- The data of a new file is not touched by logging. -/
theorem data_logged {n : String} {id : Nat} (a : Works logs h₀ path l mode (some (n, id)) h)
    (b : Host.Logged h h') : h'.disk.data? id = h.disk.data? id :=
  (a.logged b).2.data id (a.holding.new _ rfl).2 (a.holding.apart _ rfl)

/-- The path leads to the directory. -/
theorem stat (a : Works logs h₀ path l mode file h) :
    h.disk.stat h.workDir path = .ok (l, .directory mode) := by
  obtain ⟨dir, name, rfl, hw⟩ := a.place
  rw [a.setting.workDir]
  exact stat_into hw a.ways a.holding.directory

/-- The path of something in the directory leads into it. -/
theorem walk (a : Works logs h₀ path l mode file h) {n path' : String} (hn : IsName n)
    (hnames : pathNames path' = pathNames path ++ [n])
    (hroot : startsAtRoot path' = startsAtRoot path) (aim : Aim) :
    ∃ links, h.disk.walk h.workDir path' aim =
      if maxPath ≤ path'.utf8ByteSize then .error .nameTooLong
      else h.disk.walkFrom aim links l [n] := by
  obtain ⟨dir, name, rfl, hw⟩ := a.place
  rw [a.setting.workDir]
  exact walk_into hw a.ways a.holding.directory hn hnames hroot aim

/-- Where a file may be written: at a free place of the directory, if the path is not too long. -/
theorem walk_new (a : Works logs h₀ path l stagingDirMode none h) {n path' : String} (hn : IsName n)
    (hnames : pathNames path' = pathNames path ++ [n])
    (hroot : startsAtRoot path' = startsAtRoot path) :
    h.disk.walk h.workDir path' .newFile = .ok (.free l n) ∨
      h.disk.walk h.workDir path' .newFile = .error .nameTooLong := by
  obtain ⟨links, hw⟩ := a.walk hn hnames hroot .newFile
  have habsent : h.disk.entryAt? (l ++ [n]) = none :=
    a.holding.below _ (List.prefix_append l [n]) (child_ne l n)
  rw [hw, walkFrom_absent a.holding.directory (by decide) hn habsent]
  split
  · exact .inr rfl
  · split
    · exact .inr rfl
    · exact .inl rfl

/-- Where the path of the file leads: to the file, if it is not too long. -/
theorem stat_file {n : String} {id : Nat} (a : Works logs h₀ path l mode (some (n, id)) h)
    {path' : String} (hn : IsName n) (hnames : pathNames path' = pathNames path ++ [n])
    (hroot : startsAtRoot path' = startsAtRoot path) :
    h.disk.stat h.workDir path' = .ok (l ++ [n], .file id) ∨
      h.disk.stat h.workDir path' = .error .nameTooLong := by
  obtain rfl := a.closed _ rfl
  obtain ⟨links, hw⟩ := a.walk hn hnames hroot .target
  rw [walkFrom_file a.holding.directory (by decide) hn a.holding.entryAt?_file] at hw
  unfold Disk.stat
  rw [hw]
  by_cases hp : maxPath ≤ path'.utf8ByteSize
  · rw [if_pos hp]
    exact .inr rfl
  · rw [if_neg hp]
    by_cases hl : maxName < n.utf8ByteSize
    · rw [if_pos hl]
      exact .inr rfl
    · rw [if_neg hl]
      exact .inl rfl

end Works

namespace KeytabStager

/-! ## The requests, one by one -/

section Requests

variable {logs : Set Location} {h₀ h : Host} {path : String} {l : Location}

/-- **Making the directory** begins the work, or leaves everything as it was.  The rights that the
    process withholds are withheld from the directory. -/
theorem makeDir_keeps (hs : h₀.disk.Sound) (hl : h₀.LogsTo logs) (i : Idle h₀ h) (path : String) :
    (∃ f h', (makeDir path).on h = (.error f, h') ∧ Idle h₀ h') ∨
      ∃ l mode h', (makeDir path).on h = (.ok (), h') ∧ Works logs h₀ path l mode none h' := by
  have hidle : Idle h₀ (askedToMake h path) := ⟨i.setting.trans ⟨rfl, rfl, rfl⟩, i.disk⟩
  rw [makeDir_on]
  rcases (takeFault h.makeDirFaults).1 with _ | f
  -- a fault that is due, a path that no system can be given, and a refusal change nothing
  swap
  · exact .inl ⟨f, _, rfl, hidle⟩
  simp only
  rw [Act.on_changeDisk]
  rcases Invalid.forSystem? path with _ | why
  swap
  · exact .inl ⟨_, _, rfl, hidle⟩
  rcases hd : (askedToMake h path).disk.makeDir (askedToMake h path).workDir path
      (h.granted stagingDirMode) with r | d
  · exact .inl ⟨.refused r path, askedToMake h path, rfl, hidle⟩
  · have hd₀ : h₀.disk.makeDir h₀.workDir path (h.granted stagingDirMode) = .ok d := by
      rw [← hidle.disk, ← hidle.setting.workDir]
      exact hd
    obtain ⟨dir, name, hw, hold⟩ := holding_of_makeDir hs hd₀
    refine .inr ⟨dir ++ [name], h.granted stagingDirMode, { askedToMake h path with disk := d }, rfl, ?_⟩
    exact {
      setting := hidle.setting.trans ⟨rfl, rfl, rfl⟩
      start := hl
      sound := hs
      place := ⟨dir, name, rfl, hw⟩
      holding := hold logs
      closed := nofun }

/-- **Setting the mode of the directory** changes this mode only, and closes the directory when it
    succeeds. -/
theorem setMode_keeps {mode : Nat} (a : Works logs h₀ path l mode none h) :
    ∃ mode', Works logs h₀ path l mode' none ((setMode path stagingDirMode).on h).2 ∧
      (((setMode path stagingDirMode).on h).1 = .ok () → mode' = stagingDirMode) := by
  have hasked : Works logs h₀ path l mode none (askedToSet h path stagingDirMode) :=
    a.asked ⟨rfl, rfl, rfl⟩ rfl
  rw [setMode_on]
  rcases (takeFault h.setModeFaults).1 with _ | f
  swap
  · exact ⟨mode, hasked, nofun⟩
  simp only
  rw [Act.on_changeDisk]
  rcases Invalid.forSystem? path with _ | why
  swap
  · exact ⟨mode, hasked, nofun⟩
  simp only
  rw [setMode_directory hasked.stat]
  exact ⟨stagingDirMode, hasked.next ⟨rfl, rfl, rfl⟩ (hasked.holding.put _) nofun, fun _ => rfl⟩

/-- **Copying** adds at most one file; when it succeeds, the file has what the store holds. -/
theorem copy_keeps {store : SharedStore} {paths : String → Value → Except Failure String}
    {held : String → Host → String → Prop} (hf : store.Faithful paths held)
    (a : Works logs h₀ path l stagingDirMode none h) {n path' : String} (hn : IsName n)
    (hnames : pathNames path' = pathNames path ++ [n])
    (hroot : startsAtRoot path' = startsAtRoot path) (remote : String) :
    ∃ file, Works logs h₀ path l stagingDirMode file ((store.copy remote path' false).on h).2 ∧
      (((store.copy remote path' false).on h).1 = .ok () → ∃ id f, file = some (n, id) ∧
        ((store.copy remote path' false).on h).2.disk.data? id = some f ∧ held remote h f.content) := by
  obtain ⟨text, h₁, hwrote, hlogged, hok⟩ := hf.copy remote path' h
  rcases text with _ | t
  · -- nothing was written
    obtain ⟨hworks, _⟩ := (a.asked hwrote.setting hwrote.disk).logged hlogged
    refine ⟨none, hworks, fun hr => ?_⟩
    obtain ⟨t, ht, _⟩ := hok hr
    exact nomatch ht
  · -- a text was written, so the place was free
    have hwrite : h.disk.write (h.granted 0o666) h.workDir path' t = .ok h₁.disk := hwrote.disk
    have hwalk : h.disk.walk h.workDir path' .newFile = .ok (.free l n) := by
      rcases a.walk_new hn hnames hroot with hw | hw
      · exact hw
      · unfold Disk.write openForWriting at hwrite
        rw [hw] at hwrite
        exact nomatch hwrite
    obtain ⟨dir, name, rfl, _⟩ := a.place
    have hdir := a.inside
    rw [List.dropLast_concat] at hdir
    obtain ⟨hold, hdata⟩ := a.holding.write a.sound a.start.places hdir hwalk hwrite
    have hworks : Works logs h₀ path (dir ++ [name]) stagingDirMode (some (n, h.disk.nextId)) h₁ :=
      a.next hwrote.setting hold fun _ _ => rfl
    refine ⟨_, (hworks.logged hlogged).1, fun hr => ?_⟩
    obtain ⟨t', ht, hheld⟩ := hok hr
    cases ht
    exact ⟨h.disk.nextId, ⟨h.granted 0o666, t⟩, rfl, (hworks.data_logged hlogged).trans hdata, hheld⟩

/-- **Setting the mode of the copy** changes this mode only. -/
theorem protect_keeps {dirMode : Nat} {n : String} {id : Nat}
    (a : Works logs h₀ path l dirMode (some (n, id)) h)
    {f : FileData} (hdata : h.disk.data? id = some f) {path' : String} (hn : IsName n)
    (hnames : pathNames path' = pathNames path ++ [n])
    (hroot : startsAtRoot path' = startsAtRoot path) (mode : Nat) :
    Works logs h₀ path l dirMode (some (n, id)) ((setMode path' mode).on h).2 ∧
      (((setMode path' mode).on h).1 = .ok () →
        ((setMode path' mode).on h).2.disk.data? id = some { f with mode := mode } ∧
        ((setMode path' mode).on h).2.disk.stat ((setMode path' mode).on h).2.workDir path' =
          .ok (l ++ [n], .file id)) := by
  have hasked : Works logs h₀ path l dirMode (some (n, id)) (askedToSet h path' mode) :=
    a.asked ⟨rfl, rfl, rfl⟩ rfl
  rw [setMode_on]
  rcases (takeFault h.setModeFaults).1 with _ | fault
  swap
  · exact ⟨hasked, nofun⟩
  simp only
  rw [Act.on_changeDisk]
  rcases Invalid.forSystem? path' with _ | why
  swap
  · exact ⟨hasked, nofun⟩
  simp only
  -- The path leads to the file, unless it is too long to be walked; then nothing is changed.
  rcases hasked.stat_file hn hnames hroot with hstat | hstat
  · rw [setMode_file hstat hdata]
    have hwork : Works logs h₀ path l dirMode (some (n, id))
        { askedToSet h path' mode with
          disk := (askedToSet h path' mode).disk.setData id { f with mode := mode } } :=
      hasked.next ⟨rfl, rfl, rfl⟩ (hasked.holding.setData _) hasked.closed
    have hx : (askedToSet h path' mode).disk.Extends
        ((askedToSet h path' mode).disk.setData id { f with mode := mode }) := fun _ _ hm => hm
    exact ⟨hwork, fun _ => ⟨data?_setData_self _ id _, stat_extends hx hstat⟩⟩
  · have hset : (askedToSet h path' mode).disk.setMode (askedToSet h path' mode).workDir path' mode =
        .error .nameTooLong := by
      unfold Disk.setMode
      rw [hstat]
      rfl
    rw [hset]
    exact ⟨hasked, nofun⟩

end Requests

end KeytabStager

namespace Errand

open KeytabStager

variable (e : Errand)

/-! ## Stage by stage -/

/-- Seen from the host before, nothing has been made yet, or a staging is at work. -/
def Safe (logs : Set Location) (h₀ : Host) (path : String) (h : Host) : Prop :=
  Idle h₀ h ∨ ∃ l mode file, Works logs h₀ path l mode file h

/-- **What is known at each stage.**  `known` is where the store has the keytab, and
    `given remote text` says that the text is what the store was seen to hold at a path. -/
def At (known : Except Failure String) (given : String → String → Prop) (logs : Set Location)
    (h₀ : Host) : Stage → Host → Prop
  | .planned _, h => Idle h₀ h
  | .made dir, h => ∃ l mode, Works logs h₀ dir.text l mode none h
  | .closed dir, h => ∃ l, Works logs h₀ dir.text l stagingDirMode none h
  | .located dir remote, h => known = .ok remote ∧ ∃ l, Works logs h₀ dir.text l stagingDirMode none h
  | .copied dir remote, h => known = .ok remote ∧ ∃ l id f,
      Works logs h₀ dir.text l stagingDirMode (some (localName remote e.keytab, id)) h ∧
      h.disk.data? id = some f ∧ given remote f.content
  | .staged dir remote, h => known = .ok remote ∧ ∃ l id text,
      Works logs h₀ dir.text l stagingDirMode (some (localName remote e.keytab, id)) h ∧
      h.disk.data? id = some ⟨stagedKeytabMode, text⟩ ∧ given remote text ∧
      h.disk.stat h.workDir (e.file dir remote) =
        .ok (l ++ [localName remote e.keytab], .file id)

variable {e} {paths : String → Value → Except Failure String} {held : String → Host → String → Prop}
  {known : Except Failure String} {given : String → String → Prop} {logs : Set Location}
  {h₀ h h' : Host}

theorem At.safe {st : Stage} (a : e.At known given logs h₀ st h) : Safe logs h₀ st.dir.text h := by
  cases st with
  | planned dir => exact .inl a
  | made dir =>
    obtain ⟨l, mode, hw⟩ := a
    exact .inr ⟨l, mode, none, hw⟩
  | closed dir =>
    obtain ⟨l, hw⟩ := a
    exact .inr ⟨l, _, none, hw⟩
  | located dir remote =>
    obtain ⟨_, l, hw⟩ := a
    exact .inr ⟨l, _, none, hw⟩
  | copied dir remote =>
    obtain ⟨_, l, id, _, hw, _⟩ := a
    exact .inr ⟨l, _, _, hw⟩
  | staged dir remote =>
    obtain ⟨_, l, id, _, hw, _⟩ := a
    exact .inr ⟨l, _, _, hw⟩

/-- What is remarked goes into the log. -/
theorem remark_logged (e : Errand) (st : Stage) (h : Host) :
    Host.Logged h ((e.remark st).on h).2 := by
  cases st with
  | closed dir | staged dir remote => exact Host.Logged.of_log _ _ _ _ h
  | planned _ | made _ | located _ _ | copied _ _ => exact Host.Logged.refl h

/-- What goes into the log does not matter. -/
theorem At.remark {st : Stage} (a : e.At known given logs h₀ st h) :
    e.At known given logs h₀ st ((e.remark st).on h).2 := by
  have hlogged := e.remark_logged st h
  cases st with
  | planned _ | made _ | located _ _ | copied _ _ => exact a
  | closed dir =>
    obtain ⟨l, hw⟩ := a
    exact ⟨l, (hw.logged hlogged).1⟩
  | staged dir remote =>
    obtain ⟨hknown, l, id, text, hw, hdata, hgiven, hstat⟩ := a
    obtain ⟨hw', hd⟩ := hw.logged hlogged
    refine ⟨hknown, l, id, text, hw', (hw.data_logged hlogged).trans hdata, hgiven, ?_⟩
    rw [hlogged.sameSetting.workDir]
    exact stat_keeps (hd.ways hw.logsTo.places).keeps hstat hw'.holding.entryAt?_file

/-- **One request.**  Whether it succeeds or fails, the host afterwards is safe; when it succeeds,
    what is known at the next stage holds. -/
theorem ask_keeps (hf : e.store.Faithful paths held) (hs : h₀.disk.Sound) (hl : h₀.LogsTo logs)
    {st : Stage} (hdir : st.dir.EndsInPart)
    (hgiven : ∀ m t, e.request st = some (.copy m (e.file st.dir m) false) → held m h t → given m t)
    (a : e.At (paths e.keytab e.cluster) given logs h₀ st h) :
    Safe logs h₀ st.dir.text ((e.ask st).on h).2 ∧
      ∀ st', ((e.ask st).on h).1 = .ok st' →
        e.At (paths e.keytab e.cluster) given logs h₀ st' ((e.ask st).on h).2 := by
  -- Stage by stage: what is known there gives what the request keeps, and what is known after it.
  cases st with
  | planned dir =>
    rw [ask, Act.on_bind_pure]
    have hmake := makeDir_keeps hs hl a dir.text
    rcases hmake with ⟨f, h', hm, hi⟩ | ⟨l, mode, h', hm, hw⟩ <;> rw [hm]
    · refine ⟨.inl hi, fun st' hst => ?_⟩
      cases hst
    · refine ⟨.inr ⟨l, mode, none, hw⟩, fun st' hst => ?_⟩
      cases hst
      exact ⟨l, mode, hw⟩
  | made dir =>
    obtain ⟨l, mode, hw⟩ := a
    obtain ⟨mode', hw', hok⟩ := setMode_keeps hw
    rw [ask, Act.on_bind_pure]
    refine ⟨.inr ⟨l, mode', none, hw'⟩, fun st' hst => ?_⟩
    rcases hx : ((setMode dir.text stagingDirMode).on h).1 with f | u <;> rw [hx] at hst
    · cases hst
    · cases hst
      exact ⟨l, hok hx ▸ hw'⟩
  | closed dir =>
    obtain ⟨l, hw⟩ := a
    rw [ask, Act.on_bind_pure, hf.build]
    refine ⟨.inr ⟨l, _, none, hw⟩, fun st' hst => ?_⟩
    rcases hp : paths e.keytab e.cluster with f | remote <;> rw [hp] at hst
    · cases hst
    · cases hst
      exact ⟨rfl, l, hw⟩
  | located dir remote =>
    obtain ⟨hknown, l, hw⟩ := a
    obtain ⟨hn, hpart⟩ := localName_isName (hf.names _ _ _ hknown) e.keytab
    obtain ⟨hnames, hroot⟩ := hdir.pathNames_child hpart
    obtain ⟨file, hw', hok⟩ := copy_keeps hf hw hn hnames hroot remote
    rw [ask, Act.on_bind_pure]
    refine ⟨.inr ⟨l, _, file, hw'⟩, fun st' hst => ?_⟩
    rcases hx : ((e.store.copy remote (e.file dir remote) false).on h).1 with f | u <;>
      rw [hx] at hst
    · cases hst
    · cases hst
      obtain ⟨id, f, rfl, hdata, hheld⟩ := hok hx
      exact ⟨hknown, l, id, f, hw', hdata, hgiven _ _ rfl hheld⟩
  | copied dir remote =>
    obtain ⟨hknown, l, id, f, hw, hdata, hcontent⟩ := a
    obtain ⟨hn, hpart⟩ := localName_isName (hf.names _ _ _ hknown) e.keytab
    obtain ⟨hnames, hroot⟩ := hdir.pathNames_child hpart
    obtain ⟨hw', hok⟩ := protect_keeps hw hdata hn hnames hroot stagedKeytabMode
    rw [ask, Act.on_bind_pure]
    refine ⟨.inr ⟨l, _, _, hw'⟩, fun st' hst => ?_⟩
    rcases hx : ((setMode (e.file dir remote) stagedKeytabMode).on h).1 with g | u <;> rw [hx] at hst
    · cases hst
    · cases hst
      obtain ⟨hdata', hstat⟩ := hok hx
      exact ⟨hknown, l, id, f.content, hw', hdata', hcontent, hstat⟩
  | staged dir remote =>
    refine ⟨a.safe, fun st' hst => ?_⟩
    cases hst
    exact a

/-- **All requests.**  By induction on the number of steps left: what is known at a stage holds when
    its request is made, every host on the way is safe, and a path that is returned at the end is that
    of a staged keytab. -/
theorem course_keeps (hf : e.store.Faithful paths held) (hs : h₀.disk.Sound) (hl : h₀.LogsTo logs)
    (n : Nat) {st : Stage} (hn : st.passed + n = 5) (hends : st.dir.EndsInPart)
    (hgiven : ∀ q ∈ (e.course n st h).replies, ∀ m t,
      q.request = .copy m (e.file st.dir m) false → held m q.before t → given m t)
    (a : e.At (paths e.keytab e.cluster) given logs h₀ st h) :
    (∀ q ∈ (e.course n st h).replies, Safe logs h₀ st.dir.text q.after ∧
      ∃ st', st'.dir = st.dir ∧ e.request st' = some q.request ∧
        e.At (paths e.keytab e.cluster) given logs h₀ st' q.before) ∧
      Safe logs h₀ st.dir.text (e.course n st h).after ∧
      ∀ file, (e.course n st h).outcome = .ok file → ∃ remote, file = e.file st.dir remote ∧
        e.At (paths e.keytab e.cluster) given logs h₀ (.staged st.dir remote)
          (e.course n st h).after := by
  induction n generalizing st h with
  | zero =>
    have h5 : st.passed = 5 := hn
    rw [course_of_none e (e.request_eq_none.mpr h5)]
    refine ⟨fun q hq => absurd hq List.not_mem_nil, a.safe, fun file hfile => ?_⟩
    have hanswer : e.answer st = file := Except.ok.inj hfile
    cases st with
    | staged dir remote => exact ⟨remote, hanswer.symm, a⟩
    | planned _ | made _ | closed _ | located _ _ | copied _ _ => exact nomatch h5
  | succ n ih =>
    rcases hr : e.request st with _ | r
    · have h5 : st.passed = 5 := e.request_eq_none.mp hr
      omega
    have hlt : st.passed < 5 := by omega
    rcases hx : (e.ask st).on h with ⟨f | st', h'⟩
    · -- the request fails
      rw [course_of_error e hr hx] at hgiven ⊢
      have hkeep := ask_keeps hf hs hl hends
        (fun m t hreq hheld => hgiven _ (List.mem_singleton.mpr rfl) m t
          (Option.some.inj (hr.symm.trans hreq)) hheld) a
      rw [hx] at hkeep
      refine ⟨fun q hq => ?_, hkeep.1, nofun⟩
      cases List.mem_singleton.mp hq
      exact ⟨hkeep.1, st, rfl, hr, a⟩
    · -- the request succeeds
      rw [course_of_ok e hr hx] at hgiven ⊢
      have hkeep := ask_keeps hf hs hl hends
        (fun m t hreq hheld => hgiven _ (List.mem_cons_self ..) m t
          (Option.some.inj (hr.symm.trans hreq)) hheld) a
      rw [hx] at hkeep
      obtain ⟨hp, hdir, _⟩ := e.ask_ok hlt hx
      have hrest := ih (by omega) (hdir ▸ hends)
        (fun q hq => hdir ▸ hgiven q (List.mem_cons_of_mem _ hq)) (hkeep.2 st' rfl).remark
      rw [hdir] at hrest
      refine ⟨fun q hq => ?_, hrest.2.1, hrest.2.2⟩
      rcases List.mem_cons.mp hq with rfl | hq
      · exact ⟨hkeep.1, st, rfl, hr, a⟩
      · exact hrest.1 q hq

end Errand

end SecureStartup
