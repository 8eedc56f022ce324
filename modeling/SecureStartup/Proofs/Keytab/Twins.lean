import SecureStartup.Proofs.Disk.Arrival
import SecureStartup.Proofs.Disk.Growth
import SecureStartup.Proofs.Keytab.Order
import SecureStartup.Proofs.Store.Twins

/-!
  Two stagings of different bytes.

  1. **Program** — a staging makes five requests, and twins answer each of them alike; the copy is the
     one after which they may differ in one file more.

  2. **The idea** — a copy could be told apart by its bytes if it came to a special file that takes
     none, or to a log file that is put aside.  It comes to neither: the directory is new, so on an
     orderly host nothing lies in it (`Made.ready`), and from then on nothing comes there but files
     (`Ready.logged`).  So every name in the directory is one where a copy may come (`Ready.takes`).

  3. **Result** — two stagings from stores that are alike end alike, whichever request fails, and what
     they leave differs in the copy only (`alike_fetch`).  The copy lies in the directory of the
     staging, and when a path is returned, the path leads to it.
-/

namespace SecureStartup

open SecureStartup.Disk SecureStartup.Host

/-! ## Stores that record -/

namespace SharedStore

/-- An action with one record of it, in place of all that it records itself. -/
def asOne {α : Type} (e : Event) (act : Act α) : Act α := fun h =>
  let (answer, h') := act.on (h.note e)
  (answer, { h' with trace := e :: h.trace })

theorem alike_asOne {α β : Type} {before failed : Host → Host → Prop} {x : Act α} {y : Act β}
    {after : α → β → Host → Host → Prop} (e : Event)
    (hbefore : ∀ h h', before h h' → h'.trace = h.trace ∧
      ∀ trace, before { h with trace := trace } { h' with trace := trace })
    (a : Act.Alike before x y after failed)
    (hafter : ∀ u v g g' trace, after u v g g' →
      after u v { g with trace := trace } { g' with trace := trace })
    (hfailed : ∀ g g' trace, failed g g' →
      failed { g with trace := trace } { g' with trace := trace }) :
    Act.Alike before (asOne e x) (asOne e y) after failed := by
  intro h h' hrel
  obtain ⟨htrace, hany⟩ := hbefore h h' hrel
  have hon : ∀ (γ : Type) (act : Act γ) (k : Host), (asOne e act).on k =
      ((act.on (k.note e)).1, { (act.on (k.note e)).2 with trace := e :: k.trace }) :=
    fun _ _ _ => rfl
  have hnoted : before (h.note e) (h'.note e) := by
    unfold Host.note
    rw [htrace]
    exact hany _
  rw [hon, hon, htrace]
  rcases a _ _ hnoted with ⟨f, g, g', hx, hy, hg⟩ | ⟨u, v, g, g', hx, hy, hg⟩
  · rw [hx, hy]
    exact .inl ⟨f, _, _, rfl, rfl, hfailed g g' _ hg⟩
  · rw [hx, hy]
    exact .inr ⟨u, v, _, _, rfl, rfl, hafter u v g g' _ hg⟩

/-- A record of it changes nothing about where a copy may come. -/
theorem takes_with_trace {h : Host} {target : String} (a : h.Takes target) (trace : List Event) :
    ({ h with trace := trace } : Host).Takes target :=
  ⟨a.plain, a.spared.same_disk ⟨rfl, rfl, rfl⟩ rfl⟩

theorem Alike.recorded {store store' : SharedStore} (a : store.Alike store') :
    store.recorded.Alike store'.recorded where
  build {rel} s keytab cluster := by
    have hbefore : ∀ h h', rel h h' → h'.trace = h.trace ∧
        ∀ trace, rel { h with trace := trace } { h' with trace := trace } := fun h h' hrel =>
      ⟨by rw [s.rest hrel], s.with_trace hrel⟩
    exact alike_asOne (.build keytab cluster) hbefore (a.build s keytab cluster)
      (fun _ _ _ _ trace b => ⟨b.1, s.with_trace b.2 trace⟩) fun _ _ trace b => s.with_trace b trace
  -- what is recorded around the question does not change its answer
  names keytab cluster h remote g hon := by
    rcases hb : (store.build keytab cluster).on (h.note (.build keytab cluster)) with ⟨r, g'⟩
    have hrec : (store.recorded.build keytab cluster).on h =
        (r, { g' with trace := .build keytab cluster :: h.trace }) := by
      show (((store.build keytab cluster).on (h.note (.build keytab cluster))).1,
        { ((store.build keytab cluster).on (h.note (.build keytab cluster))).2 with
          trace := .build keytab cluster :: h.trace }) = _
      rw [hb]
    rw [hrec] at hon
    cases hon
    exact a.names keytab cluster _ remote g' hb
  copy secret remote target := by
    have s := steady_copiedIn (· = target) secret
    have hbefore : ∀ h h', h.Takes target ∧ Twins secret h h' → h'.trace = h.trace ∧
        ∀ trace, ({ h with trace := trace } : Host).Takes target ∧
          Twins secret { h with trace := trace } { h' with trace := trace } := fun h h' b =>
      ⟨by rw [b.2.rest], fun trace =>
        ⟨takes_with_trace b.1 trace, (steady_twins secret).with_trace b.2 trace⟩⟩
    exact alike_asOne (.copy remote target false) hbefore (a.copy secret remote target)
      (fun _ _ _ _ trace b => s.with_trace b trace) fun _ _ trace b => s.with_trace b trace

end SharedStore

/-! ## A new directory -/

/-- **A directory was just made** at the end of a path, on a host that was orderly. -/
structure Made (path : String) (h : Host) : Prop where
  made : ∃ d dir name mode, d.walk h.workDir path .name = .ok (.free dir name) ∧
    h.disk = d.put (dir ++ [name]) (.directory mode) ∧ Orderly { h with disk := d }

/-- **A directory is ready for a copy**, at the end of a path: the owner may search it, nothing lies
    in it but files, and log files spare it.  (On a host without special files that never puts its log
    aside, this does not matter.) -/
def Ready (path : String) (h : Host) : Prop :=
  (¬ h.Turns ∧ ∀ l s, h.disk.entryAt? l ≠ some (.special s)) ∨
    ∃ l, h.disk.stat h.workDir path = .ok (l, .directory stagingDirMode) ∧
      (∀ n, h.disk.entryAt? (l ++ [n]) = none ∨
        ∃ id, h.disk.entryAt? (l ++ [n]) = some (.file id)) ∧
      h.LogsSpare { m | ∃ n, m = l ++ [n] }

section Directory

variable {path : String} {h h' : Host}

/-- What the disk says of a path is the same for a host that was asked meanwhile. -/
theorem Made.asked (a : Made path h) (b : SameSetting h h') (hd : h'.disk = h.disk) :
    Made path h' := by
  obtain ⟨d, dir, name, mode, hw, hdisk, horder⟩ := a.made
  refine ⟨d, dir, name, mode, b.workDir ▸ hw, hd.trans hdisk, ?_⟩
  exact horder.same_disk ⟨b.workDir, b.sinks, b.logTurns⟩ rfl

/-- **A new directory is ready** once its mode is set. -/
theorem Made.ready (a : Made path h) {d : Disk}
    (hd : h.disk.setMode h.workDir path stagingDirMode = .ok d) :
    Ready path { h with disk := d } := by
  obtain ⟨d₀, dir, name, mode, hw, hdisk, horder⟩ := a.made
  have hfree := isFree_of_walk hw
  have hne : dir ++ [name] ≠ [] := List.append_ne_nil_of_right_ne_nil _ (List.cons_ne_nil _ _)
  have hmade : h.disk.entryAt? (dir ++ [name]) = some (.directory mode) := by
    rw [hdisk]
    exact entryAt?_put_self d₀ _ _ hne
  have hkept : KeepsWays d₀ h.disk := by
    intro l e _ he
    have hl : l ≠ dir ++ [name] := fun hl => nomatch (hl ▸ hfree.absent).symm.trans he
    rw [hdisk, entryAt?_put_of_ne d₀ _ hl, he]
  rw [setMode_directory (stat_into hw hkept hmade)] at hd
  cases hd
  -- Its mode is set: it stands where it was made, and everything else stands where it stood.
  have hnew : (h.disk.put (dir ++ [name]) (.directory stagingDirMode)).entryAt? (dir ++ [name]) =
      some (.directory stagingDirMode) := entryAt?_put_self _ _ _ hne
  have hother : ∀ l, l ≠ dir ++ [name] →
      (h.disk.put (dir ++ [name]) (.directory stagingDirMode)).entryAt? l = d₀.entryAt? l :=
    fun l hl => by rw [entryAt?_put_of_ne _ _ hl, hdisk, entryAt?_put_of_ne _ _ hl]
  have hways : KeepsWays d₀ (h.disk.put (dir ++ [name]) (.directory stagingDirMode)) := by
    intro l e _ he
    have hl : l ≠ dir ++ [name] := fun hl => nomatch (hl ▸ hfree.absent).symm.trans he
    exact (hother l hl).trans he
  rcases horder with ⟨hn, hs⟩ | ⟨htree, hlogs⟩
  · refine .inl ⟨hn, fun l s he => ?_⟩
    by_cases hl : l = dir ++ [name]
    · rw [hl] at he
      exact nomatch hnew.symm.trans he
    · exact hs l s ((hother l hl).symm.trans he)
  · -- what lies in it would have lain in no directory before
    have hempty : ∀ n, d₀.entryAt? (dir ++ [name] ++ [n]) = none := by
      intro n
      rcases he : d₀.entryAt? (dir ++ [name] ++ [n]) with _ | e
      · rfl
      · obtain ⟨m, hm⟩ := htree _ n e he
        exact nomatch hfree.absent.symm.trans hm
    refine .inr ⟨dir ++ [name], stat_into hw hways hnew, fun n => ?_, fun ht => ?_⟩
    · exact .inl ((hother _ (child_ne _ n)).trans (hempty n))
    · obtain ⟨logs, hl⟩ := hlogs ht
      obtain ⟨m, hm, _⟩ := hfree.directory
      refine ⟨logs, hl.keeps ⟨rfl, rfl, rfl⟩ hways ?_, ?_⟩
      · exact hl.places.added ⟨m, hm⟩ hfree.absent hnew (fun _ => nofun) hother
      · rintro _ ⟨n, rfl⟩ hlog
        obtain ⟨m, hm⟩ := hl.places.inside _ hlog
        rw [List.dropLast_concat] at hm
        exact nomatch hfree.absent.symm.trans hm

/-- Logging keeps a directory ready. -/
theorem Ready.logged (a : Ready path h) (b : Logged h h') : Ready path h' := by
  rcases a with ⟨hn, hs⟩ | ⟨l, hstat, hfiles, hspare⟩
  · exact .inl ⟨b.sameSetting.turns ▸ hn, b.noSpecials hn hs⟩
  · obtain ⟨hd, hspare'⟩ := b.spares hspare
    have hdir := (hd.ways l _ rfl).mpr (entryAt?_of_walk (stat_eq_ok.mp hstat))
    refine .inr ⟨l, ?_, fun n => ?_, hspare'⟩
    · rw [b.sameSetting.workDir]
      exact stat_keeps hd.ways.keeps hstat hdir
    · rcases hd.entries (l ++ [n]) ⟨n, rfl⟩ with he | ⟨_, id, hid⟩
      · rw [he]
        exact hfiles n
      · exact .inr ⟨id, hid⟩

/-- So does asking. -/
theorem Ready.same_disk (a : Ready path h) (b : SameSetting h h') (hd : h'.disk = h.disk) :
    Ready path h' := by
  unfold Ready
  rw [b.turns, b.workDir, hd]
  refine a.imp_right ?_
  rintro ⟨l, hstat, hfiles, hspare⟩
  exact ⟨l, hstat, hfiles, hspare.same_disk b hd⟩

/-- **A copy may come to every name** in a directory that is ready. -/
theorem Ready.takes {dir : PurePath} (a : Ready dir.text h) (hdir : dir.EndsInPart) {name : String}
    (hn : IsName name) (hpart : IsPart name.toList) : h.Takes (dir.child name).text := by
  obtain ⟨hnames, hroot⟩ := hdir.pathNames_child hpart
  rcases a with ⟨hturns, hs⟩ | ⟨l, hstat, hfiles, hspare⟩
  · refine ⟨fun l s hw => hs l s (entryAt?_of_walk hw), fun ht => absurd ht hturns⟩
  · have hplace : ∀ p, h.disk.walk h.workDir (dir.child name).text .newFile = .ok p →
        p = h.disk.placeAt l name := by
      intro p hp
      obtain ⟨links, hw⟩ := walk_below hstat hn.ne_empty hnames hroot .newFile
      have hnolink : ∀ target, h.disk.entryAt? (l ++ [name]) ≠ some (.link target) := by
        intro target he
        rcases hfiles name with hf | ⟨_, hf⟩ <;> exact nomatch hf.symm.trans he
      rw [hw, walkFrom_last (entryAt?_of_walk (stat_eq_ok.mp hstat)) (by decide) hn hnolink] at hp
      split at hp
      · exact nomatch hp
      · split at hp
        · exact nomatch hp
        · exact (Except.ok.inj hp).symm
    refine ⟨fun m s hw => ?_, hspare.mono ?_⟩
    · obtain ⟨rfl, he⟩ := placeAt_eq_found (hplace _ hw).symm
      rcases hfiles name with hf | ⟨_, hf⟩ <;> exact nomatch hf.symm.trans he
    · rintro m (⟨id, hw⟩ | ⟨up, last, hw, rfl⟩)
      · obtain ⟨rfl, _⟩ := placeAt_eq_found (hplace _ hw).symm
        exact ⟨name, rfl⟩
      · obtain ⟨rfl, rfl, _⟩ := placeAt_eq_free (hplace _ hw).symm
        exact ⟨last, rfl⟩

end Directory

/-! ## Stagings -/

namespace KeytabStager

open Act

variable {before failed rel : Host → Host → Prop} {after : Host → Host → Prop} {secret : List Nat}

theorem steady_ready (path : String) (secret : List Nat) :
    Steady fun h h' => Ready path h ∧ Twins secret h h' :=
  (steady_twins secret).and_left (fun _ r a => a.logged ⟨[r], rfl⟩)
    fun _ _ _ _ _ _ a => a.same_disk ⟨rfl, rfl, rfl⟩ rfl

/-- A step that fails says why in words that are the same on both hosts. -/
theorem alike_stagingStep (issue : (reason : String) → SetupIssue)
    (hf : ∀ g g', failed g g' → g'.words = g.words) {act : Act Unit}
    (a : Alike before act act (fun _ _ => after) failed) :
    Alike before (stagingStep issue act) (stagingStep issue act) (fun _ _ => after) failed := by
  unfold stagingStep
  refine a.tryCatch fun f => ?_
  split
  · refine alike_get_bind fun g g' hrel => ?_
    rw [hf g g' hrel]
    exact (keeps_ofExcept _).then fun reason => Alike.throw _ fun _ _ b => b
  · exact Alike.throw _ fun _ _ b => b

theorem words_of_twins {g g' : Host} (a : Twins secret g g') : g'.words = g.words := by rw [a.rest]

/-- **A directory is made**, or it is not, on both hosts. -/
theorem alike_makeDir (secret : List Nat) (path : String) :
    Alike (fun h h' => Orderly h ∧ Twins secret h h') (makeDir path) (makeDir path)
      (fun _ _ g g' => Made path g ∧ Twins secret g g') (Twins secret) := by
  rintro h h' ⟨horder, a⟩
  have hasked : Orderly (askedToMake h path) ∧
      Twins secret (askedToMake h path) (askedToMake h' path) := by
    refine ⟨horder.same_disk ⟨rfl, rfl, rfl⟩ rfl, ?_⟩
    have hset := (steady_twins secret).asked (.makeDir path (modeText stagingDirMode) :: h.trace)
      h.answers (takeFault h.makeDirFaults).2 h.setModeFaults h.tempDir a
    rw [a.rest] at hset ⊢
    exact hset
  have hfaults : h'.makeDirFaults = h.makeDirFaults := by rw [a.rest]
  -- Both hosts have the same faults due, and withhold the same rights.
  have hgranted : h'.granted stagingDirMode = h.granted stagingDirMode := by
    unfold Host.granted
    rw [a.rest]
  rw [makeDir_on, makeDir_on, hfaults, hgranted]
  rcases (takeFault h.makeDirFaults).1 with _ | f
  swap
  · exact .inl ⟨f, _, _, rfl, rfl, hasked.2⟩
  · have hmake : Alike (fun g g' => Orderly g ∧ Twins secret g g')
        (changeDisk path fun d cwd => d.makeDir cwd path (h.granted stagingDirMode))
        (changeDisk path fun d cwd => d.makeDir cwd path (h.granted stagingDirMode))
        (fun _ _ g g' => Made path g ∧ Twins secret g g')
        (fun g g' => Orderly g ∧ Twins secret g g') := by
      refine alike_changeDisk fun g g' b => ?_
      have hboth := b.2.on_disks _ (·.makeDir · path (h.granted stagingDirMode))
        (·.makeDir · path (h.granted stagingDirMode))
        fun cwd => b.2.disk.makeDir cwd path (h.granted stagingDirMode)
      refine hboth.with_run.mono fun d d' hd => ?_
      obtain ⟨hrun, _, hsame⟩ := hd
      obtain ⟨dir, name, hw, rfl⟩ := makeDir_ok hrun
      exact ⟨⟨⟨g.disk, dir, name, _, hw, rfl, b.1⟩⟩, b.2.with_disk hsame⟩
    exact (hmake.failing fun _ _ b => b.2) _ _ hasked

/-- A mode is set, or it is not, on both hosts, if that is so once no fault is due. -/
theorem alike_setMode {path : String} {mode : Nat}
    (hasked : ∀ h h', before h h' → h'.setModeFaults = h.setModeFaults ∧
      before (askedToSet h path mode) (askedToSet h' path mode))
    (hset : Alike before (changeDisk path fun d cwd => d.setMode cwd path mode)
      (changeDisk path fun d cwd => d.setMode cwd path mode) (fun _ _ => after) failed)
    (hf : ∀ g g', before g g' → failed g g') :
    Alike before (setMode path mode) (setMode path mode) (fun _ _ => after) failed := by
  intro h h' a
  obtain ⟨hfaults, hnow⟩ := hasked h h' a
  rw [setMode_on, setMode_on, hfaults]
  rcases (takeFault h.setModeFaults).1 with _ | f
  · exact hset _ _ hnow
  · exact .inl ⟨f, _, _, rfl, rfl, hf _ _ hnow⟩

/-- Being asked to set a mode keeps a steady relation. -/
theorem asked_of_steady (s : Steady rel) (path : String) (mode : Nat) (h h' : Host) (a : rel h h') :
    h'.setModeFaults = h.setModeFaults ∧ rel (askedToSet h path mode) (askedToSet h' path mode) := by
  have hset := s.asked (.setMode path (modeText mode) :: h.trace) h.answers h.makeDirFaults
    (takeFault h.setModeFaults).2 h.tempDir a
  rw [s.rest a] at hset ⊢
  exact ⟨rfl, hset⟩

/-- **A new directory gets its mode**, or it does not, on both hosts. -/
theorem alike_setMode_made (secret : List Nat) (path : String) :
    Alike (fun h h' => Made path h ∧ Twins secret h h') (setMode path stagingDirMode)
      (setMode path stagingDirMode) (fun _ _ g g' => Ready path g ∧ Twins secret g g')
      (Twins secret) := by
  refine alike_setMode (fun h h' a => ?_) ?_ fun _ _ b => b.2
  · obtain ⟨hfaults, htwins⟩ := asked_of_steady (steady_twins secret) path stagingDirMode h h' a.2
    exact ⟨hfaults, a.1.asked ⟨rfl, rfl, rfl⟩ rfl, htwins⟩
  · have hset : Alike (fun h h' => Made path h ∧ Twins secret h h')
        (changeDisk path fun d cwd => d.setMode cwd path stagingDirMode)
        (changeDisk path fun d cwd => d.setMode cwd path stagingDirMode)
        (fun _ _ g g' => Ready path g ∧ Twins secret g g')
        (fun h h' => Made path h ∧ Twins secret h h') := by
      refine alike_changeDisk fun g g' b => ?_
      have hboth := b.2.on_disks _ (·.setMode · path stagingDirMode) (·.setMode · path stagingDirMode)
        fun cwd => b.2.disk.setMode cwd path stagingDirMode
      refine hboth.with_run.mono fun d d' hd => ?_
      obtain ⟨hrun, _, hsame⟩ := hd
      exact ⟨b.1.ready hrun, b.2.with_disk hsame⟩
    exact hset.failing fun _ _ b => b.2

/-- Setting the mode of the copy leaves the copy where it is. -/
theorem alike_setMode_copied (secret : List Nat) (path : String) (mode : Nat) :
    Alike (CopiedTo path secret) (setMode path mode) (setMode path mode)
      (fun _ _ => CopiedTo path secret) (CopiedTo path secret) := by
  refine alike_setMode (asked_of_steady (steady_copiedIn _ secret) path mode) ?_ fun _ _ b => b
  refine alike_changeDisk fun h h' a => ?_
  have hboth : ∀ {files : List Nat}, Twins files h h' → Agree (SameBut files)
      (h.disk.setMode h.workDir path mode) (h'.disk.setMode h'.workDir path mode) := fun b =>
    b.on_disks _ (·.setMode · path mode) (·.setMode · path mode)
      fun cwd => b.disk.setMode cwd path mode
  rcases a with a | ⟨_, l, id, rfl, hstat, hspare, a⟩
  · exact (hboth a).mono fun d d' hd => .inl (a.with_disk hd)
  · refine (hboth a).with_run.mono fun d d' hd => ?_
    obtain ⟨hrun, _, hsame⟩ := hd
    have hentries := entryAt?_setMode_file hstat hrun
    have hspare' : ({ h with disk := d } : Host).LogsSpare { l } :=
      hspare.keeps ⟨rfl, rfl, rfl⟩ (fun m e _ hm => (hentries m).trans hm)
        fun logs hp => hp.of_entries hentries
    exact .inr ⟨_, l, id, rfl, stat_setMode hstat hrun, hspare', a.with_disk hsame⟩

/-- The part of a staging that comes after its directory was named. -/
def fetchInto (dir : PurePath) (store : SharedStore) (keytab cluster : Value) : Act String := do
  stagingStep (.cannotCreate dir.text) (makeDir dir.text)
  protect dir.text stagingDirMode
  Act.log logger Log.debug "Created keytab staging directory"
    [("staging_dir", .str dir.text), ("file_mode", .str (modeText stagingDirMode))]
  let remote ← store.build keytab cluster
  let file := (dir.child (← Act.ofExcept (fileName remote keytab))).text
  store.copy remote file false
  protect file stagedKeytabMode
  Act.log logger Log.info "Staged keytab from shared filesystem"
    [("keytab_name", keytab), ("remote_path", .str remote), ("keytab_path", .str file),
     ("file_mode", .str (modeText stagedKeytabMode))]
  return file

theorem fetch_eq (s : KeytabStager) (store : SharedStore) (keytab cluster : Value) (h : Host) :
    (s.fetch store keytab cluster).on h =
      (fetchInto (s.nextDir h) store keytab cluster).on (named h) := by
  unfold fetch createDir
  simp only [bind_assoc, pure_bind]
  rw [Act.on_bind_ok (newDir_on s h)]
  rfl

/-- A path in a directory: that of the directory, and one name. -/
def InDir (dir : PurePath) (path : String) : Prop :=
  ∃ name : String, '/' ∉ name.toList ∧ path = (dir.child name).text

/-- **A staging into a directory** ends alike, and a copy in this directory is all that differs. -/
theorem alike_fetchInto {store store' : SharedStore} (a : store.Alike store') {dir : PurePath}
    (hdir : dir.EndsInPart) (keytab cluster : Value) :
    Act.Alike (fun h h' => Orderly h ∧ Twins secret h h') (fetchInto dir store keytab cluster)
      (fetchInto dir store' keytab cluster)
      (fun file file' g g' => file' = file ∧
        CopiedIn (fun path => InDir dir path ∧ path = file) secret g g')
      (CopiedIn (InDir dir) secret) := by
  have hfirst : ∀ g g', Twins secret g g' → CopiedIn (InDir dir) secret g g' := fun _ _ => .inl
  have hready : ∀ g g', Ready dir.text g ∧ Twins secret g g' → CopiedIn (InDir dir) secret g g' :=
    fun _ _ b => .inl b.2
  have hwords : ∀ g g', Twins secret g g' → g'.words = g.words := fun _ _ => words_of_twins
  have s := steady_ready dir.text secret
  unfold fetchInto protect
  -- up to the copy
  refine ((alike_stagingStep _ hwords (alike_makeDir secret _)).failing hfirst).bind fun _ _ => ?_
  refine ((alike_stagingStep _ hwords (alike_setMode_made secret _)).failing hfirst).bind
    fun _ _ => ?_
  refine ((s.log _ _ _ _).failing hready).then fun _ => ?_
  refine ((a.build s keytab cluster).failing hready).then_of
    (fun h _ remote g _ hon => a.names keytab cluster h remote g hon) fun remote hremote => ?_
  obtain ⟨name, hname, hpart, hfile⟩ := fileName_of_hasName hremote
  have hpure : Act.ofExcept (fileName remote keytab) = pure name := congrArg Act.ofExcept (hfile keytab)
  rw [hpure, pure_bind, pure_bind]
  -- from the copy on
  have hin : InDir dir (dir.child name).text := ⟨name, hpart.2.2, rfl⟩
  have hcopied : ∀ g g', CopiedTo (dir.child name).text secret g g' →
      CopiedIn (InDir dir) secret g g' := fun g g' b => b.mono fun path hp => hp ▸ hin
  have hsteady := steady_copiedIn (· = (dir.child name).text) secret
  have hcopy : Act.Alike (fun h h' => Ready dir.text h ∧ Twins secret h h')
      (store.copy remote (dir.child name).text false) (store'.copy remote (dir.child name).text false)
      (fun _ _ => CopiedTo (dir.child name).text secret) (CopiedIn (InDir dir) secret) :=
    (a.copy secret remote (dir.child name).text).mono
      (fun h h' b => ⟨b.1.takes hdir hname hpart, b.2⟩) (fun _ _ _ _ b => b) hcopied
  refine hcopy.bind fun _ _ => ?_
  refine ((alike_stagingStep _ (fun g g' b => by rw [hsteady.rest b])
    (alike_setMode_copied secret _ _)).failing hcopied).bind fun _ _ => ?_
  refine ((hsteady.log _ _ _ _).failing hcopied).then fun _ => ?_
  exact Alike.pure _ _ fun _ _ b => ⟨rfl, b.mono fun path hp => ⟨hp ▸ hin, hp⟩⟩

/-- **A staging ends alike**, in the directory that is next. -/
theorem alike_fetch {store store' : SharedStore} (a : store.Alike store') (s : KeytabStager)
    (keytab cluster : Value) {h h' : Host} (ho : Orderly h) (hh : Twins secret h h') :
    Act.Alike (fun g g' => g = h ∧ g' = h') (s.fetch store keytab cluster)
      (s.fetch store' keytab cluster)
      (fun file file' g g' => file' = file ∧
        CopiedIn (fun path => InDir (s.nextDir h) path ∧ path = file) secret g g')
      (CopiedIn (InDir (s.nextDir h)) secret) := by
  intro g g' hg
  obtain ⟨hg, hg'⟩ := hg
  have hnamed : s.nextDir h' = s.nextDir h ∧ Twins secret (named h) (named h') := by
    obtain ⟨hrest, hd⟩ := hh
    rw [hrest]
    exact ⟨rfl, rfl, hd⟩
  rw [hg, hg', fetch_eq, fetch_eq, hnamed.1]
  exact alike_fetchInto a (nextDir_endsInPart s h) keytab cluster _ _
    ⟨ho.same_disk ⟨rfl, rfl, rfl⟩ rfl, hnamed.2⟩

end KeytabStager

end SecureStartup
