import SecureStartup.Proofs.Disk.Writing
import SecureStartup.Proofs.Host.LogLines
import SecureStartup.Proofs.Host.Spared
import SecureStartup.Proofs.Store.Confinement

/-!
  Copying and removing (`copy_to_local` of both stores): no keytab is lost.

  1. **Program** — a copy is made first, then it is logged, and then, if that was asked for, the source
     is removed.  A mounted store removes the name of the source's canonical location; a store in HDFS
     asks its client.

  2. **Specification** — a copy that is to remove its source is compared with one that is not.  The
     latter never changes the source.  While copying fails, the two are alike, so nothing is removed;
     and when it succeeds, the target holds what the source held, whatever removing comes to.

  3. **The idea** — a file is not copied onto itself, and a new file has a number of its own; so a copy
     is another file than the source (`copyFile_copies`), and a path to another file does not need the
     name that is removed (`Disk.stat_drop`), be there links or several names of one file.

  4. **The exceptions** — a special file as the target keeps nothing of what is copied to it.  And a
     copy is logged: the source and the target only hold what they are to hold up to the lines that come
     to log files (`copy_loses_nothing_limits`), and they only stay where they are if they are no log
     file that is put aside at that moment (`Host.LogsSpare`).
-/

namespace SecureStartup

open SecureStartup.Store

namespace Host

open SecureStartup.Disk

/-! ## What stays, and what is held -/

/-- A file may get lines: it is a log file, or it is made by its path where log files are. -/
def LogsInto (h : Host) (path : String) (id : Nat) : Prop :=
  ∀ logs, h.LogsTo logs →
    Disk.IsLogFile logs h.disk id ∨ ∃ l ∈ h.disk.placesOf h.workDir path, l ∈ logs

/-- **What lies at a path stays**: the name, and what it leads to, unless log files are put aside
    there; a file has the mode and the bytes that it had, with lines behind them only if it may be
    logged to. -/
structure KeepsAt (h : Host) (path : String) (h' : Host) : Prop where
  name : h.LogsSpare (h.disk.placesOf h.workDir path) → ∀ l e,
    h.disk.lstat h.workDir path = .ok (l, e) → h'.disk.lstat h'.workDir path = .ok (l, e)
  target : h.LogsSpare (h.disk.placesOf h.workDir path) → ∀ l e,
    h.disk.stat h.workDir path = .ok (l, e) → h'.disk.stat h'.workDir path = .ok (l, e)
  data : ∀ l id, h.disk.stat h.workDir path = .ok (l, .file id) → ∃ more,
    h'.disk.data? id = (h.disk.data? id).map (·.lengthened more) ∧ (more ≠ "" → h.LogsInto path id)

/-- **A file has a text, and a path leads to it**, seen from the host before: there are lines behind the
    text only if the file may be logged to, and the path leads to it unless log files are put aside at
    one of some places. -/
structure Bears (h₀ : Host) (places : Set Location) (path text : String) (id : Nat) (h : Host) :
    Prop where
  leads : h₀.LogsSpare places → ∃ l ∈ places, h.disk.stat h.workDir path = .ok (l, .file id)
  content : ∃ f more, h.disk.data? id = some f ∧ f.content = text ++ more ∧
    (more ≠ "" → h₀.LogsInto path id)

theorem KeepsAt.refl (h : Host) (path : String) : h.KeepsAt path h :=
  ⟨fun _ _ _ => id, fun _ _ _ => id, fun _ id _ =>
    ⟨"", (map_lengthened_empty (h.disk.data? id)).symm, fun hne => absurd rfl hne⟩⟩

/-- What is held stays while the disk does. -/
theorem Bears.same_disk {h₀ h h' : Host} {places : Set Location} {path text : String} {id : Nat}
    (a : h₀.Bears places path text id h) (hset : SameSetting h h') (hdisk : h'.disk = h.disk) :
    h₀.Bears places path text id h' where
  leads hspare := by
    rw [hdisk, hset.workDir]
    exact a.leads hspare
  content := by
    rw [hdisk]
    exact a.content

section Added

variable {h h₁ h₂ : Host} {path target text : String} {id : Nat} (hset : SameSetting h h₁)

include hset

/-- Where log files are put aside does not depend on a file more. -/
theorem LogsSpare.added {spared : Set Location} (a : h.LogsSpare spared) (hd : Adds h.disk h₁.disk) :
    h₁.LogsSpare spared := a.keeps hset hd.grows.ways hd.logPlaces

theorem LogsTo.added {logs : Set Location} (a : h.LogsTo logs) (hd : Adds h.disk h₁.disk) :
    h₁.LogsTo logs := a.keeps hset hd.grows.ways (hd.logPlaces logs a.places)

/-- **A text that was written is held**, also after records were logged. -/
theorem bears_of_written (places : Set Location)
    (hplaces : ∀ l ∈ h.disk.placesOf h.workDir path, l ∈ places)
    (hw : Written h.disk h.workDir path text id h₁.disk) (hlog : Logged h₁ h₂) :
    h.Bears places path text id h₂ := by
  constructor
  · intro hspare
    obtain ⟨l, hl, hleads⟩ := hw.leads
    rw [← hset.workDir] at hleads
    exact ⟨l, hplaces l hl, hlog.stat_spared (hspare.added hset hw.toAdds) (hplaces l hl) hleads⟩
  · obtain ⟨f, hf, hcontent⟩ := hw.content
    obtain ⟨more, hmore, hinto⟩ := hlog.added hw.numbered
    refine ⟨f.lengthened more, more, ?_, congrArg (· ++ more) hcontent, fun hne logs hlogs => ?_⟩
    · rw [hmore, hf]
      rfl
    · obtain ⟨l, hl, hfile⟩ := hinto hne logs (hlogs.added hset hw.toAdds)
      by_cases hid : id < h.disk.nextId
      · exact .inl ⟨l, hl, hw.names l id hid hfile⟩
      · exact .inr ⟨l, hw.newName (Nat.le_of_not_lt hid) l hfile, hl⟩

/-- **What lies at a path stays** when a file is added, other bytes come to another file, and records
    are logged. -/
theorem keepsAt_of_adds (hs : h.disk.Sound) (hd : Adds h.disk h₁.disk)
    (hdata : ∀ l id', h.disk.stat h.workDir path = .ok (l, .file id') →
      h₁.disk.data? id' = h.disk.data? id') (hlog : Logged h₁ h₂) : h.KeepsAt path h₂ := by
  have hwalk : h.LogsSpare (h.disk.placesOf h.workDir path) → ∀ {aim : Aim} {l : Location} {e : Entry},
      l ∈ h.disk.placesOf h.workDir path → h.disk.walk h.workDir path aim = .ok (.found l e) →
      h₂.disk.walk h₂.workDir path aim = .ok (.found l e) := by
    intro hspare aim l e hl hw
    refine hlog.walk_spared (hspare.added hset hd) hl ?_
    rw [hset.workDir]
    exact walk_found_keeps hd.grows.ways hw (hd.grows l e (entryAt?_of_walk hw))
  refine ⟨fun hspare l e hl => ?_, fun hspare l e hl => ?_, fun l id' hl => ?_⟩
  · exact lstat_eq_ok.mpr (hwalk hspare (.inl ⟨e, .inr hl⟩) (lstat_eq_ok.mp hl))
  · exact stat_eq_ok.mpr (hwalk hspare (.inl ⟨e, .inl hl⟩) (stat_eq_ok.mp hl))
  · have hid : id' < h.disk.nextId := numbered_of_stat hs hl
    obtain ⟨more, hmore, hinto⟩ := hlog.added (Nat.lt_of_lt_of_le hid hd.nextId)
    refine ⟨more, ?_, fun hne logs hlogs => ?_⟩
    · rw [hmore, hdata l id' hl]
    · obtain ⟨m, hm, hfile⟩ := hinto hne logs (hlogs.added hset hd)
      exact .inl ⟨m, hm, hd.names m id' hid hfile⟩

end Added

/-- **A text was put where a path leads**, which is not where another path leads: a file has it, or a
    special file has swallowed it. -/
inductive PutsApart (h : Host) (source target text : String) (h₁ : Host) : Prop
  | file (id : Nat) : Written h.disk h.workDir target text id h₁.disk →
      (∀ l, h.disk.stat h.workDir source ≠ .ok (l, .file id)) → PutsApart h source target text h₁
  | special : h.disk.LeadsToSpecial h.workDir target → h₁.disk = h.disk →
      PutsApart h source target text h₁

theorem PutsApart.keepsAt {h h₁ h₂ : Host} {source target text : String}
    (a : h.PutsApart source target text h₁) (hs : h.disk.Sound) (hset : SameSetting h h₁)
    (hlog : Logged h₁ h₂) : h.KeepsAt source h₂ := by
  cases a with
  | file id hw hapart =>
    refine keepsAt_of_adds hset hs hw.toAdds (fun l id' hl => hw.others id' ?_) hlog
    rintro rfl
    exact hapart l hl
  | special _ hdisk =>
    refine keepsAt_of_adds hset hs (hdisk ▸ Adds.refl h.disk) (fun _ _ _ => ?_) hlog
    rw [hdisk]

end Host

namespace Store

open SecureStartup.Disk

/-! ## The mounted store -/

/-- Copying fails before anything is written, or the two paths do not lead to one file. -/
theorem copyFile_cases (source target : String) (h : Host) :
    (∃ f, (copyFile source target).on h = (.error f, h)) ∨
      (copyFile source target).on h = (transfer source target h).on h ∧
        ∀ l m id, h.disk.stat h.workDir source = .ok (l, .file id) →
          h.disk.stat h.workDir target ≠ .ok (m, .file id) := by
  rw [copyFile_eq, Act.on_bind, Act.on_checkPath]
  rcases Invalid.forSystem? target with _ | why
  swap
  · exact .inl ⟨_, rfl⟩
  show (∃ f, ((get : Act Host) >>= _).on h = (.error f, h)) ∨ ((get : Act Host) >>= _).on h = _ ∧ _
  rw [Act.on_bind_ok (Act.on_get h)]
  -- Both branches of the comparison go on with the same three steps.
  let pipes : Act Unit := do
    Act.ofExcept (refusePipe h.disk h.workDir source)
    Act.ofExcept (refusePipe h.disk h.workDir target)
    transfer source target h
  have hpipes : (∃ f, pipes.on h = (.error f, h)) ∨ pipes.on h = (transfer source target h).on h := by
    show (∃ f, (_ >>= _ : Act Unit).on h = (.error f, h)) ∨ (_ >>= _ : Act Unit).on h = _
    rw [Act.on_bind, Act.on_ofExcept]
    rcases refusePipe h.disk h.workDir source with f | _
    · exact .inl ⟨f, rfl⟩
    simp only
    rw [Act.on_bind, Act.on_ofExcept]
    rcases refusePipe h.disk h.workDir target with f | _
    · exact .inl ⟨f, rfl⟩
    · exact .inr rfl
  split
  · rename_i a b ha hb
    split
    · exact .inl ⟨_, rfl⟩
    · rename_i hsame
      refine hpipes.imp_right fun hon => ⟨hon, fun l m id hl hm => hsame ?_⟩
      cases ha.symm.trans hl
      cases hb.symm.trans hm
      exact beq_self_eq_true id
  · rename_i hnot
    exact hpipes.imp_right fun hon => ⟨hon, fun l m id hl hm => hnot _ _ hl hm⟩

/-- **A file is not copied onto itself**: copying changes nothing, or what was read is put somewhere
    else than the source, and if all was read, it succeeds. -/
theorem copyFile_copies (source target : String) {h : Host} (hs : h.disk.Sound)
    (hd : h.disk.HasData) :
    (∃ f, (copyFile source target).on h = (.error f, h)) ∨
      ∃ text rest h₁, ((copyFile source target).on h).2 = h₁ ∧
        h.disk.readOut h.workDir source = .ok (text, rest) ∧ Host.SameSetting h h₁ ∧
        h.PutsApart source target text h₁ ∧
        (rest = none ↔ ((copyFile source target).on h).1 = .ok ()) := by
  rcases copyFile_cases source target h with hfails | ⟨hon, hdistinct⟩
  · exact .inl hfails
  rw [hon]
  rcases transfer_on source target h with ⟨f, hf, _⟩ | ⟨text, rest, d, hread, hwrite, hhost, hrest⟩
  · exact .inl ⟨f, hf⟩
  refine .inr ⟨text, rest, _, hhost, hread, ⟨rfl, rfl, rfl⟩, ?_, ?_⟩
  · rcases written_of_write hs hd hwrite with ⟨id, hw⟩ | ⟨hspecial, rfl⟩
    · refine .file id hw fun l hl => ?_
      -- the target was there, and is not the source, or its number is a new one
      rcases hw.found with ⟨m, hm⟩ | rfl
      · exact hdistinct l m id hl hm
      · exact absurd (numbered_of_stat hs hl) (Nat.lt_irrefl _)
    · exact .special hspecial rfl
  · rcases rest with _ | why <;> rw [hrest] <;> simp

/-- **Removing the name of a source** leaves a text in another file where it is. -/
theorem unlink_bears {h₀ h : Host} {places : Set Location} {source target text : String}
    {l : Location} {leaf : Entry} {id : Nat} (a : h₀.Bears places target text id h)
    (hsource : h₀.LogsSpare places → h.disk.stat h.workDir source = .ok (l, leaf))
    (hleaf : IsLeaf leaf) (hne : .file id ≠ leaf) :
    h₀.Bears places target text id
      ((Act.changeDisk source fun d cwd => d.unlink cwd source).on h).2 := by
  rw [Act.on_changeDisk]
  rcases Invalid.forSystem? source with _ | why
  swap
  · exact a
  rcases hu : h.disk.unlink h.workDir source with r | d
  · exact a
  refine ⟨fun hspare => ?_, ?_⟩
  · obtain ⟨m, hm, hstat⟩ := a.leads hspare
    exact ⟨m, hm, stat_unlink hleaf (hsource hspare) hne hu hstat⟩
  · obtain ⟨f, more, hf, hrest⟩ := a.content
    exact ⟨f, more, (data?_unlink hu id).trans hf, hrest⟩

/-! ## Both stores -/

/-- **A client and its service**; `service h remote` is what the service holds at a path, as seen from a
    host.  A download writes its target and nothing else, and when it succeeds, it has written what the
    service holds; removing a file of the service leaves the disk alone; and the service is not in the
    log. -/
structure HdfsClient.Serves (client : HdfsClient) (service : Host → String → Option String) :
    Prop where
  download : ∀ remote target h, ∃ text,
    Wrote target text h ((client.download remote target).on h).2 ∧
    service ((client.download remote target).on h).2 = service h ∧
    (((client.download remote target).on h).1 = .ok () →
      ∃ t, text = some t ∧ service h remote = some t)
  delete : ∀ remote h, Host.SameSetting h ((client.delete remote).on h).2 ∧
    ((client.delete remote).on h).2.disk = h.disk
  logged : ∀ h h', Host.Logged h h' → service h' = service h

/-- The source is a special file that can be read in part only. -/
def LocalStore.HalfRead (s : LocalStore) (remote : String) (h : Host) : Prop :=
  ∃ l m special, (s.locate remote).on h = (.ok l, h) ∧
    h.disk.stat h.workDir (locationText l) = .ok (m, .special special) ∧ special.breaks ≠ none

namespace AnyStore

/-- What is taken for granted of a store. -/
def Serves (store : AnyStore) (service : Host → String → Option String) : Prop :=
  match store with
  | .onHost _ => True
  | .hdfs s => s.client.Serves service

/-- The text that a store holds at a path. -/
def Holds (store : AnyStore) (service : Host → String → Option String) (remote : String) (h : Host)
    (text : String) : Prop :=
  match store with
  | .onHost s => s.Held remote h text
  | .hdfs _ => service h remote = some text

/-- What a store holds at a path stays: for a mounted store, what lies at the canonical location. -/
def KeepsSource (store : AnyStore) (service : Host → String → Option String) (remote : String)
    (h h' : Host) : Prop :=
  match store with
  | .onHost s => ∀ l, (s.locate remote).on h = (.ok l, h) → h.KeepsAt (locationText l) h'
  | .hdfs _ => service h' remote = service h remote

/-- **The places on the host** that a copy is about: those of the target, and of the source if the store
    is mounted. -/
def places (store : AnyStore) (remote target : String) (h : Host) : Set Location :=
  fun l => l ∈ h.disk.placesOf h.workDir target ∨
    match store with
    | .onHost s => ∃ m, (s.locate remote).on h = (.ok m, h) ∧
        l ∈ h.disk.placesOf h.workDir (locationText m)
    | .hdfs _ => False

/-- **No keytab is lost**: what a copy that keeps its source comes to, and one that is to remove it. -/
structure LosesNothing (store : AnyStore) (service : Host → String → Option String)
    (remote target : String) (h : Host) (kept moved : Except Failure Unit × Host) : Prop where
  /-- A copy that is not to remove its source leaves it as it is, in every outcome. -/
  unchanged : store.KeepsSource service remote h kept.2
  /-- As long as copying fails, it does not matter whether the source is to be removed. -/
  alike : ∀ f, kept.1 = .error f → moved = kept
  /-- Once it has succeeded, the target holds what the source held, whatever removing comes to; but a
      special file holds nothing. -/
  copied : kept.1 = .ok () → ∃ text, store.Holds service remote h text ∧
    (h.disk.LeadsToSpecial h.workDir target ∨
      ∃ id, h.Bears (store.places remote target h) target text id kept.2 ∧
        h.Bears (store.places remote target h) target text id moved.2)
  /-- Of a mounted store, what fails changes nothing, neither copying nor removing; unless a part of
      the source could be read. -/
  refused : ∀ s f, store = .onHost s →
    (kept.1 = .error f → kept.2 = h ∨ s.HalfRead remote h) ∧ (moved.1 = .error f → moved.2 = kept.2)

end AnyStore

/-- The mounted store loses nothing. -/
theorem LocalStore.losesNothing (s : LocalStore) (service : Host → String → Option String)
    {h : Host} (hs : h.disk.Sound) (hd : h.disk.HasData) (remote target : String) :
    (AnyStore.onHost s).LosesNothing service remote target h ((s.copy remote target false).on h)
      ((s.copy remote target true).on h) := by
  have hsource : ∀ {l : Location} {h' : Host}, (s.locate remote).on h = (.ok l, h) →
      h.KeepsAt (locationText l) h' → (AnyStore.onHost s).KeepsSource service remote h h' := by
    intro l h' hl hkeeps l' hl'
    cases hl.symm.trans hl'
    exact hkeeps
  cases s.copyGoes remote target h with
  | unlocated hl hcopy =>
    rw [hcopy, hcopy]
    exact {
      unchanged := fun l hl' => nomatch hl.symm.trans hl'
      alike := fun _ _ => rfl
      copied := nofun
      refused := fun _ _ _ => ⟨fun _ => .inl rfl, fun _ => rfl⟩ }
  | @uncopied l f h₁ hl hc hcopy =>
    have hcopies := copyFile_copies (locationText l) target hs hd
    rw [hc] at hcopies
    rw [hcopy, hcopy]
    -- it fails before anything is written, or since the source ends before its end
    rcases hcopies with ⟨_, hfailed⟩ | ⟨text, rest, _, rfl, hread, hset, hputs, hrest⟩
    · cases hfailed
      exact {
        unchanged := hsource hl (Host.KeepsAt.refl h _)
        alike := fun _ _ => rfl
        copied := nofun
        refused := fun _ _ _ => ⟨fun _ => .inl rfl, fun _ => rfl⟩ }
    · have hhalf : s.HalfRead remote h := by
        obtain ⟨m, ⟨_, _, hnone, _⟩ | ⟨special, hstat, _, hbreaks, _⟩⟩ := readOut_ok hread
        · exact nomatch hrest.mp hnone
        · refine ⟨l, m, special, hl, hstat, fun hnone => ?_⟩
          exact nomatch hrest.mp (hbreaks.trans hnone)
      exact {
        unchanged := hsource hl (hputs.keepsAt hs hset (Host.Logged.refl _))
        alike := fun _ _ => rfl
        copied := nofun
        refused := fun t _ ht => by
          cases ht
          exact ⟨fun _ => .inr hhalf, fun _ => rfl⟩ }
  | @copied l h₁ h₂ hl hc hlog hkept hmoved =>
    have hcopies := copyFile_copies (locationText l) target hs hd
    rw [hc] at hcopies
    rcases hcopies with ⟨_, hfailed⟩ | ⟨text, rest, _, rfl, hread, hset, hputs, hrest⟩
    · exact nomatch hfailed
    obtain rfl : rest = none := hrest.mpr rfl
    have hkeeps := hputs.keepsAt hs hset hlog
    -- the name that is removed is the source's, and the copy is another file
    obtain ⟨m, leaf, hstat, hleaf⟩ : ∃ m leaf,
        h.disk.stat h.workDir (locationText l) = .ok (m, leaf) ∧ IsLeaf leaf := by
      obtain ⟨m, ⟨id', hstat, _⟩ | ⟨special, hstat, _⟩⟩ := readOut_ok hread
      · exact ⟨m, _, hstat, nofun, nofun⟩
      · exact ⟨m, _, hstat, nofun, nofun⟩
    have hrefused : ∀ f, ((s.copy remote target true).on h).1 = .error f →
        ((s.copy remote target true).on h).2 = h₂ := by
      rw [hmoved]
      exact fun f => Act.changeDisk_eq_error
    rw [hkept]
    refine {
      unchanged := hsource hl hkeeps
      alike := nofun
      copied := fun _ => ⟨text, ⟨l, hl, read_of_readOut hread⟩, ?_⟩
      refused := fun _ f _ => ⟨nofun, hrefused f⟩ }
    cases hputs with
    | special hspecial _ => exact .inl hspecial
    | file id hw hapart =>
      have hbears := Host.bears_of_written hset ((AnyStore.onHost s).places remote target h)
        (fun _ => .inl) hw hlog
      have hspare : h.LogsSpare ((AnyStore.onHost s).places remote target h) →
          h₂.disk.stat h₂.workDir (locationText l) = .ok (m, leaf) := fun hspare =>
        hkeeps.target (hspare.mono fun _ hm => .inr ⟨l, hl, hm⟩) _ _ hstat
      refine .inr ⟨id, hbears, ?_⟩
      rw [hmoved]
      refine unlink_bears hbears hspare hleaf ?_
      rintro rfl
      exact hapart m hstat

/-- The store in HDFS loses nothing. -/
theorem HdfsStore.losesNothing (s : HdfsStore) {service : Host → String → Option String}
    (ha : s.client.Serves service) {h : Host} (hs : h.disk.Sound) (hd : h.disk.HasData)
    (remote target : String) :
    (AnyStore.hdfs s).LosesNothing service remote target h ((s.copy remote target false).on h)
      ((s.copy remote target true).on h) := by
  obtain ⟨text, hwrote, hservice, hok⟩ := ha.download remote target h
  cases s.copyGoes remote target h with
  | refused hdown hcopy =>
    rw [hdown] at hservice
    rw [hcopy, hcopy]
    exact {
      unchanged := congrFun hservice remote
      alike := fun _ _ => rfl
      copied := nofun
      refused := fun _ _ => nofun }
  | @downloaded h₁ h₂ hdown hlog hkept hmoved =>
    rw [hdown] at hwrote hservice hok
    obtain ⟨t, rfl, hheld⟩ := hok rfl
    obtain ⟨hdelete, _⟩ := reported_on "delete" remote s.url (s.client.delete remote) h₂
    obtain ⟨hset, hdisk⟩ := ha.delete remote h₂
    rw [← hdelete] at hset hdisk
    rw [hkept, hmoved]
    refine {
      unchanged := (congrFun (ha.logged _ h₂ hlog) remote).trans (congrFun hservice remote)
      alike := nofun
      copied := fun _ => ⟨t, hheld, ?_⟩
      refused := fun _ _ => nofun }
    -- the service is not on the disk, so nothing that removing does there matters to the copy
    rcases written_of_write hs hd hwrote.disk with ⟨id, hw⟩ | ⟨hspecial, _⟩
    · have hbears := Host.bears_of_written hwrote.setting ((AnyStore.hdfs s).places remote target h)
        (fun _ => .inl) hw hlog
      exact .inr ⟨id, hbears, hbears.same_disk hset hdisk⟩
    · exact .inl hspecial

/-- A host with a directory. -/
def plainHost : Host where
  disk := { entries := [(["d"], .directory 0o755)], files := [], nextId := 0 }

/-- There are only directories. -/
theorem plainHost_directory {l : Location} {e : Entry} (h : plainHost.disk.entryAt? l = some e) :
    ∃ mode, e = .directory mode := by
  unfold Disk.entryAt? at h
  split at h
  · cases h
    exact ⟨_, rfl⟩
  · obtain ⟨x, hx, rfl⟩ := Option.map_eq_some_iff.mp h
    cases List.mem_singleton.mp (List.mem_of_find?_eq_some hx)
    exact ⟨_, rfl⟩

theorem plainHost_sound : plainHost.disk.Sound ∧ plainHost.disk.HasData := by
  constructor
  · refine sound_of_entries ?_
    simp [plainHost, Disk.entryAt?]
  · intro l id h
    obtain ⟨_, hdir⟩ := plainHost_directory h
    cases hdir

/-- What a service holds that has one text at every path: the text, until it is removed. -/
def untilDeleted (text : String) (h : Host) (remote : String) : Option String :=
  if h.trace.any fun | .delete r => r == remote | _ => false then none else some text

/-- The client of this service. -/
def deletingClient (text : String) : HdfsClient where
  name := "deleting"
  download remote target := do
    match untilDeleted text (← get) remote with
    | some text => Act.writeText target text
    | none => throw (.foreign "HdfsError" [.str s!"File does not exist: {remote}"] none none)
  delete remote := Act.note (.delete remote)

theorem deletingClient_serves (text : String) :
    (deletingClient text).Serves (untilDeleted text) where
  download remote target h := by
    have hrun : ((deletingClient text).download remote target).on h =
        (match untilDeleted text h remote with
          | some text => Act.writeText target text
          | none => throw (.foreign "HdfsError" [.str s!"File does not exist: {remote}"] none none)
            : Act Unit).on h := rfl
    rw [hrun]
    rcases hheld : untilDeleted text h remote with _ | t
    · exact ⟨none, Wrote.nothing target h, rfl, nofun⟩
    obtain ⟨t', hwrote, hall⟩ := wrote_writeText target t h
    refine ⟨t', hwrote, ?_, fun hok => ⟨t, hall hok, rfl⟩⟩
    have htrace : ((Act.writeText target t).on h).2.trace = h.trace := by
      rw [Act.on_writeText, Act.changeDisk_trace]
    funext path
    unfold untilDeleted
    rw [htrace]
  delete remote h := ⟨⟨rfl, rfl, rfl⟩, rfl⟩
  logged h h' hlog := by
    unfold untilDeleted
    rw [hlog.trace]

/-- The download into the directory goes well. -/
theorem plainHost_download :
    (((deletingClient "key").download "/r/k" "/d/k").on plainHost).1 = .ok () := by
  have hpath : Invalid.forSystem? "/d/k" = none := by decide +kernel
  have hnames : pathNames "/d/k" = ["d", "k"] := by decide +kernel
  have hdir : plainHost.disk.entryAt? ["d"] = some (.directory 0o755) := rfl
  have hdown : Step plainHost.disk (maxLinks, [], ["d", "k"]) (maxLinks, ["d"], ["k"]) :=
    .down rfl (by decide) ⟨by decide, by decide, by decide⟩ (by decide) hdir fun _ => nofun
  have hwalk : plainHost.disk.walk plainHost.workDir "/d/k" .newFile = .ok (.free ["d"] "k") := by
    rw [walk_eq _ (by decide), if_neg (by decide), hnames]
    refine (walkFrom_step hdown (.inr ⟨"k", List.mem_singleton.mpr rfl, by decide⟩)).trans ?_
    rw [walkFrom_absent hdir (by decide) ⟨by decide, by decide, by decide⟩ rfl]
    exact if_neg (by decide)
  show ((Act.changeDisk "/d/k" fun d cwd => d.write (plainHost.granted 0o666) cwd "/d/k" "key").on
    plainHost).1 = _
  rw [Act.on_changeDisk, hpath]
  unfold Disk.write openForWriting
  rw [hwalk]
  rfl

/-- A file is copied to another one that is there. -/
theorem copyFile_found {source target : String} {h : Host} {l m : Location} {id id' : Nat}
    {f : FileData} (hp : Invalid.forSystem? source = none) (hp' : Invalid.forSystem? target = none)
    (hs : h.disk.stat h.workDir source = .ok (l, .file id)) (hf : h.disk.data? id = some f)
    (hm : mayRead f.mode = true)
    (ht : h.disk.walk h.workDir target .newFile = .ok (.found m (.file id')))
    (hw : mayWrite (h.disk.modeOf (.file id')) = true) (hne : id ≠ id') :
    (copyFile source target).on h = (.ok (), { h with disk := h.disk.setContent id' f.content }) := by
  have htarget := stat_of_walk_newFile ht
  have hsame : isSame (l, .file id) (m, .file id') = false := beq_eq_false_iff_ne.mpr hne
  have hopen : h.disk.openForWriting (h.granted 0o666) h.workDir target =
      .ok (.file id', h.disk) := by
    rw [openForWriting_found ht, if_pos hw]
  exact copyFile_ok hp hp' hs htarget hsame (refusePipe_file hs) (refusePipe_file htarget)
    (readOut_file hs hf hm) hopen rfl

/-- **A copy is logged**: when a plain file has the log, a line comes behind what this file holds once
    the source is copied; then the source is removed, if that was asked for. -/
theorem LocalStore.copy_logged (s : LocalStore) {remote target path : String} {h h₁ : Host}
    {l : Location} {id : Nat} {f : FileData} (hl : (s.locate remote).on h = (.ok l, h))
    (hc : (copyFile (locationText l) target).on h = (.ok (), h₁)) (a : h₁.LogsPlain path id f) :
    ∃ line h₂, (s.copy remote target false).on h = (.ok (), h₂) ∧
      (s.copy remote target true).on h =
        (Act.changeDisk (locationText l) fun d cwd => d.unlink cwd (locationText l)).on h₂ ∧
      h₂.workDir = h₁.workDir ∧
      h₂.disk = h₁.disk.setContent id (f.content ++ (line ++ "\n")) := by
  obtain ⟨r, hcopy, hmoved, hlevel⟩ : ∃ r, (s.copy remote target false).on h = (.ok (), h₁.logRecord r) ∧
      (s.copy remote target true).on h = (Act.changeDisk (locationText l)
        fun d cwd => d.unlink cwd (locationText l)).on (h₁.logRecord r) ∧ r.level = Log.debug := by
    unfold LocalStore.copy
    rw [Act.on_bind_ok hl, Act.on_bind_ok hl]
    simp only
    rw [Act.on_bind_ok hc, Act.on_bind_ok hc]
    exact ⟨_, rfl, rfl, rfl⟩
  have hset : Host.SameSetting h₁ (h₁.logRecord r) := Host.Logged.sameSetting ⟨[r], rfl⟩
  exact ⟨_, _, hcopy, hmoved, hset.workDir, a.logRecord (Int.le_of_eq hlevel.symm)⟩

/-- A host with a key in one file, its log in another, and a device that keeps nothing. -/
def loggingHost : Host where
  disk := {
    entries := [(["d"], .directory 0o755), (["d", "k"], .file 0), (["l"], .file 1),
      (["n"], .special { mode := 0o666 })]
    files := [(0, ⟨0o644, "key"⟩), (1, ⟨0o644, "line"⟩)]
    nextId := 2 }
  tempDir := some "/d"
  log := { rootLevel := Log.debug, sinks := [.file Log.debug ⟨"/l", false, .day, 7⟩] }

/-- As long as the entries stay, the three are found where they are. -/
theorem loggingHost_walk {d : Disk} (hd : ∀ l, d.entryAt? l = loggingHost.disk.entryAt? l)
    (aim : Aim) :
    d.walk [] "/d/k" aim = .ok (.found ["d", "k"] (.file 0)) ∧
      d.walk [] "/l" aim = .ok (.found ["l"] (.file 1)) ∧
      d.walk [] "/n" aim = .ok (.found ["n"] (.special { mode := 0o666 })) := by
  have hk : pathNames "/d/k" = ["d", "k"] := by decide +kernel
  have hl : pathNames "/l" = ["l"] := by decide +kernel
  have hn : pathNames "/n" = ["n"] := by decide +kernel
  have hroot : d.entryAt? [] = some (.directory rootMode) := hd []
  refine ⟨?_, ?_, ?_⟩
  · have hdir : d.entryAt? ["d"] = some (.directory 0o755) := hd ["d"]
    have hdown : Step d (maxLinks, [], ["d", "k"]) (maxLinks, ["d"], ["k"]) :=
      .down hroot (by decide) ⟨by decide, by decide, by decide⟩ (by decide) hdir fun _ => nofun
    rw [walk_eq aim (by decide), if_neg (by decide), hk]
    refine (walkFrom_step hdown (.inr ⟨"k", List.mem_singleton.mpr rfl, by decide⟩)).trans ?_
    exact walkFrom_file hdir (by decide) ⟨by decide, by decide, by decide⟩ (hd ["d", "k"]) aim maxLinks
  · rw [walk_eq aim (by decide), if_neg (by decide), hl]
    exact walkFrom_file hroot (by decide) ⟨by decide, by decide, by decide⟩ (hd ["l"]) aim maxLinks
  · rw [walk_eq aim (by decide), if_neg (by decide), hn]
    have hdevice : d.entryAt? ([] ++ ["n"]) = some (.special { mode := 0o666 }) := hd ["n"]
    have hlinks : ∀ target, d.entryAt? ([] ++ ["n"]) ≠ some (.link target) := fun target h =>
      nomatch hdevice.symm.trans h
    refine (walkFrom_last hroot (by decide) ⟨by decide, by decide, by decide⟩ hlinks aim maxLinks).trans ?_
    rw [if_neg (by decide), placeAt_some hdevice]
    rfl

theorem loggingHost_locate :
    ((LocalStore.mk []).locate "/d/k").on loggingHost = (.ok ["d", "k"], loggingHost) ∧
      ((LocalStore.mk []).locate "/l").on loggingHost = (.ok ["l"], loggingHost) := by
  have hend : loggingHost.disk.LinksEnd := by
    refine linksEnd_of_entries ?_
    intro x hx target
    simp only [loggingHost, List.mem_cons, List.not_mem_nil, or_false] at hx
    rcases hx with rfl | rfl | rfl | rfl <;> exact nofun
  have hlocate : ∀ path m, Invalid.forSystem? (normalPath path) = none →
      loggingHost.LeadsTo path m →
      ((LocalStore.mk []).locate path).on loggingHost = (.ok m, loggingHost) := by
    intro path m hp hleads
    obtain ⟨l, hl, hon⟩ := (LocalStore.mk []).locate_leads hend hp
    obtain rfl := hleads.unique hl
    rw [hon, if_pos List.nil_prefix]
  have hk : pathPieces "/d/k" = ["d", "k"] := by decide +kernel
  have hl : pathPieces "/l" = ["l"] := by decide +kernel
  constructor
  · refine hlocate "/d/k" ["d", "k"] (by decide +kernel) ?_
    show loggingHost.disk.Canonical [] (pathPieces "/d/k") _
    rw [hk]
    refine (canonical_down ⟨by decide, by decide, by decide⟩ rfl).mpr ?_
    exact (canonical_down ⟨by decide, by decide, by decide⟩ rfl).mpr (canonical_nil.mpr rfl)
  · refine hlocate "/l" ["l"] (by decide +kernel) ?_
    show loggingHost.disk.Canonical [] (pathPieces "/l") _
    rw [hl]
    exact (canonical_down ⟨by decide, by decide, by decide⟩ rfl).mpr (canonical_nil.mpr rfl)

/-- Its log is a plain file, whatever else its files hold. -/
theorem loggingHost_logsPlain {d : Disk} (hd : ∀ l, d.entryAt? l = loggingHost.disk.entryAt? l)
    {text : String} (hf : d.data? 1 = some ⟨0o644, text⟩) :
    ({ loggingHost with disk := d } : Host).LogsPlain "/l" 1 ⟨0o644, text⟩ where
  rootLevel := rfl
  levels := rfl
  sinks := rfl
  turns := rfl
  found := ⟨["l"], (loggingHost_walk hd .newFile).2.1⟩
  data := hf
  mode := show mayWrite 0o644 = true by decide

/-- What is read from the log. -/
theorem loggingHost_read {d : Disk} (hd : ∀ l, d.entryAt? l = loggingHost.disk.entryAt? l)
    {f : FileData} (hf : d.data? 1 = some f) (hm : mayRead f.mode = true) :
    d.read [] "/l" = .ok f.content :=
  read_of_readOut (readOut_file (stat_eq_ok.mpr (loggingHost_walk hd .target).2.1) hf hm)

/-- Once a text is copied from one of the files to the other, the log has this text, and a line. -/
theorem loggingHost_copied {id : Nat} {source target text : String} {l : Location}
    (hl : ((LocalStore.mk []).locate source).on loggingHost = (.ok l, loggingHost))
    (hc : (copyFile (locationText l) target).on loggingHost =
      (.ok (), { loggingHost with disk := loggingHost.disk.setContent id text }))
    (hf : (loggingHost.disk.setContent id text).data? 1 = some ⟨0o644, text⟩) :
    ∃ h line, ((LocalStore.mk []).copy source target false).on loggingHost = (.ok (), h) ∧
      h.disk.read [] "/l" = .ok (text ++ (line ++ "\n")) := by
  have hsame : ∀ l, (loggingHost.disk.setContent id text).entryAt? l = loggingHost.disk.entryAt? l :=
    fun l => entryAt?_setContent ..
  obtain ⟨line, h, hcopy, _, _, hdisk⟩ :=
    (LocalStore.mk []).copy_logged hl hc (loggingHost_logsPlain hsame hf)
  refine ⟨h, line, hcopy, ?_⟩
  rw [hdisk]
  exact loggingHost_read (fun l => (entryAt?_setContent ..).trans (hsame l))
    (data?_setContent_self hf _) (show mayRead 0o644 = true by decide)

/-- The key is moved to the device: it is gone. -/
theorem loggingHost_moved :
    ∃ h, ((LocalStore.mk []).copy "/d/k" "/n" true).on loggingHost = (.ok (), h) ∧
      h.disk.entryAt? ["d", "k"] = none ∧ h.disk.entryAt? ["n"] = some (.special { mode := 0o666 }) := by
  have hk : Invalid.forSystem? "/d/k" = none := by decide +kernel
  have hn : Invalid.forSystem? "/n" = none := by decide +kernel
  have hkey : locationText ["d", "k"] = "/d/k" := by decide +kernel
  have hstat := loggingHost_walk (fun _ => rfl) .target
  have hsource := stat_eq_ok.mpr hstat.1
  have htarget := stat_eq_ok.mpr hstat.2.2
  have hopen : loggingHost.disk.openForWriting (loggingHost.granted 0o666) [] "/n" =
      .ok (.special { mode := 0o666 }, loggingHost.disk) := by
    unfold openForWriting
    rw [(loggingHost_walk (fun _ => rfl) .newFile).2.2]
    rfl
  have hpipe : refusePipe loggingHost.disk [] "/n" = .ok () := by
    unfold refusePipe
    rw [htarget]
    rfl
  have hc : (copyFile (locationText ["d", "k"]) "/n").on loggingHost =
      (.ok (), { loggingHost with disk := loggingHost.disk }) := by
    rw [hkey]
    exact copyFile_ok hk hn hsource htarget rfl (refusePipe_file hsource) hpipe
      (readOut_file hsource rfl (by decide)) hopen rfl
  obtain ⟨line, h, _, hmoved, hcwd, hdisk⟩ := (LocalStore.mk []).copy_logged loggingHost_locate.1 hc
    (loggingHost_logsPlain (fun _ => rfl) rfl)
  -- Opened for writing and written to, the device keeps its place and the tree its entries.
  have hsame : ∀ l, h.disk.entryAt? l = loggingHost.disk.entryAt? l := by
    intro l
    rw [hdisk]
    exact entryAt?_setContent ..
  -- The directory of the source lets a name be taken out of it.
  have hmay : h.disk.mayChange (["d", "k"] : Location).dropLast = true := by
    have hdir : h.disk.entryAt? ["d"] = some (.directory 0o755) := hsame ["d"]
    show h.disk.mayChange ["d"] = true
    unfold mayChange
    rw [hdir]
    decide
  have hunlink : h.disk.unlink h.workDir "/d/k" = .ok (h.disk.drop ["d", "k"]) := by
    have hname := lstat_eq_ok.mpr (loggingHost_walk hsame .name).1
    unfold unlink
    rw [hcwd, show loggingHost.workDir = [] from rfl, hname]
    simp only [bind, Except.bind, hmay]
    rfl
  refine ⟨{ h with disk := h.disk.drop ["d", "k"] }, ?_, entryAt?_drop_self _ (List.cons_ne_nil _ _), ?_⟩
  · rw [hmoved, hkey]
    exact Act.changeDisk_ok hk hunlink
  · exact (entryAt?_drop_of_ne _ (by decide)).trans (hsame ["n"])

end Store

end SecureStartup
