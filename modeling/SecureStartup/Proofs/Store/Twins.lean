import SecureStartup.Proofs.Host.Spared
import SecureStartup.Proofs.Host.Twins
import SecureStartup.Proofs.Store.Copying

/-!
  Stores that hold different bytes.

  Program: `copy_to_local` of both stores, the one place where the bytes of a keytab come to the host.

  `CopiedIn` says what two hosts have in common after a copy: all but the bytes that differed before, and
  those of one file that the path of the copy leads to.  Two stores are ALIKE when they cannot be told
  apart but for such bytes:

  * a mounted store is alike to itself, seen from two hosts (`LocalStore.alike`);
  * stores in HDFS are alike when their clients download different bytes (`HdfsStore.alike`);
  * stores stay alike when their copies fail, half-way too (`SharedStore.Alike.failing`).

  A copy is made to a path where a file can be (`Host.Takes`): a special file that takes nothing would
  tell an empty text from others, and a log file would be put aside.
-/

namespace SecureStartup

open SecureStartup.Disk SecureStartup.Host

/-! ## Where files are opened -/

namespace Disk

/-- The location of the file that is opened under a path. -/
def fileAt (d : Disk) (cwd : Location) (path : String) : Set Location :=
  { l | (∃ id, d.walk cwd path .newFile = .ok (.found l (.file id))) ∨
    ∃ dir name, d.walk cwd path .newFile = .ok (.free dir name) ∧ l = dir ++ [name] }

/-- A file that was opened stands there. -/
theorem Opens.stat_fileAt {d e : Disk} {fresh id : Nat} {cwd : Location} {path : String}
    (h : Opens d fresh cwd path (.file id) e) :
    ∃ l ∈ d.fileAt cwd path, e.stat cwd path = .ok (l, .file id) := by
  cases h with
  | @file l _ hw _ => exact ⟨l, .inl ⟨id, hw⟩, stat_of_walk_newFile hw⟩
  | @new dir name hw hm =>
    obtain ⟨l, hstat⟩ := (Opens.new hw hm : Opens d fresh cwd path _ _).stat
    have hfree : d.entryAt? (dir ++ [name]) = none := (isFree_of_walk hw).absent
    have hx := extends_addFile d fresh hfree
    have hne : dir ++ [name] ≠ [] := List.append_ne_nil_of_right_ne_nil _ (List.cons_ne_nil _ _)
    exact ⟨dir ++ [name], .inr ⟨dir, name, hw, rfl⟩,
      stat_newFile hw hx.ways (entryAt?_addFile_self d fresh hne)⟩

end Disk

/-! ## Hosts after a copy -/

namespace Host

/-- **Hosts after a copy**: twins, but for the bytes of a file that one of these paths leads to, and
    that no log file is put aside to. -/
def CopiedIn (place : String → Prop) (secret : List Nat) (h h' : Host) : Prop :=
  Twins secret h h' ∨ ∃ path l id, place path ∧ h.disk.stat h.workDir path = .ok (l, .file id) ∧
    h.LogsSpare { l } ∧ Twins (id :: secret) h h'

/-- The same for one path. -/
abbrev CopiedTo (path : String) : List Nat → Host → Host → Prop := CopiedIn (· = path)

namespace CopiedIn

variable {place place' : String → Prop} {secret : List Nat} {h h' : Host}

theorem mono (a : CopiedIn place secret h h') (hp : ∀ path, place path → place' path) :
    CopiedIn place' secret h h' := by
  rcases a with a | ⟨path, l, id, hpath, hrest⟩
  · exact .inl a
  · exact .inr ⟨path, l, id, hp path hpath, hrest⟩

/-- The files that may differ. -/
theorem twins (a : CopiedIn place secret h h') : ∃ files, Twins files h h' := by
  rcases a with a | ⟨_, _, id, _, _, _, a⟩
  · exact ⟨secret, a⟩
  · exact ⟨id :: secret, a⟩

end CopiedIn

/-- Questions and log lines leave the copy where it is. -/
theorem steady_copiedIn (place : String → Prop) (secret : List Nat) :
    Steady (CopiedIn place secret) where
  rest a := by
    obtain ⟨_, a⟩ := a.twins
    exact a.rest
  entries a := by
    obtain ⟨_, a⟩ := a.twins
    exact a.disk.sameEntries
  logged {g g'} r a := by
    rcases a with a | ⟨path, l, id, hpath, hstat, hspare, a⟩
    · exact .inl (a.logRecord r)
    · have hlogged : Logged g (g.logRecord r) := ⟨[r], rfl⟩
      have hstat' := hlogged.stat_spared hspare (rfl : l = l) hstat
      exact .inr ⟨path, l, id, hpath, hstat', (hlogged.spares hspare).2, a.logRecord r⟩
  asked trace answers makeDirFaults setModeFaults tempDir a := by
    rcases a with a | ⟨path, l, id, hpath, hstat, hspare, a⟩
    · exact .inl ((steady_twins _).asked trace answers makeDirFaults setModeFaults tempDir a)
    · exact .inr ⟨path, l, id, hpath, hstat, hspare.same_disk ⟨rfl, rfl, rfl⟩ rfl,
        (steady_twins _).asked trace answers makeDirFaults setModeFaults tempDir a⟩

/-- **A path where a copy may come**: it leads to no special file, and log files spare it. -/
structure Takes (h : Host) (target : String) : Prop where
  plain : ∀ l s, h.disk.walk h.workDir target .newFile ≠ .ok (.found l (.special s))
  spared : h.LogsSpare (h.disk.fileAt h.workDir target)

/-- **Disks after a copy**, seen from a host with the first of them: they may differ in the bytes of a
    file that the path leads to, and that no log file is put aside to. -/
def Landed (h : Host) (target : String) (secret : List Nat) (d d' : Disk) : Prop :=
  ∃ l id, d.stat h.workDir target = .ok (l, .file id) ∧ SameBut (id :: secret) d d' ∧
    ∀ g, SameSetting h g → g.disk = d → g.LogsSpare { l }

theorem Landed.copiedTo {h g g' : Host} {target : String} {secret : List Nat} {d d' : Disk}
    (a : Landed h target secret d d') (hset : SameSetting h g) (hg : g.disk = d) (hg' : g'.disk = d')
    (hrest : g' = { g with disk := g'.disk }) : CopiedTo target secret g g' := by
  obtain ⟨l, id, hstat, hsame, hspare⟩ := a
  rw [← hset.workDir, ← hg] at hstat
  rw [← hg, ← hg'] at hsame
  exact .inr ⟨target, l, id, rfl, hstat, hspare g hset hg, hrest, hsame⟩

/-- **Two texts written to one path**, where a copy may come. -/
theorem Twins.written {secret : List Nat} {h h' : Host} (a : Twins secret h h') {target : String}
    (ht : h.Takes target) (text text' : String) :
    Agree (Landed h target secret) (h.disk.write (h.granted 0o666) h.workDir target text)
      (h'.disk.write (h'.granted 0o666) h'.workDir target text') := by
  obtain ⟨hrest, hd⟩ := a
  generalize h'.disk = d' at hrest hd
  subst hrest
  refine (hd.write ht.plain (h.granted 0o666) text text').mono fun e e' he => ?_
  obtain ⟨id, o, hopen, rfl, hfiles⟩ := he
  obtain ⟨l, hl, hstat⟩ := hopen.stat_fileAt
  refine ⟨l, id, stat_setContent text hstat, hfiles, fun g hset hg => ?_⟩
  -- log places stay log places, and the copy is at none of them
  have hspare : h.LogsSpare { l } := by
    refine ht.spared.mono fun m hm => ?_
    have hml : m = l := hm
    exact hml ▸ hl
  have hentries : ∀ m, g.disk.entryAt? m = o.entryAt? m := fun m => by
    rw [hg, entryAt?_setContent]
  refine hspare.keeps hset ?_ fun logs hp => (hp.opens hopen).of_entries hentries
  exact hopen.grows.ways.trans fun m e _ hm => (hentries m).trans hm

end Host

/-! ## Stores -/

/-- **Stores that differ in the bytes of what they hold**: asked for a path, or for a copy, they answer
    alike, and the copies are all that differs. -/
structure SharedStore.Alike (store store' : SharedStore) : Prop where
  build : ∀ {rel}, Steady rel → ∀ keytab cluster,
    Act.Keeps rel (store.build keytab cluster) (store'.build keytab cluster)
  names : ∀ keytab cluster h remote g, (store.build keytab cluster).on h = (.ok remote, g) →
    HasName remote
  copy : ∀ secret remote target,
    Act.Alike (fun h h' => h.Takes target ∧ Twins secret h h') (store.copy remote target false)
      (store'.copy remote target false) (fun _ _ => CopiedTo target secret) (CopiedTo target secret)

namespace Store

open Act

variable {rel : Host → Host → Prop}

/-! ## The mounted store -/

/-- Hosts on which every path leads to one place. -/
def SameSight (h h' : Host) : Prop := h'.workDir = h.workDir ∧ SameEntries h.disk h'.disk

theorem sameSight_of_twins {secret : List Nat} {h h' : Host} (a : Twins secret h h') :
    SameSight h h' := ⟨a.workDir, a.disk.sameEntries⟩

theorem keeps_resolve (s : ∀ h h', rel h h' → SameSight h h') (path : String) :
    Keeps rel (resolve path) (resolve path) := by
  unfold resolve
  refine (keeps_checkPath path).then fun _ => alike_get_bind fun h h' hrel => ?_
  obtain ⟨hwork, hentries⟩ := s h h' hrel
  rw [hentries.canonical, hwork]
  split
  · exact keeps_pure _
  · exact keeps_throw _

theorem keeps_locate (s : ∀ h h', rel h h' → SameSight h h') (store : LocalStore) (remote : String) :
    Keeps rel (store.locate remote) (store.locate remote) := by
  unfold LocalStore.locate
  refine (keeps_resolve s _).then fun l => ?_
  split
  · exact keeps_pure _
  · exact keeps_throw _

/-- A path that a store gives out has a name. -/
theorem hasName_of_keytabPath {base cluster keytab : Value} {remote : String} {h g : Host}
    (hp : (ofExcept (keytabPath base cluster keytab)).on h = (.ok remote, g)) : HasName remote := by
  rw [Act.on_ofExcept] at hp
  have hpath : keytabPath base cluster keytab = .ok remote := congrArg Prod.fst hp
  obtain ⟨k, rfl⟩ := keytabPath_str hpath
  exact keytabPath_name hpath

section Copies

variable {secret : List Nat}

/-- A write of two texts, once they have been read. -/
theorem alike_transfer {h h' : Host} (a : Twins secret h h') (source : String) {target : String}
    (ht : h.Takes target) :
    Act.Alike (fun g g' => g = h ∧ g' = h') (transfer source target h) (transfer source target h')
      (fun _ _ => CopiedTo target secret) (CopiedTo target secret) := by
  have hweak : ∀ g g' : Host, g = h ∧ g' = h' → CopiedTo target secret g g' := by
    rintro g g' ⟨rfl, rfl⟩
    exact .inl a
  have hread : Act.Alike (fun g g' => g = h ∧ g' = h')
      (Act.onDisk source fun d cwd => d.readOut cwd source)
      (Act.onDisk source fun d cwd => d.readOut cwd source)
      (fun t t' g g' => t'.2 = t.2 ∧ g = h ∧ g' = h') (fun g g' => g = h ∧ g' = h') := by
    refine alike_onDisk fun g g' hg => ?_
    obtain ⟨rfl, rfl⟩ := hg
    exact a.on_disks (fun _ t t' => t'.2 = t.2) (·.readOut · source) (·.readOut · source)
      fun cwd => a.disk.readOut cwd source
  have hgranted : h'.granted 0o666 = h.granted 0o666 := by
    unfold Host.granted
    rw [a.rest]
  have hopens := a.on_disks (fun _ o o' => o'.1 = o.1 ∧ SameBut secret o.2 o'.2)
    (·.openForWriting (h.granted 0o666) · target) (·.openForWriting (h.granted 0o666) · target)
    fun cwd => a.disk.openForWriting cwd target (h.granted 0o666)
  unfold transfer
  refine (hread.failing hweak).bind fun t t' => ?_
  obtain ⟨text, rest⟩ := t
  obtain ⟨text', rest'⟩ := t'
  have hwritten := a.written ht text text'
  unfold Disk.write at hwritten
  rw [hgranted] at hwritten ⊢
  have htrouble : ∀ r, openTrouble h'.disk h'.workDir r target = openTrouble h.disk h.workDir r target :=
    fun r => by
      unfold openTrouble
      rw [a.workDir, a.disk.sameEntries.stat]
  -- Opening answers alike in both runs, by the same file or by the same refusal.
  rcases hopens with ⟨r, ho, ho'⟩ | ⟨⟨o, d⟩, ⟨o', d'⟩, ho, ho', hoo, hd⟩
  · simp only [ho, ho', htrouble]
    exact Alike.throw _ fun _ _ b => hweak _ _ b.2
  · obtain rfl : o' = o := hoo
    rw [ho, ho'] at hwritten
    simp only [ho, ho']
    have hopen := opens_of_ok ho
    -- A special file keeps nothing, but no special file is at the target.
    rcases o' with id | s
    swap
    · cases hopen with
      | special hw _ _ => exact absurd hw (ht.plain _ s)
    rintro g g' ⟨hrest, rfl, rfl⟩
    obtain rfl : rest' = rest := hrest
    rcases hwritten with ⟨r, hr, _⟩ | ⟨e, e', he, he', hlanded⟩
    · exact nomatch hr
    · cases he
      cases he'
      rw [Act.on_bind_ok (Act.on_set _ g), Act.on_bind_ok (Act.on_set _ g')]
      have hcopied : CopiedTo target secret { g with disk := d.setContent id text }
          { g' with disk := d'.setContent id text' } :=
        hlanded.copiedTo ⟨rfl, rfl, rfl⟩ rfl rfl (by rw [a.rest])
      rcases rest' with _ | why
      · exact .inr ⟨⟨⟩, ⟨⟩, _, _, rfl, rfl, hcopied⟩
      · exact .inl ⟨_, _, _, rfl, rfl, hcopied⟩

/-- **Copying a file** ends alike: whether a file can be read does not depend on its bytes, and what
    was read goes to the path only. -/
theorem alike_copyFile (secret : List Nat) (source target : String) :
    Act.Alike (fun h h' => h.Takes target ∧ Twins secret h h') (copyFile source target)
      (copyFile source target) (fun _ _ => CopiedTo target secret) (CopiedTo target secret) := by
  have hweak : ∀ g g' : Host, g.Takes target ∧ Twins secret g g' → CopiedTo target secret g g' :=
    fun _ _ b => .inl b.2
  rw [copyFile_eq]
  refine ((keeps_checkPath target).failing hweak).then fun _ => ?_
  intro h h' b
  obtain ⟨ht, a⟩ := b
  -- What the checks before the copy ask of the disk, both disks answer alike.
  have hstat : ∀ path, h'.disk.stat h'.workDir path = h.disk.stat h.workDir path := fun path => by
    rw [a.workDir, a.disk.sameEntries.stat]
  have hpipe : ∀ path, refusePipe h'.disk h'.workDir path = refusePipe h.disk h.workDir path :=
    fun path => by
      unfold refusePipe
      rw [hstat]
  rw [Act.on_bind_ok (Act.on_get h), Act.on_bind_ok (Act.on_get h'), hstat source, hstat target,
    hpipe source, hpipe target]
  have hwas : ∀ g g' : Host, g = h ∧ g' = h' → CopiedTo target secret g g' := by
    rintro g g' ⟨rfl, rfl⟩
    exact .inl a
  have hrest := alike_transfer a source ht
  have hpipe (path : String) : Keeps (fun g g' => g = h ∧ g' = h')
      (Act.ofExcept (refusePipe h.disk h.workDir path))
      (Act.ofExcept (refusePipe h.disk h.workDir path)) :=
    keeps_ofExcept _
  have hpipes := ((hpipe source).failing hwas).then fun _ =>
    ((hpipe target).failing hwas).then fun _ => hrest
  split
  · split
    · exact .inl ⟨_, h, h', rfl, rfl, .inl a⟩
    · exact hpipes h h' ⟨rfl, rfl⟩
  · exact hpipes h h' ⟨rfl, rfl⟩

/-- **The mounted store** is alike to itself: it can lie on two hosts that differ in the bytes of
    files. -/
theorem LocalStore.alike (store : LocalStore) : store.shared.Alike store.shared where
  build _ _ _ := keeps_ofExcept _
  names _ _ _ _ _ h := hasName_of_keytabPath h
  copy := by
    intro secret remote target
    show Act.Alike (fun h h' => h.Takes target ∧ Twins secret h h') (store.copy remote target false)
      (store.copy remote target false) (fun _ _ => CopiedTo target secret) (CopiedTo target secret)
    unfold LocalStore.copy
    have hlocate : Keeps (fun h h' => h.Takes target ∧ Twins secret h h')
        (store.locate remote) (store.locate remote) :=
      keeps_locate (fun _ _ b => sameSight_of_twins b.2) store remote
    refine (hlocate.failing fun _ _ b => .inl b.2).then fun l => ?_
    refine (alike_copyFile secret (locationText l) target).bind fun _ _ => ?_
    exact ((steady_copiedIn _ secret).log _ _ _ _).then fun _ =>
      Alike.pure _ _ fun _ _ a => a

/-! ## The store in HDFS -/

/-- **Clients that download different bytes.**  On twins a download ends alike and does the same, but
    on the disk; there each client writes one text to the target, or none does.  (To a special file that
    takes nothing, not every text can be written.) -/
structure HdfsClient.Alike (client client' : HdfsClient) : Prop where
  download : ∀ secret remote target h h', Twins secret h h' →
    (∀ l s, h.disk.walk h.workDir target .newFile ≠ .ok (.found l (.special s))) →
    ∃ r g g' text text',
      (client.download remote target).on h = (r, g) ∧
      (client'.download remote target).on h' = (r, g') ∧
      g' = { g with disk := g'.disk } ∧ text'.isSome = text.isSome ∧
      Wrote target text h g ∧ Wrote target text' h' g'

/-- **Two texts are written alike** to a path where a copy may come. -/
theorem alike_writeText (secret : List Nat) (target text text' : String) :
    Act.Alike (fun h h' => h.Takes target ∧ Twins secret h h') (writeText target text)
      (writeText target text') (fun _ _ => CopiedTo target secret) (CopiedTo target secret) := by
  rintro h h' ⟨ht, a⟩
  rw [on_writeText, on_writeText, on_changeDisk, on_changeDisk]
  rcases Invalid.forSystem? target with _ | why
  · rcases a.written ht text text' with ⟨r, hr, hr'⟩ | ⟨d, d', hd, hd', hlanded⟩
    · rw [hr, hr']
      exact .inl ⟨_, h, h', rfl, rfl, .inl a⟩
    · rw [hd, hd']
      exact .inr ⟨⟨⟩, ⟨⟩, _, _, rfl, rfl,
        hlanded.copiedTo ⟨rfl, rfl, rfl⟩ rfl rfl (by rw [a.rest])⟩
  · exact .inl ⟨_, h, h', rfl, rfl, .inl a⟩

/-- Two services with different texts. -/
theorem HdfsClient.serving_alike (text text' : String) : (serving text).Alike (serving text') where
  download := by
    intro secret remote target h h' a hplain
    show ∃ r g g' t t', (writeText target text).on h = (r, g) ∧
      (writeText target text').on h' = (r, g') ∧ _
    obtain ⟨hrest, hd⟩ := a
    generalize h'.disk = d₀ at hrest hd
    subst hrest
    rw [on_writeText, on_writeText]
    rcases hp : Invalid.forSystem? target with _ | why
    · rcases hd.write hplain (h.granted 0o666) text text' with
        ⟨r, hr, hr'⟩ | ⟨d, d', hw, hw', id, o, _, _, hsame⟩
      · exact ⟨.error (.refused r target), h, { h with disk := d₀ }, none, none,
          changeDisk_refused hp hr, changeDisk_refused hp hr', rfl, rfl, Wrote.nothing target h,
          Wrote.nothing target _⟩
      · exact ⟨.ok ⟨⟩, { h with disk := d }, { h with disk := d' }, some text, some text',
          changeDisk_ok hp hw, changeDisk_ok hp hw', rfl, rfl, ⟨⟨rfl, rfl, rfl⟩, hw⟩,
          ⟨⟨rfl, rfl, rfl⟩, hw'⟩⟩
    · rw [on_changeDisk, on_changeDisk, hp]
      exact ⟨_, h, _, none, none, rfl, rfl, rfl, rfl, Wrote.nothing target h, Wrote.nothing target _⟩

/-- Different texts that were written to one path. -/
theorem copiedTo_of_wrote {target : String} {text text' : Option String} {h h' g g' : Host}
    (a : Twins secret h h') (ht : h.Takes target) (hw : Wrote target text h g)
    (hw' : Wrote target text' h' g') (hrest : g' = { g with disk := g'.disk })
    (htexts : text'.isSome = text.isSome) : CopiedTo target secret g g' := by
  have hdisk := hw.disk
  have hdisk' := hw'.disk
  rcases text with _ | t <;> rcases text' with _ | t'
  · have hg : g.disk = h.disk := hdisk
    have hg' : g'.disk = h'.disk := hdisk'
    refine .inl ⟨hrest, ?_⟩
    rw [hg, hg']
    exact a.disk
  · exact nomatch htexts
  · exact nomatch htexts
  · have hg : h.disk.write (h.granted 0o666) h.workDir target t = .ok g.disk := hdisk
    have hg' : h'.disk.write (h'.granted 0o666) h'.workDir target t' = .ok g'.disk := hdisk'
    have hboth := a.written ht t t'
    rw [hg, hg'] at hboth
    rcases hboth with ⟨_, he, _⟩ | ⟨d, d', hd, hd', hlanded⟩
    · exact nomatch he
    · cases hd
      cases hd'
      exact hlanded.copiedTo hw.setting rfl rfl hrest

/-- **The store in HDFS** is alike to the store with another such client. -/
theorem HdfsStore.alike (store : HdfsStore) {client' : HdfsClient} (hc : store.client.Alike client') :
    store.shared.Alike ({ store with client := client' } : HdfsStore).shared where
  build _ _ _ := keeps_ofExcept _
  names _ _ _ _ _ h := hasName_of_keytabPath h
  copy := by
    intro secret remote target
    show Act.Alike (fun h h' => h.Takes target ∧ Twins secret h h') (store.copy remote target false)
      (({ store with client := client' } : HdfsStore).copy remote target false)
      (fun _ _ => CopiedTo target secret) (CopiedTo target secret)
    have hdownload : Act.Alike (fun h h' => h.Takes target ∧ Twins secret h h')
        (store.client.download remote target) (client'.download remote target)
        (fun _ _ => CopiedTo target secret) (CopiedTo target secret) := by
      rintro h h' ⟨ht, a⟩
      obtain ⟨r, g, g', text, text', hon, hon', hrest, htexts, hw, hw'⟩ :=
        hc.download secret remote target h h' a ht.plain
      have hcopied := copiedTo_of_wrote a ht hw hw' hrest htexts
      rcases r with f | u
      · exact .inl ⟨f, g, g', hon, hon', hcopied⟩
      · exact .inr ⟨u, u, g, g', hon, hon', hcopied⟩
    unfold HdfsStore.copy reported
    refine (hdownload.tryCatch fun f => ?_).bind fun _ _ => ?_
    -- only a failure of the client itself is renamed, and its text is the same in both runs
    · split
      · refine (@keeps_ofExcept _ (CopiedTo target secret) _).then fun place => ?_
        refine alike_get_bind fun h h' a => ?_
        have hwords : h'.words = h.words := by rw [(steady_copiedIn _ secret).rest a]
        rw [hwords]
        exact (keeps_ofExcept _).then fun why => Alike.throw _ fun _ _ a => a
      · exact Alike.throw _ fun _ _ a => a
    · exact ((steady_copiedIn _ secret).log _ _ _ _).then fun _ =>
        Alike.pure _ _ fun _ _ a => a

end Copies

/-! ## Either kind -/

/-- **Stores of one kind**: one mounted store, or stores in HDFS with clients that download different
    bytes. -/
inductive AnyStore.Alike : AnyStore → AnyStore → Prop
  | onHost (store : LocalStore) : Alike (.onHost store) (.onHost store)
  | hdfs (store : HdfsStore) {client' : HdfsClient} (h : store.client.Alike client') :
      Alike (.hdfs store) (.hdfs { store with client := client' })

theorem AnyStore.Alike.shared {store store' : AnyStore} (a : store.Alike store') :
    store.shared.Alike store'.shared := by
  cases a with
  | onHost store => exact store.alike
  | hdfs store h => exact store.alike h

end Store

/-! ## Copies that fail -/

/-- **Faults that strike alike**: no fault, one before anything is written, or one after some of the
    bytes, which may differ. -/
inductive CopyFault.Alike : Option CopyFault → Option CopyFault → Prop
  | none : Alike none none
  | before (failure : Failure) : Alike (some ⟨failure, none⟩) (some ⟨failure, none⟩)
  | halfway (failure : Failure) (text text' : String) :
      Alike (some ⟨failure, some text⟩) (some ⟨failure, some text'⟩)

namespace SharedStore

variable {store store' : SharedStore}

theorem Alike.failing (a : store.Alike store') {fault fault' : Option CopyFault}
    (hf : CopyFault.Alike fault fault') : (store.failing fault).Alike (store'.failing fault') := by
  cases hf with
  | none => exact a
  | before failure =>
    refine ⟨a.build, a.names, fun secret remote target => ?_⟩
    have hnothing : Act.Keeps (fun h h' => h.Takes target ∧ Twins secret h h') (pure () : Act Unit)
        (pure ()) := Act.keeps_pure ()
    have hweak := hnothing.failing fun _ _ b => (.inl b.2 : CopiedTo target secret _ _)
    exact hweak.then fun _ => Act.Alike.throw failure fun _ _ b => .inl b.2
  | halfway failure text text' =>
    refine ⟨a.build, a.names, fun secret remote target => ?_⟩
    exact (Store.alike_writeText secret target text text').bind fun _ _ =>
      Act.Alike.throw failure fun _ _ b => b

end SharedStore

end SecureStartup
