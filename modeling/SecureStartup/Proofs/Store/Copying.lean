import SecureStartup.Proofs.Failure.Reason
import SecureStartup.Proofs.Host.Failing
import SecureStartup.Proofs.Host.LogFiles
import SecureStartup.Proofs.Store.Names
import SecureStartup.Store.Choice

/-!
  What a store does to the host when it is asked for a keytab.

  Program: `build_keytab_path` and `copy_to_local` of both stores.  `shutil.copyfile` refuses a source and
  a target that are one file, and named pipes; it opens the source, then the target, and writes the one to
  the other.

  How a copy goes, and what it leaves when it ends early, is said once for each store (`CopyGoes`).

  A store is FAITHFUL when saying where a keytab lies changes nothing, and copying writes the target
  only: it writes one text there, or nothing, and when it succeeds the text is what the store holds.

  1. The mounted store is faithful (`LocalStore.faithful`).
  2. The store in HDFS is as faithful as its client (`HdfsStore.faithful`), of which no more is asked.
  3. A store stays faithful when its copies are made to fail, before they begin or half-way
     (`SharedStore.Faithful.failing`).
-/

namespace SecureStartup

open SecureStartup.Store

/-! ## The contract -/

/-- On the way from one host to another nothing was written but, possibly, one text to a path. -/
structure Wrote (target : String) (text : Option String) (h h' : Host) : Prop where
  setting : Host.SameSetting h h'
  disk : match text with
    | none => h'.disk = h.disk
    | some t => h.disk.write (h.granted 0o666) h.workDir target t = .ok h'.disk

theorem Wrote.nothing (target : String) (h : Host) : Wrote target none h h :=
  ⟨Host.SameSetting.refl h, rfl⟩

/-- **A faithful store**; `path keytab cluster` is where it has the keytab of a cluster, and
    `held remote h text` says that the text is what lies at a path of the store, as seen from a
    host. -/
structure SharedStore.Faithful (store : SharedStore) (path : String → Value → Except Failure String)
    (held : String → Host → String → Prop) : Prop where
  build : ∀ keytab cluster h, (store.build (.str keytab) cluster).on h = (path keytab cluster, h)
  names : ∀ keytab cluster remote, path keytab cluster = .ok remote → HasName remote
  copy : ∀ remote target h, ∃ text h₁, Wrote target text h h₁ ∧
    Host.Logged h₁ ((store.copy remote target false).on h).2 ∧
    (((store.copy remote target false).on h).1 = .ok () → ∃ t, text = some t ∧ held remote h t)

namespace Store

/-! ## The mounted store -/

theorem resolve_on (path : String) (h : Host) : ((resolve path).on h).2 = h := by
  unfold resolve
  rw [Act.on_bind, Act.on_checkPath]
  rcases Invalid.forSystem? path with _ | why
  · show (((get : Act Host) >>= _).on h).2 = h
    rw [Act.on_bind_ok (Act.on_get h)]
    rcases h.disk.canonical h.workDir path with _ | _ <;> rfl
  · rfl

theorem locate_on (s : LocalStore) (remote : String) (h : Host) : ((s.locate remote).on h).2 = h := by
  unfold LocalStore.locate
  have hr := resolve_on (normalPath remote) h
  rw [Act.on_bind]
  rcases hx : (resolve (normalPath remote)).on h with ⟨f | l, h'⟩
  · rw [hx] at hr
    exact hr
  · rw [hx] at hr
    show ((if s.base.isPrefixOf l then pure l else throw _ : Act Location).on h').2 = h
    split <;> exact hr

/-- **How copying a file ends**: with a plain failure and nothing changed, or with what was read from
    the source written to the target; if the source could not be read to its end, it fails then. -/
def CopyEnds (source target : String) (h : Host) (r : Except Failure Unit × Host) : Prop :=
  (∃ f, r = (.error f, h) ∧ f.Plain) ∨
    ∃ text rest d, h.disk.readOut h.workDir source = .ok (text, rest) ∧
      h.disk.write (h.granted 0o666) h.workDir target text = .ok d ∧
      r.2 = { h with disk := d } ∧
      match rest with
      | none => r.1 = .ok ()
      | some why => r.1 = .error (readTrouble why)

theorem CopyEnds.nothing {source target : String} {h : Host} {f : Failure} (hf : f.Plain) :
    CopyEnds source target h (.error f, h) := .inl ⟨f, rfl, hf⟩

/-- The copying itself, once the two are known not to be one file, and neither a pipe. -/
def transfer (source target : String) (h : Host) : Act Unit := do
  let (text, rest) ← Act.onDisk source fun d cwd => d.readOut cwd source
  match h.disk.openForWriting (h.granted 0o666) h.workDir target with
  | .error r => throw (openTrouble h.disk h.workDir r target)
  | .ok (o, d) =>
    set { h with disk := d }
    match d.fill o text with
    | .error r => throw (writeTrouble r source target)
    | .ok d =>
      set { h with disk := d }
      if let some r := rest then throw (readTrouble r)

theorem copyFile_eq (source target : String) :
    copyFile source target = (do
      Act.checkPath target
      let h ← get
      match h.disk.stat h.workDir source, h.disk.stat h.workDir target with
      | .ok a, .ok b => if isSame a b then throw (.sameFile source target)
      | _, _ => pure ()
      Act.ofExcept (refusePipe h.disk h.workDir source)
      Act.ofExcept (refusePipe h.disk h.workDir target)
      transfer source target h) := rfl

theorem plain_openTrouble (d : Disk) (cwd : Location) (r : Refusal) (target : String) :
    (openTrouble d cwd r target).Plain := by
  unfold openTrouble
  split <;> exact .inl rfl

theorem plain_refusePipe {d : Disk} {cwd : Location} {path : String} {f : Failure}
    (h : refusePipe d cwd path = .error f) : f.Plain := by
  unfold refusePipe at h
  split at h
  · split at h
    · cases h
      exact .inl rfl
    · exact nomatch h
  · exact nomatch h

theorem transfer_on (source target : String) (h : Host) :
    CopyEnds source target h ((transfer source target h).on h) := by
  unfold transfer
  rw [Act.on_bind, Act.on_onDisk]
  rcases Invalid.forSystem? source with _ | why
  swap
  · exact .nothing (Failure.plain_invalid why)
  rcases hr : h.disk.readOut h.workDir source with r | ⟨text, rest⟩
  · exact .nothing (Failure.plain_refused r source)
  simp only
  rcases ho : h.disk.openForWriting (h.granted 0o666) h.workDir target with r | ⟨o, d⟩
  · exact .nothing (plain_openTrouble h.disk h.workDir r target)
  rcases hfill : d.fill o text with r | d'
  · -- what was opened takes nothing, so it is a special file, and was there
    have hopen := Disk.opens_of_ok ho
    cases hopen with
    | special _ _ _ =>
      simp only
      rw [Act.on_bind_ok (Act.on_set _ h), hfill]
      exact .nothing (.inl rfl)
    | file _ _ => exact nomatch hfill
    | new _ _ => exact nomatch hfill
  -- Opening and writing are what `Disk.write` is made of.
  · have hwrite : h.disk.write (h.granted 0o666) h.workDir target text = .ok d' := by
      unfold Disk.write
      rw [ho]
      exact hfill
    refine .inr ⟨text, rest, d', hr, hwrite, ?_⟩
    simp only
    rw [Act.on_bind_ok (Act.on_set _ h), hfill]
    rcases rest with _ | r
    · exact ⟨rfl, rfl⟩
    · exact ⟨rfl, rfl⟩

/-- **Copying a file** writes what was read from the source to the target, or nothing. -/
theorem copyFile_on (source target : String) (h : Host) :
    CopyEnds source target h ((copyFile source target).on h) := by
  rw [copyFile_eq, Act.on_bind, Act.on_checkPath]
  rcases Invalid.forSystem? target with _ | why
  swap
  · exact .nothing (Failure.plain_invalid why)
  show CopyEnds source target h (((get : Act Host) >>= _).on h)
  rw [Act.on_bind_ok (Act.on_get h)]
  have hpipes : CopyEnds source target h ((do
      Act.ofExcept (refusePipe h.disk h.workDir source)
      Act.ofExcept (refusePipe h.disk h.workDir target)
      transfer source target h : Act Unit).on h) := by
    rw [Act.on_bind, Act.on_ofExcept]
    rcases hs : refusePipe h.disk h.workDir source with f | _
    · exact .nothing (plain_refusePipe hs)
    simp only
    rw [Act.on_bind, Act.on_ofExcept]
    rcases ht : refusePipe h.disk h.workDir target with f | _
    · exact .nothing (plain_refusePipe ht)
    · exact transfer_on source target h
  split
  · split
    · exact .nothing (.inl rfl)
    · exact hpipes
  · exact hpipes

/-- What is neither a pipe nor copied onto itself, and can be read to its end, is copied. -/
theorem copyFile_ok {source target text : String} {h : Host} {a b : Location × Entry}
    {o : Disk.Opened} {d d' : Disk} (hp : Invalid.forSystem? source = none)
    (hp' : Invalid.forSystem? target = none) (hs : h.disk.stat h.workDir source = .ok a)
    (ht : h.disk.stat h.workDir target = .ok b) (hsame : isSame a b = false)
    (hps : refusePipe h.disk h.workDir source = .ok ())
    (hpt : refusePipe h.disk h.workDir target = .ok ())
    (hr : h.disk.readOut h.workDir source = .ok (text, none))
    (ho : h.disk.openForWriting (h.granted 0o666) h.workDir target = .ok (o, d))
    (hf : d.fill o text = .ok d') :
    (copyFile source target).on h = (.ok (), { h with disk := d' }) := by
  have hcheck : (Act.checkPath target).on h = (.ok (), h) := by
    rw [Act.on_checkPath, hp']
  have hpipe : ∀ path, refusePipe h.disk h.workDir path = .ok () →
      (Act.ofExcept (refusePipe h.disk h.workDir path)).on h = (.ok (), h) := by
    intro path hpath
    rw [Act.on_ofExcept, hpath]
  rw [copyFile_eq, Act.on_bind_ok hcheck, Act.on_bind_ok (Act.on_get h)]
  simp only [hs, ht, hsame]
  rw [if_neg Bool.false_ne_true, Act.on_bind_ok (hpipe source hps), Act.on_bind_ok (hpipe target hpt)]
  unfold transfer
  rw [Act.on_bind, Act.on_onDisk, hp, hr, ho]
  simp only
  rw [Act.on_bind_ok (Act.on_set _ h), hf]
  rfl

theorem refusePipe_file {d : Disk} {cwd l : Location} {path : String} {id : Nat}
    (hs : d.stat cwd path = .ok (l, .file id)) : refusePipe d cwd path = .ok () := by
  unfold refusePipe
  rw [hs]

/-- **How a copy from a mounted store goes**: the source is not located, or it is not copied, or it is
    copied and the copy is logged; then the name of the source is removed, if that was asked for. -/
inductive LocalStore.CopyGoes (s : LocalStore) (remote target : String) (h : Host) : Prop where
  | unlocated {f : Failure} (hl : (s.locate remote).on h = (.error f, h))
      (hcopy : ∀ del, (s.copy remote target del).on h = (.error f, h))
  | uncopied {l : Location} {f : Failure} {h₁ : Host} (hl : (s.locate remote).on h = (.ok l, h))
      (hc : (copyFile (Disk.locationText l) target).on h = (.error f, h₁))
      (hcopy : ∀ del, (s.copy remote target del).on h = (.error f, h₁))
  | copied {l : Location} {h₁ h₂ : Host} (hl : (s.locate remote).on h = (.ok l, h))
      (hc : (copyFile (Disk.locationText l) target).on h = (.ok (), h₁)) (hlog : Host.Logged h₁ h₂)
      (hkept : (s.copy remote target false).on h = (.ok (), h₂))
      (hmoved : (s.copy remote target true).on h = (Act.changeDisk (Disk.locationText l)
        fun d cwd => d.unlink cwd (Disk.locationText l)).on h₂)

theorem LocalStore.copyGoes (s : LocalStore) (remote target : String) (h : Host) :
    s.CopyGoes remote target h := by
  have hl := locate_on s remote h
  rcases hx : (s.locate remote).on h with ⟨f | l, h'⟩ <;> rw [hx] at hl <;>
    obtain rfl : h = h' := hl.symm
  · exact .unlocated hx fun del => Act.on_bind_error hx
  have hcopy : ∀ del, (s.copy remote target del).on h = _ := fun del => Act.on_bind_ok hx
  rcases hc : (copyFile (Disk.locationText l) target).on h with ⟨f | ⟨⟩, h₁⟩
  · exact .uncopied hx hc fun del => (hcopy del).trans (Act.on_bind_error hc)
  · exact .copied hx hc (Host.Logged.of_log _ _ _ _ h₁) ((hcopy false).trans (Act.on_bind_ok hc))
      ((hcopy true).trans (Act.on_bind_ok hc))

/-- What a mounted store holds at a path: the text of the file that lies at its canonical location,
    which is in the store. -/
def LocalStore.Held (s : LocalStore) (remote : String) (h : Host) (text : String) : Prop :=
  ∃ l, (s.locate remote).on h = (.ok l, h) ∧
    h.disk.read h.workDir (Disk.locationText l) = .ok text

/-- **The mounted store is faithful.** -/
theorem LocalStore.faithful (s : LocalStore) :
    s.shared.Faithful (fun keytab cluster => keytabPath (.str s.path) cluster (.str keytab))
      s.Held where
  build _ _ h := Act.on_ofExcept _ h
  names _ _ _ hp := keytabPath_name hp
  copy := by
    intro remote target h
    show ∃ text h₁, Wrote target text h h₁ ∧ Host.Logged h₁ ((s.copy remote target false).on h).2 ∧
      (((s.copy remote target false).on h).1 = .ok () → ∃ t, text = some t ∧ s.Held remote h t)
    have hends := fun l => copyFile_on (Disk.locationText l) target h
    cases s.copyGoes remote target h with
    | unlocated _ hcopy =>
      rw [hcopy]
      exact ⟨none, h, Wrote.nothing target h, Host.Logged.refl h, nofun⟩
    | uncopied _ hc hcopy =>
      rw [hcopy]
      rcases hc ▸ hends _ with ⟨_, hf, _⟩ | ⟨text, _, d, _, hw, rfl, _⟩
      · cases hf
        exact ⟨none, h, Wrote.nothing target h, Host.Logged.refl h, nofun⟩
      · -- the text was written, but the source could not be read to its end
        exact ⟨some text, { h with disk := d }, ⟨⟨rfl, rfl, rfl⟩, hw⟩, Host.Logged.refl _, nofun⟩
    | copied hl hc hlog hkept _ =>
      rw [hkept]
      rcases hc ▸ hends _ with ⟨_, hf, _⟩ | ⟨text, rest, d, hr, hw, rfl, hrest⟩
      · exact nomatch hf
      · cases rest with
        | none =>
          exact ⟨some text, { h with disk := d }, ⟨⟨rfl, rfl, rfl⟩, hw⟩, hlog,
            fun _ => ⟨text, rfl, _, hl, Disk.read_of_readOut hr⟩⟩
        | some why => exact nomatch hrest

/-! ## The store in HDFS -/

/-- **A faithful client** writes the target of a download and nothing else, and when it succeeds it
    has written what the service holds. -/
structure HdfsClient.Faithful (client : HdfsClient) (held : String → String) : Prop where
  download : ∀ remote target h, ∃ text,
    Wrote target text h ((client.download remote target).on h).2 ∧
    (((client.download remote target).on h).1 = .ok () → text = some (held remote))

/-- Reporting a failure as another one changes nothing. -/
theorem reported_on (what remote : String) (url : Value) (act : Act Unit) (h : Host) :
    ((reported what remote url act).on h).2 = (act.on h).2 ∧
      (((reported what remote url act).on h).1 = .ok () → (act.on h).1 = .ok ()) ∧
      ((act.on h).1 = .ok () → ((reported what remote url act).on h).1 = .ok ()) := by
  unfold reported
  rw [Act.on_tryCatch]
  rcases act.on h with ⟨f | a, h'⟩
  · simp only
    split
    · rw [Act.on_bind, Act.on_ofExcept]
      rcases url.written with g | place
      · exact ⟨rfl, nofun, nofun⟩
      simp only
      rw [Act.on_bind_ok (Act.on_get h'), Act.on_bind, Act.on_ofExcept]
      rcases f.text h'.words with g | why <;> exact ⟨rfl, nofun, nofun⟩
    · exact ⟨rfl, nofun, nofun⟩
  · exact ⟨rfl, fun _ => rfl, fun _ => rfl⟩

/-- **How a copy from a store in HDFS goes**: the download is refused and that is reported, or it is
    logged; then the client is asked to remove the file, if that was asked for. -/
inductive HdfsStore.CopyGoes (s : HdfsStore) (remote target : String) (h : Host) : Prop where
  | refused {f g : Failure} {h₁ : Host}
      (hdown : (s.client.download remote target).on h = (.error f, h₁))
      (hcopy : ∀ del, (s.copy remote target del).on h = (.error g, h₁))
  | downloaded {h₁ h₂ : Host} (hdown : (s.client.download remote target).on h = (.ok (), h₁))
      (hlog : Host.Logged h₁ h₂) (hkept : (s.copy remote target false).on h = (.ok (), h₂))
      (hmoved : (s.copy remote target true).on h =
        (reported "delete" remote s.url (s.client.delete remote)).on h₂)

theorem HdfsStore.copyGoes (s : HdfsStore) (remote target : String) (h : Host) :
    s.CopyGoes remote target h := by
  obtain ⟨hhost, hfrom, hto⟩ := reported_on "copy" remote s.url (s.client.download remote target) h
  rcases hd : (s.client.download remote target).on h with ⟨f | ⟨⟩, h₁⟩ <;>
    rcases hx : (reported "copy" remote s.url (s.client.download remote target)).on h with
      ⟨g | ⟨⟩, h₂⟩ <;>
    rw [hd, hx] at hhost hfrom hto <;> obtain rfl : h₂ = h₁ := hhost
  · exact .refused hd fun del => Act.on_bind_error hx
  · exact nomatch hfrom rfl
  · exact nomatch hto rfl
  · exact .downloaded hd (Host.Logged.of_log _ _ _ _ h₂) (Act.on_bind_ok hx) (Act.on_bind_ok hx)

/-- **The store in HDFS is as faithful as its client.** -/
theorem HdfsStore.faithful (s : HdfsStore) {held : String → String} (hc : s.client.Faithful held) :
    s.shared.Faithful (fun keytab cluster => keytabPath s.base cluster (.str keytab))
      fun remote _ text => held remote = text where
  build _ _ h := Act.on_ofExcept _ h
  names _ _ _ hp := keytabPath_name hp
  copy := by
    intro remote target h
    show ∃ text h₁, Wrote target text h h₁ ∧ Host.Logged h₁ ((s.copy remote target false).on h).2 ∧
      (((s.copy remote target false).on h).1 = .ok () → ∃ t, text = some t ∧ held remote = t)
    obtain ⟨text, hw, hok⟩ := hc.download remote target h
    cases s.copyGoes remote target h with
    | refused hdown hcopy =>
      rw [hdown] at hw
      rw [hcopy]
      exact ⟨text, _, hw, Host.Logged.refl _, nofun⟩
    | downloaded hdown hlog hkept _ =>
      rw [hdown] at hw hok
      rw [hkept]
      exact ⟨text, _, hw, hlog, fun _ => ⟨_, hok rfl, rfl⟩⟩

/-- Where there is no library for clients, none is made. -/
def noClients : Clients := fun _ _ => throw (.invalid (.other "no client"))

end Store

/-! ## Writing a text -/

/-- Write a text to a path of the host. -/
def Act.writeText (target text : String) : Act Unit := do
  let h ← get
  Act.changeDisk target fun d cwd => d.write (h.granted 0o666) cwd target text

theorem Act.on_writeText (target text : String) (h : Host) :
    (Act.writeText target text).on h =
      (Act.changeDisk target fun d cwd => d.write (h.granted 0o666) cwd target text).on h :=
  Act.on_bind_ok (Act.on_get h)

/-- A text was written, or nothing. -/
theorem wrote_writeText (target text : String) (h : Host) :
    ∃ t, Wrote target t h ((Act.writeText target text).on h).2 ∧
      (((Act.writeText target text).on h).1 = .ok () → t = some text) := by
  rw [Act.on_writeText, Act.on_changeDisk]
  rcases Invalid.forSystem? target with _ | why
  · rcases hw : h.disk.write (h.granted 0o666) h.workDir target text with r | d
    · exact ⟨none, Wrote.nothing target h, nofun⟩
    · exact ⟨some text, ⟨⟨rfl, rfl, rfl⟩, hw⟩, fun _ => rfl⟩
  · exact ⟨none, Wrote.nothing target h, nofun⟩

/-- A client of a service that holds one text. -/
def Store.HdfsClient.serving (text : String) : HdfsClient where
  name := "serving"
  download _ target := Act.writeText target text
  delete _ := pure ()

theorem Store.HdfsClient.serving_faithful (text : String) :
    (HdfsClient.serving text).Faithful fun _ => text where
  download _ target h := wrote_writeText target text h

/-! ## Copies that fail -/

/-- A failure of a copy that comes from outside: before anything is written, or after some text. -/
structure CopyFault where
  failure : Failure
  left : Option String

/-- A store whose copies fail. -/
def SharedStore.failing (store : SharedStore) : Option CopyFault → SharedStore
  | none => store
  | some fault =>
    { store with
      copy := fun _ target _ => do
        match fault.left with
        | some text => Act.writeText target text
        | none => pure ()
        throw fault.failure }

/-- **A store stays faithful** when its copies fail. -/
theorem SharedStore.Faithful.failing {store : SharedStore}
    {path : String → Value → Except Failure String} {held : String → Host → String → Prop}
    (a : store.Faithful path held) (fault : Option CopyFault) :
    (store.failing fault).Faithful path held := by
  rcases fault with _ | ⟨failure, left⟩
  · exact a
  · refine ⟨a.build, a.names, fun remote target h => ?_⟩
    rcases left with _ | text
    · exact ⟨none, h, Wrote.nothing target h, Host.Logged.refl h, nofun⟩
    · obtain ⟨t, hwrote, _⟩ := wrote_writeText target text h
      have hon : ((SharedStore.failing store (some ⟨failure, some text⟩)).copy remote target false).on h =
          (Act.writeText target text >>= fun _ => throw failure).on h := rfl
      rw [hon, Act.on_bind]
      rcases hw : (Act.writeText target text).on h with ⟨f | _, h'⟩ <;> rw [hw] at hwrote
      · exact ⟨t, h', hwrote, Host.Logged.refl h', nofun⟩
      · exact ⟨t, h', hwrote, Host.Logged.refl h', nofun⟩

end SecureStartup
