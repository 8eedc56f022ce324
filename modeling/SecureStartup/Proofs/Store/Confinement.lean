import SecureStartup.Proofs.Disk.Straight
import SecureStartup.Proofs.Store.Refusals

/-!
  A mounted store gives out nothing that lies outside of it.

  1. **Program** — `LocalSharedFileSystem` is made from a path and keeps its canonical location
     (`Path.resolve`); `copy_to_local` resolves the path that it is asked for (`_validate_remote_path`),
     refuses it as leading out of the store when the store's location is not a leading part of where it
     leads, and otherwise copies from the text of that location (`shutil.copyfile`).

  2. **Specification** — `Host.LeadsTo`, all links followed, which knows nothing of the search.  On a
     disk whose links end every path leads to exactly one place, and the refusal, an untouched host
     and the file that is copied are all told by that place (`LocalStore.Confines`).

  3. **The idea** — what is checked is a location, and what is opened is a text.  They are one and the
     same because canonical locations are straight: no link is left that the opening could follow.

  4. **What may be copied** — a regular file, and a special file that can be opened: the copy is of what
     reading it gives, and what it gives is the system's matter (`copy_confined_limits`).

  A text that the system cannot be given as a path is refused for that, before anything is looked up.
-/

namespace SecureStartup

open SecureStartup.Store SecureStartup.Disk

/-! ## Where a path leads -/

/-- **Where a path leads**, seen from a host: its canonical location, all links followed. -/
def Host.LeadsTo (h : Host) (path : String) (l : Location) : Prop :=
  h.disk.Canonical (pathStart h.workDir path) (pathPieces path) l

theorem Host.LeadsTo.straight {h : Host} {path : String} {l : Location} (a : h.LeadsTo path l)
    (hw : h.disk.IsStraight h.workDir) : h.disk.IsStraight l := by
  obtain ⟨n, hf⟩ := a
  exact hf.straight (fun _ hn => not_mem_of_mem_pathPieces hn) (hw.pathStart path)

namespace Store

/-- **Resolving a path** finds where it leads. -/
theorem resolve_leads {h : Host} (hl : h.disk.LinksEnd) {path : String}
    (hp : Invalid.forSystem? path = none) :
    ∃ l, (resolve path).on h = (.ok l, h) ∧ h.LeadsTo path l := by
  obtain ⟨⟨rooted, l⟩, hc⟩ := hl (startsAtRoot path) (if startsAtRoot path then [] else h.workDir)
    (pathPieces path)
  have hcanonical : h.disk.canonical h.workDir path = .ok l := by
    unfold Disk.canonical
    simp only [hc]
  refine ⟨l, ?_, canonical_of_canonicalFrom _ _ _ _ _ _ hc⟩
  unfold resolve
  rw [Act.on_bind, Act.on_checkPath, hp]
  show (((get : Act Host) >>= _).on h) = _
  rw [Act.on_bind_ok (Act.on_get h), hcanonical]
  rfl

theorem resolve_refused {path : String} {why : Invalid} (hp : Invalid.forSystem? path = some why)
    (h : Host) : (resolve path).on h = (.error (.invalid why), h) := by
  unfold resolve
  rw [Act.on_bind, Act.on_checkPath, hp]

/-- **Making a store** finds where its path leads. -/
theorem LocalStore.at_leads {h : Host} (hl : h.disk.LinksEnd) {base : String}
    (hb : Invalid.forSystem? (normalPath base) = none) :
    ∃ s : LocalStore, (LocalStore.at_ (.str base)).on h = (.ok s, h) ∧ h.LeadsTo base s.base := by
  obtain ⟨l, hr, hleads⟩ := resolve_leads hl hb
  refine ⟨⟨l⟩, ?_, (canonical_normalPath base).mp hleads⟩
  have hpath : (Act.ofExcept (Value.str base).asPath).on h = (.ok (PurePath.ofString base), h) := rfl
  exact (Act.on_bind_ok hpath).trans (Act.on_bind_ok hr)

/-! ## Locating -/

/-- Whether a location is in the store decides. -/
theorem LocalStore.locate_leads (s : LocalStore) {h : Host} (hl : h.disk.LinksEnd) {remote : String}
    (hr : Invalid.forSystem? (normalPath remote) = none) :
    ∃ l, h.LeadsTo remote l ∧ (s.locate remote).on h =
      (if s.base <+: l then .ok l else .error (.invalid (.escapesStore remote)), h) := by
  obtain ⟨l, hres, hleads⟩ := resolve_leads hl hr
  refine ⟨l, (canonical_normalPath remote).mp hleads, ?_⟩
  unfold LocalStore.locate
  rw [Act.on_bind_ok hres]
  by_cases hp : s.base <+: l
  · rw [if_pos hp, if_pos (List.isPrefixOf_iff_prefix.mpr hp)]
    rfl
  · rw [if_neg hp, if_neg fun h => hp (List.isPrefixOf_iff_prefix.mp h)]
    rfl

theorem LocalStore.locate_refused (s : LocalStore) {remote : String} {why : Invalid}
    (hr : Invalid.forSystem? (normalPath remote) = some why) (h : Host) :
    (s.locate remote).on h = (.error (.invalid why), h) := by
  unfold LocalStore.locate
  exact Act.on_bind_error (resolve_refused hr h)

/-! ## Copying -/

/-- A failure that does not speak of leading out of a store. -/
def StaysIn (f : Failure) : Prop := ∀ remote, f ≠ .invalid (.escapesStore remote)

theorem staysIn_forSystem {path : String} {why : Invalid}
    (h : Invalid.forSystem? path = some why) : StaysIn (.invalid why) := by
  rintro remote ⟨⟩
  unfold Invalid.forSystem? at h
  split at h
  · rename_i hbytes
    cases h
    obtain ⟨_, _, hp⟩ := Option.map_eq_some_iff.mp hbytes
    exact nomatch hp
  · split at h <;> exact nomatch h

theorem staysIn_checkPath (path : String) (h : Host) :
    Act.FailsOnly StaysIn (Act.checkPath path) h :=
  Act.failsOnly_checkPath_of fun _ hp => staysIn_forSystem hp

theorem staysIn_onDisk {α : Type} (path : String) (op : Disk → Location → Except Refusal α)
    (h : Host) : Act.FailsOnly StaysIn (Act.onDisk path op) h :=
  Act.failsOnly_onDisk_of op (fun _ hp => staysIn_forSystem hp) fun _ => nofun

theorem staysIn_refusePipe {d : Disk} {cwd : Location} {path : String} {f : Failure}
    (hf : refusePipe d cwd path = .error f) : StaysIn f := by
  unfold refusePipe at hf
  split at hf
  · split at hf
    · cases hf
      exact nofun
    · exact nomatch hf
  · exact nomatch hf

theorem staysIn_openTrouble (d : Disk) (cwd : Location) (r : Refusal) (path : String) :
    StaysIn (openTrouble d cwd r path) := by
  unfold openTrouble
  split <;> exact nofun

theorem staysIn_transfer (source target : String) (before h : Host) :
    Act.FailsOnly StaysIn (transfer source target before) h := by
  refine Act.failsOnly_bind (staysIn_onDisk source _ h) fun ⟨text, rest⟩ h₁ _ => ?_
  simp only
  rcases before.disk.openForWriting (before.granted 0o666) before.workDir target with r | ⟨o, d⟩
  · exact Act.failsOnly_throw (staysIn_openTrouble _ _ _ _)
  refine Act.failsOnly_bind (h := h₁) (fun _ => nofun) fun _ h₂ _ => ?_
  rcases d.fill o text with r | d'
  · exact Act.failsOnly_throw nofun
  refine Act.failsOnly_bind (h := h₂) (fun _ => nofun) fun _ _ _ => ?_
  cases rest with
  | some r => exact Act.failsOnly_throw nofun
  | none => exact Act.failsOnly_pure _

/-- **Copying a file** never speaks of leading out of a store. -/
theorem staysIn_copyFile (source target : String) (h : Host) :
    Act.FailsOnly StaysIn (copyFile source target) h := by
  have hpipes : ∀ g : Host, Act.FailsOnly StaysIn (do
      Act.ofExcept (refusePipe g.disk g.workDir source)
      Act.ofExcept (refusePipe g.disk g.workDir target)
      transfer source target g) h := fun g =>
    Act.failsOnly_ofExcept_bind (fun _ => staysIn_refusePipe) fun _ =>
      Act.failsOnly_ofExcept_bind (fun _ => staysIn_refusePipe) fun _ =>
        staysIn_transfer source target g h
  rw [copyFile_eq]
  refine Act.failsOnly_bind (staysIn_checkPath target h) fun _ h₁ hcheck => ?_
  obtain rfl : h = h₁ := by
    rw [Act.on_checkPath] at hcheck
    exact congrArg Prod.snd hcheck
  refine Act.failsOnly_bind (fun _ => nofun) fun g h₂ hget => ?_
  obtain rfl : h = h₂ := congrArg Prod.snd hget
  split
  · split
    · exact Act.failsOnly_throw nofun
    · exact hpipes g
  · exact hpipes g

/-- **A copy of what lies at a location** was made: its content was written to the target, and if it
    was to be deleted its name is gone. -/
def Copied (l : Location) (target : String) (deleteSource : Bool) (h h' : Host) : Prop :=
  ∃ text h₁ h₂, h.disk.Holds l text ∧ Wrote target (some text) h h₁ ∧ Host.Logged h₁ h₂ ∧
    if deleteSource then
      ∃ d, h₂.disk.unlink h₂.workDir (locationText l) = .ok d ∧ h' = { h₂ with disk := d }
    else h' = h₂

/-- **What a store does when it is asked for a path** that leads to a location. -/
structure LocalStore.Confines (s : LocalStore) (l : Location) (remote target : String)
    (deleteSource : Bool) (h : Host) : Prop where
  /-- It is refused as leading out of the store exactly when it does. -/
  refuses : ((s.copy remote target deleteSource).on h).1 = .error (.invalid (.escapesStore remote)) ↔
    ¬ s.base <+: l
  /-- Then nothing changes, on the disk or elsewhere. -/
  keeps : ¬ s.base <+: l → ((s.copy remote target deleteSource).on h).2 = h
  /-- What is copied is what lies at that location, in the store. -/
  copies : ((s.copy remote target deleteSource).on h).1 = .ok () →
    s.base <+: l ∧ Copied l target deleteSource h ((s.copy remote target deleteSource).on h).2
  /-- It is not the store itself, when that is a directory. -/
  below : ((s.copy remote target deleteSource).on h).1 = .ok () →
    (∀ text, ¬ h.disk.Holds s.base text) → l ≠ s.base

section InStore

variable {s : LocalStore} {l : Location} {remote : String} {h : Host}
  (hloc : (s.locate remote).on h = (.ok l, h))

include hloc

/-- A copy of what lies in the store is not refused for leading out of it. -/
theorem staysIn_copy (target : String) (deleteSource : Bool) :
    Act.FailsOnly StaysIn (s.copy remote target deleteSource) h := by
  have hlocate : Act.FailsOnly StaysIn (s.locate remote) h := by
    intro f hf
    rw [hloc] at hf
    exact nomatch hf
  refine Act.failsOnly_bind hlocate fun _ h₁ _ => ?_
  refine Act.failsOnly_bind (staysIn_copyFile _ target h₁) fun _ _ _ => ?_
  refine Act.failsOnly_bind (Act.failsOnly_log _ _ _ _) fun _ h₂ _ => ?_
  split
  · exact Act.failsOnly_bind (staysIn_onDisk _ _ h₂) fun _ _ _ => nofun
  · exact nofun

/-- **What is copied** is the file at the straight location that was checked. -/
theorem copied_of_copy (hl : h.disk.IsStraight l) {target : String} {deleteSource : Bool}
    (hok : ((s.copy remote target deleteSource).on h).1 = .ok ()) :
    Copied l target deleteSource h ((s.copy remote target deleteSource).on h).2 := by
  cases s.copyGoes remote target h with
  | unlocated hl' _ => exact nomatch hloc.symm.trans hl'
  | uncopied _ _ hcopy =>
    rw [hcopy] at hok
    exact nomatch hok
  | copied hl' hc hlog hkept hmoved =>
    cases hloc.symm.trans hl'
    have hends := copyFile_on (locationText l) target h
    rw [hc] at hends
    -- A copy that succeeds has read the source to its end.
    rcases hends with ⟨f, hf, _⟩ | ⟨text, rest, d, hr, hw, rfl, hrest⟩
    · exact nomatch hf
    obtain rfl : rest = none := by
      cases rest with
      | none => rfl
      | some why => exact nomatch hrest
    refine ⟨text, { h with disk := d }, _, readOut_straight hl hr, ⟨⟨rfl, rfl, rfl⟩, hw⟩, hlog, ?_⟩
    cases deleteSource with
    | false => exact congrArg Prod.snd hkept
    | true =>
      rw [hmoved] at hok ⊢
      exact Act.changeDisk_eq_ok hok

end InStore

/-- **The store confines**: a path that the system can be given leads somewhere, and that place
    tells what becomes of a copy. -/
theorem LocalStore.confines (s : LocalStore) {h : Host} (hl : h.disk.LinksEnd)
    (hw : h.disk.IsStraight h.workDir) {remote : String}
    (hr : Invalid.forSystem? (normalPath remote) = none) (target : String) (deleteSource : Bool) :
    ∃ l, h.LeadsTo remote l ∧ s.Confines l remote target deleteSource h := by
  obtain ⟨l, hleads, hloc⟩ := s.locate_leads hl hr
  refine ⟨l, hleads, ?_⟩
  by_cases hp : s.base <+: l
  · rw [if_pos hp] at hloc
    have hstay := staysIn_copy hloc target deleteSource
    exact {
      refuses := ⟨fun h => absurd rfl (hstay _ h remote), fun hn => absurd hp hn⟩
      keeps := fun hn => absurd hp hn
      copies := fun hok => ⟨hp, copied_of_copy hloc (hleads.straight hw) hok⟩
      below := by
        rintro hok hbase rfl
        obtain ⟨text, _, _, hholds, _⟩ := copied_of_copy hloc (hleads.straight hw) hok
        exact hbase text hholds }
  -- it leads out of the store: that is all that happens
  · rw [if_neg hp] at hloc
    have hon : (s.copy remote target deleteSource).on h =
        (.error (.invalid (.escapesStore remote)), h) := Act.on_bind_error hloc
    exact {
      refuses := by
        rw [hon]
        exact ⟨fun _ => hp, fun _ => rfl⟩
      keeps := fun _ => by rw [hon]
      copies := fun hok => by
        rw [hon] at hok
        exact nomatch hok
      below := fun hok => by
        rw [hon] at hok
        exact nomatch hok }

/-- **Confinement.**  A store made from a path is known by where that path leads.  On every host, with
    links of any kind that end, a path of the store is refused as leading out of it exactly when the
    place it leads to is not that of the store or below, name by name; then nothing changes.  When
    the copy succeeds, what was written to the target is the content of the regular file at that
    place, which is in the store, and is not the store itself unless a file was made one.  Only a
    text that is no path for the system is refused before all that. -/
theorem LocalStore.copy_confined {base : String} {h₀ : Host}
    (hb : Invalid.forSystem? (normalPath base) = none) (hl₀ : h₀.disk.LinksEnd) :
    ∃ s : LocalStore, (LocalStore.at_ (.str base)).on h₀ = (.ok s, h₀) ∧ h₀.LeadsTo base s.base ∧
      ∀ (h : Host) (remote target : String) (deleteSource : Bool), h.disk.LinksEnd →
        h.disk.IsStraight h.workDir →
        match Invalid.forSystem? (normalPath remote) with
        | some why => (s.copy remote target deleteSource).on h = (.error (.invalid why), h)
        | none => ∃ l, (∀ m, h.LeadsTo remote m ↔ m = l) ∧
            s.Confines l remote target deleteSource h := by
  obtain ⟨s, hmade, hleads⟩ := LocalStore.at_leads hl₀ hb
  refine ⟨s, hmade, hleads, ?_⟩
  intro h remote target deleteSource hl hw
  rcases hr : Invalid.forSystem? (normalPath remote) with _ | why
  · obtain ⟨l, hl', hconfines⟩ := s.confines hl hw hr target deleteSource
    exact ⟨l, fun m => ⟨fun hm => hm.unique hl', fun hm => hm ▸ hl'⟩, hconfines⟩
  · exact Act.on_bind_error (s.locate_refused hr h)

/-- A host with a store at `/mnt/shared`, in which a link leads out of it. -/
def linkedHost : Host :=
  { disk := {
      entries := [(["mnt"], .directory 0o755), (["mnt", "shared"], .directory 0o755),
        (["mnt", "shared", "out"], .link "/etc/key"), (["etc"], .directory 0o755),
        (["etc", "key"], .file 0)]
      files := [(0, ⟨0o644, "secret"⟩)]
      nextId := 1 } }

theorem linkedHost_straight :
    linkedHost.disk.IsStraight ["mnt", "shared"] ∧ linkedHost.disk.IsStraight ["etc", "key"] := by
  have hroot := isStraight_nil linkedHost.disk
  have hmnt : linkedHost.disk.IsStraight ["mnt"] :=
    hroot.concat ⟨by decide, by decide, by decide⟩ (by decide) rfl
  have hetc : linkedHost.disk.IsStraight ["etc"] :=
    hroot.concat ⟨by decide, by decide, by decide⟩ (by decide) rfl
  exact ⟨hmnt.concat ⟨by decide, by decide, by decide⟩ (by decide) rfl,
    hetc.concat ⟨by decide, by decide, by decide⟩ (by decide) rfl⟩

/-- The target of the link leads to the key. -/
theorem linkedHost_key : linkedHost.disk.Canonical [] (pathPieces "/etc/key") ["etc", "key"] := by
  have hpieces : pathPieces "/etc/key" = ["etc", "key"] := by decide +kernel
  have hkey : linkedHost.disk.IsStraight ([] ++ ["etc", "key"]) := linkedHost_straight.2
  rw [hpieces]
  exact hkey.canonical

theorem linkedHost_linksEnd : linkedHost.disk.LinksEnd := by
  refine linksEnd_iff.mpr (canonical_total ?_)
  intro dir name target hv
  have hmem := mem_of_visibleLink? hv
  simp [linkedHost] at hmem
  obtain ⟨_, rfl⟩ := hmem
  exact ⟨_, linkedHost_key⟩

/-- The store lies where its path says, and the link leads to the key. -/
theorem linkedHost_leads : linkedHost.LeadsTo "/mnt/shared" ["mnt", "shared"] ∧
    linkedHost.LeadsTo "/mnt/shared/out" ["etc", "key"] := by
  have hbase : pathPieces "/mnt/shared" = ["mnt", "shared"] := by decide +kernel
  have hout : pathPieces "/mnt/shared/out" = ["mnt", "shared", "out"] := by decide +kernel
  have hstore : linkedHost.disk.IsStraight ([] ++ ["mnt", "shared"]) := linkedHost_straight.1
  constructor
  · show linkedHost.disk.Canonical [] (pathPieces "/mnt/shared") _
    rw [hbase]
    exact hstore.canonical
  · show linkedHost.disk.Canonical [] (pathPieces "/mnt/shared/out") _
    have hlink : linkedHost.disk.visibleLink? ["mnt", "shared"] "out" = some "/etc/key" := rfl
    rw [hout]
    refine (canonical_down ⟨by decide, by decide, by decide⟩ rfl).mpr ?_
    refine (canonical_down ⟨by decide, by decide, by decide⟩ rfl).mpr ?_
    exact (canonical_link ⟨by decide, by decide, by decide⟩ hlink).mpr
      ⟨_, linkedHost_key, canonical_nil.mpr rfl⟩

theorem copy_confined_link_out :
    Invalid.forSystem? (normalPath "/mnt/shared") = none ∧ linkedHost.disk.LinksEnd ∧
      linkedHost.disk.IsStraight linkedHost.workDir ∧
      ∃ s : LocalStore, (LocalStore.at_ (.str "/mnt/shared")).on linkedHost = (.ok s, linkedHost) ∧
        (s.copy "/mnt/shared/out" "/key" true).on linkedHost =
          (.error (.invalid (.escapesStore "/mnt/shared/out")), linkedHost) := by
  have hbase : Invalid.forSystem? (normalPath "/mnt/shared") = none := by decide +kernel
  have hremote : Invalid.forSystem? (normalPath "/mnt/shared/out") = none := by decide +kernel
  have hcwd : linkedHost.disk.IsStraight linkedHost.workDir := isStraight_nil _
  refine ⟨hbase, linkedHost_linksEnd, hcwd, ?_⟩
  obtain ⟨s, hmade, hleads, hcopy⟩ := LocalStore.copy_confined hbase linkedHost_linksEnd
  have hs : s.base = ["mnt", "shared"] := hleads.unique linkedHost_leads.1
  have hout := hcopy linkedHost "/mnt/shared/out" "/key" true linkedHost_linksEnd hcwd
  rw [hremote] at hout
  obtain ⟨l, hl, hconfines⟩ := hout
  obtain rfl : ["etc", "key"] = l := (hl _).mp linkedHost_leads.2
  have hescapes : ¬ s.base <+: ["etc", "key"] := by
    rw [hs]
    decide
  exact ⟨s, hmade, Prod.ext (hconfines.refuses.mpr hescapes) (hconfines.keeps hescapes)⟩

/-- A host where the store is a file. -/
def fileHost : Host :=
  { disk := {
      entries := [(["k"], .file 0), (["out"], .file 1)]
      files := [(0, ⟨0o644, "new"⟩), (1, ⟨0o644, "old"⟩)]
      nextId := 2 } }

theorem fileHost_walk (aim : Aim) :
    fileHost.disk.walk fileHost.workDir "/k" aim = .ok (.found ["k"] (.file 0)) ∧
      fileHost.disk.walk fileHost.workDir "/out" aim = .ok (.found ["out"] (.file 1)) := by
  have hk : pathNames "/k" = ["k"] := by decide +kernel
  have hout : pathNames "/out" = ["out"] := by decide +kernel
  have hroot : fileHost.disk.entryAt? [] = some (.directory rootMode) := rfl
  constructor
  · rw [walk_eq aim (by decide), if_neg (by decide), hk]
    exact walkFrom_file hroot (by decide) ⟨by decide, by decide, by decide⟩ rfl aim maxLinks
  · rw [walk_eq aim (by decide), if_neg (by decide), hout]
    exact walkFrom_file hroot (by decide) ⟨by decide, by decide, by decide⟩ rfl aim maxLinks

theorem fileHost_leads : fileHost.LeadsTo "/k" ["k"] := by
  have hk : pathPieces "/k" = ["k"] := by decide +kernel
  show fileHost.disk.Canonical [] (pathPieces "/k") _
  rw [hk]
  exact (canonical_down ⟨by decide, by decide, by decide⟩ rfl).mpr (canonical_nil.mpr rfl)

theorem fileHost_linksEnd : fileHost.disk.LinksEnd := by
  refine linksEnd_of_entries ?_
  intro x hx target
  simp only [fileHost, List.mem_cons, List.not_mem_nil, or_false] at hx
  rcases hx with rfl | rfl <;> exact nofun

/-- The file is copied. -/
theorem fileHost_copyFile : ((copyFile "/k" "/out").on fileHost).1 = .ok () := by
  have hk : Invalid.forSystem? "/k" = none := by decide +kernel
  have hout : Invalid.forSystem? "/out" = none := by decide +kernel
  have hsource : fileHost.disk.stat fileHost.workDir "/k" = .ok (["k"], .file 0) :=
    stat_eq_ok.mpr (fileHost_walk .target).1
  have htarget : fileHost.disk.stat fileHost.workDir "/out" = .ok (["out"], .file 1) :=
    stat_eq_ok.mpr (fileHost_walk .target).2
  have hread : fileHost.disk.readOut fileHost.workDir "/k" = .ok ("new", none) :=
    readOut_file hsource rfl (by decide)
  have hopen : fileHost.disk.openForWriting (fileHost.granted 0o666) fileHost.workDir "/out" =
      .ok (.file 1, fileHost.disk) := by
    rw [openForWriting_found (fileHost_walk .newFile).2]
    rfl
  rw [copyFile_ok hk hout hsource htarget rfl (refusePipe_file hsource) (refusePipe_file htarget) hread
    hopen rfl]

/-- **Confinement has two limits.**  A text that is no path for the system leads out of a store, but is
    refused for what it is; and when the store is a file, that file can be copied, which does not lie
    below it. -/
theorem copy_confined_limits :
    ((LocalStore.at_ (.str "/mnt/shared")).on linkedHost = (.ok ⟨["mnt", "shared"]⟩, linkedHost) ∧
      linkedHost.disk.LinksEnd ∧ linkedHost.LeadsTo "/\x00" ["\x00"] ∧
      ¬ ["mnt", "shared"] <+: ["\x00"] ∧
      ((LocalStore.mk ["mnt", "shared"]).copy "/\x00" "/key" false).on linkedHost =
        (.error (.invalid .nulInPath), linkedHost)) ∧
    ((LocalStore.at_ (.str "/k")).on fileHost = (.ok ⟨["k"]⟩, fileHost) ∧
      fileHost.disk.LinksEnd ∧ fileHost.LeadsTo "/k" ["k"] ∧
      (((LocalStore.mk ["k"]).copy "/k" "/out" false).on fileHost).1 = .ok ()) := by
  constructor
  -- a path with a NUL is refused before anything is looked up
  · have hbase : Invalid.forSystem? (normalPath "/mnt/shared") = none := by decide +kernel
    have hbytes : Invalid.forBytes? (normalPath "/\x00") = none := by decide +kernel
    have hzero : (normalPath "/\x00").toList.contains (Char.ofNat 0) = true := by decide +kernel
    have hnul : Invalid.forSystem? (normalPath "/\x00") = some .nulInPath := by
      unfold Invalid.forSystem?
      rw [hbytes]
      exact if_pos hzero
    have hpieces : pathPieces "/\x00" = ["\x00"] := by decide +kernel
    obtain ⟨⟨base⟩, hmade, hleads⟩ := LocalStore.at_leads linkedHost_linksEnd hbase
    obtain rfl : base = ["mnt", "shared"] := hleads.unique linkedHost_leads.1
    refine ⟨hmade, linkedHost_linksEnd, ?_, by decide, Act.on_bind_error ?_⟩
    · show linkedHost.disk.Canonical [] (pathPieces "/\x00") _
      rw [hpieces]
      exact (canonical_down ⟨by decide, by decide, by decide⟩ rfl).mpr (canonical_nil.mpr rfl)
    · exact LocalStore.locate_refused _ hnul linkedHost
  -- the base of a store may be a file, and then the store holds this file
  · have hbase : Invalid.forSystem? (normalPath "/k") = none := by decide +kernel
    obtain ⟨⟨base⟩, hmade, hleads⟩ := LocalStore.at_leads fileHost_linksEnd hbase
    obtain rfl : base = ["k"] := hleads.unique fileHost_leads
    refine ⟨hmade, fileHost_linksEnd, fileHost_leads, ?_⟩
    obtain ⟨l, hl, hloc⟩ := (LocalStore.mk ["k"]).locate_leads fileHost_linksEnd hbase
    obtain rfl : ["k"] = l := fileHost_leads.unique hl
    rw [if_pos (List.prefix_refl _)] at hloc
    have hcopied := fileHost_copyFile
    have htext : locationText ["k"] = "/k" := by decide +kernel
    cases (LocalStore.mk ["k"]).copyGoes "/k" "/out" fileHost with
    | unlocated hl' _ => exact nomatch hloc.symm.trans hl'
    | uncopied hl' hc _ =>
      cases hloc.symm.trans hl'
      rw [htext] at hc
      rw [hc] at hcopied
      exact nomatch hcopied
    | copied _ _ _ hkept _ => exact congrArg Prod.fst hkept

end Store

end SecureStartup
