import SecureStartup.Proofs.Disk.Links
import SecureStartup.Proofs.Host.Failing
import SecureStartup.Proofs.Store.Copying

/-!
  How stores refuse.

  Program: `build_keytab_path` raises a `ValueError` for a name that it does not accept; `copy_to_local`
  raises an `OSError` for what the system refuses, and a `ValueError` for a path outside of the store.
  Both have an exit code.

  Where a keytab lies is refused as a wrong value, as long as the name of the cluster is a text; a
  copy is refused by the system or as a wrong value, on a host whose links end.  For a store in HDFS
  the same is asked of its client, and an error of the client is reported as a failure of the system
  (`failsOnly_reported`).
-/

namespace SecureStartup

open SecureStartup.Store SecureStartup.Disk

/-- **A loop of links**: a path leads into one, on a host that has one. -/
def Failure.LoopsOn (f : Failure) (h : Host) : Prop :=
  (∃ loop, f = .linkLoop loop) ∧ ¬ h.disk.LinksEnd

/-! ## The contract -/

/-- How a path of a store is refused: a cluster's name that is no text is of no use at all. -/
def IsNameFailure (cluster : Value) (f : Failure) : Prop :=
  match cluster with
  | .str _ => ∃ why, f = .invalid why
  | _ => ∃ why, f = .mismatch why

/-- **A store that refuses plainly**, asked for a keytab of a cluster. -/
structure SharedStore.Plain (store : SharedStore) (cluster : Value) : Prop where
  build : ∀ keytab h, ∃ r, (store.build (.str keytab) cluster).on h = (r, h) ∧
    ∀ f, r = .error f → IsNameFailure cluster f
  copy : ∀ remote target h, h.disk.LinksEnd →
    Act.FailsOnly Failure.Plain (store.copy remote target false) h
  /-- Faults that are to come are left alone. -/
  faults : ∀ remote target h,
    ((store.copy remote target false).on h).2.setModeFaults = h.setModeFaults

namespace Store

/-! ## Paths -/

theorem checkText_error {what name : String} {f : Failure} (h : checkText what name = .error f) :
    ∃ why, f = .invalid why := by
  unfold checkText at h
  split at h
  · exact ⟨_, (Except.error.inj h).symm⟩
  · split at h
    · exact ⟨_, (Except.error.inj h).symm⟩
    · split at h
      · exact ⟨_, (Except.error.inj h).symm⟩
      · exact nomatch h

/-- A name that is given and is no text is of no use. -/
theorem checkName_not_text {name : Value} (ht : name.truthy = true) (hn : ∀ s, name ≠ .str s)
    (what : String) : ∃ why, checkName what name = .error (.mismatch why) := by
  cases name with
  | str s => exact absurd rfl (hn s)
  | none => exact nomatch ht
  | bytes bs =>
    have hb : ¬ bs.isEmpty = true := by
      intro he
      cases List.isEmpty_iff.mp he
      exact nomatch ht
    exact ⟨.wrongType, if_neg hb⟩
  | _ =>
    refine ⟨.noPart, ?_⟩
    unfold checkName
    exact if_pos ht

/-- **How the path of a keytab is refused**, below a base that is a text. -/
theorem keytabPath_error {base keytab : String} {cluster : Value} {f : Failure}
    (ht : cluster.truthy = true)
    (h : keytabPath (.str base) cluster (.str keytab) = .error f) : IsNameFailure cluster f := by
  unfold keytabPath at h
  by_cases hc : ∃ c, cluster = .str c
  · -- both names are texts, and all that can be wrong is how they look
    obtain ⟨c, rfl⟩ := hc
    change ((checkText "cluster name" c) >>= fun _ => (checkText "keytab name" keytab) >>= fun _ =>
      pure (String.ofList (layoutPath base.toList c.toList keytab.toList))) = _ at h
    rcases h₁ : checkText "cluster name" c with g | _ <;> rw [h₁] at h
    · cases h
      exact checkText_error h₁
    · rcases h₂ : checkText "keytab name" keytab with g | _ <;> rw [h₂] at h
      · cases h
        exact checkText_error h₂
      · exact nomatch h
  · -- the cluster's name is looked at first, so the keytab's does not matter
    have hn : ∀ s, cluster ≠ .str s := fun s hs => hc ⟨s, hs⟩
    obtain ⟨why, hw⟩ := checkName_not_text ht hn "cluster name"
    rw [hw] at h
    cases h
    cases cluster with
    | str s => exact absurd rfl (hn s)
    | _ => exact ⟨why, rfl⟩

/-! ## The mounted store -/

/-- A path has a canonical location, or leads into a loop of the disk's links, or the system cannot
    be given it. -/
theorem resolve_fails {path : String} {h : Host} {f : Failure}
    (hf : ((resolve path).on h).1 = .error f) : f.Plain ∨ f.LoopsOn h := by
  unfold resolve at hf
  rw [Act.on_bind, Act.on_checkPath] at hf
  rcases hp : Invalid.forSystem? path with _ | why <;> rw [hp] at hf
  · change ((((get : Act Host) >>= _).on h).1) = _ at hf
    rw [Act.on_bind_ok (Act.on_get h)] at hf
    rcases hc : h.disk.canonical h.workDir path with loop | l <;> rw [hc] at hf
    · cases hf
      refine .inr ⟨⟨_, rfl⟩, fun hl => ?_⟩
      obtain ⟨l, hl⟩ := hl.canonical h.workDir path
      exact nomatch hc.symm.trans hl
    · exact nomatch hf
  · cases hf
    exact .inl (Failure.plain_invalid why)

theorem locate_fails {s : LocalStore} {remote : String} {h : Host} {f : Failure}
    (hf : ((s.locate remote).on h).1 = .error f) : f.Plain ∨ f.LoopsOn h := by
  refine Act.failsOnly_bind (fun _ hg => resolve_fails hg) (fun l h' _ => ?_) f hf
  split
  · exact Act.failsOnly_pure l
  · exact Act.failsOnly_throw (.inl (Failure.plain_invalid _))

theorem failsOnly_locate (s : LocalStore) {h : Host} (hl : h.disk.LinksEnd) (remote : String) :
    Act.FailsOnly Failure.Plain (s.locate remote) h := fun _ hf =>
  (locate_fails hf).resolve_right fun hloop => hloop.2 hl

theorem failsOnly_copyFile (source target : String) (h : Host) :
    Act.FailsOnly Failure.Plain (copyFile source target) h := by
  intro f hf
  rcases copyFile_on source target h with ⟨g, hc, hg⟩ | ⟨_, rest, _, _, _, _, hends⟩
  · rw [hc] at hf
    cases hf
    exact hg
  · rcases rest with _ | why <;> rw [hends] at hf <;> cases hf
    exact .inl rfl

theorem LocalStore.copy_faults (s : LocalStore) (remote target : String) (h : Host) :
    ((s.copy remote target false).on h).2.setModeFaults = h.setModeFaults := by
  have hfaults : ∀ l, ((copyFile (Disk.locationText l) target).on h).2.setModeFaults =
      h.setModeFaults := by
    intro l
    rcases copyFile_on (Disk.locationText l) target h with ⟨f, hc, _⟩ | ⟨_, _, _, _, _, hc, _⟩ <;>
      rw [hc]
  cases s.copyGoes remote target h with
  | unlocated _ hcopy => rw [hcopy]
  | uncopied _ hc hcopy =>
    rw [hcopy]
    exact hc ▸ hfaults _
  | @copied l _ _ _ hc hlog hkept _ =>
    have hcopied := hfaults l
    rw [hc] at hcopied
    rw [hkept]
    exact hlog.setModeFaults.trans hcopied

/-- A copy that finds a loop of links is not begun. -/
theorem LocalStore.copy_fails {s : LocalStore} {remote target : String} {h h' : Host} {f : Failure}
    (hf : (s.copy remote target false).on h = (.error f, h')) : f.Plain ∨ f.LoopsOn h' := by
  cases s.copyGoes remote target h with
  | unlocated hl hcopy =>
    cases (hcopy false).symm.trans hf
    exact locate_fails (congrArg Prod.fst hl)
  | uncopied _ hc hcopy =>
    cases (hcopy false).symm.trans hf
    exact .inl (failsOnly_copyFile _ target h f (congrArg Prod.fst hc))
  | copied _ _ _ hkept _ => exact nomatch hkept.symm.trans hf

/-- **The mounted store refuses plainly.** -/
theorem LocalStore.plain (s : LocalStore) {cluster : Value} (ht : cluster.truthy = true) :
    s.shared.Plain cluster where
  build _ h := ⟨_, Act.on_ofExcept _ h, fun _ hf => keytabPath_error ht hf⟩
  copy remote target h hl := by
    refine Act.failsOnly_bind (failsOnly_locate s hl remote) fun l h' _ => ?_
    refine Act.failsOnly_bind (failsOnly_copyFile _ target h') fun _ _ _ => ?_
    exact Act.failsOnly_bind (Act.failsOnly_log _ _ _ _) fun _ _ _ => nofun
  faults := LocalStore.copy_faults s

/-! ## The store in HDFS -/

/-- A failure of the client's own, whose text can be had or is refused plainly. -/
def IsClientTrouble (f : Failure) : Prop :=
  isClientFailure f = true ∧ ∀ words g, f.text words = .error g → g.Plain

/-- **A client that refuses plainly**: its own failures aside, a download fails like the system's
    operations, and it leaves the host's faults alone. -/
structure HdfsClient.Plain (client : HdfsClient) : Prop where
  download : ∀ remote target h, Act.FailsOnly
    (fun f => IsClientTrouble f ∨ f.Plain) (client.download remote target) h
  faults : ∀ remote target h,
    ((client.download remote target).on h).2.setModeFaults = h.setModeFaults

/-- Callers who know plain failures only do not know the client's own. -/
theorem not_plain_of_client {f : Failure} (hf : isClientFailure f = true) : ¬ f.Plain := by
  have hname : ("HdfsError" == "ValueError" || "HdfsError" == "UnicodeError") = false := by decide
  unfold isClientFailure at hf
  split at hf
  · rintro (h | h)
    · exact nomatch h
    · exact nomatch hname.symm.trans h
  · rintro (h | h)
    · exact nomatch h
    · exact nomatch hname.symm.trans h
  · exact nomatch hf

theorem plain_of_written {v : Value} {f : Failure} (hf : v.written = .error f) : f.Plain := by
  unfold Value.written at hf
  split at hf
  · exact nomatch hf
  · cases hf
    exact Failure.plain_invalid _

/-- The client's own failures are reported as the system's. -/
theorem failsOnly_reported {what remote : String} {url : Value} {act : Act Unit} {h : Host}
    (ha : Act.FailsOnly (fun f => IsClientTrouble f ∨ f.Plain) act h) :
    Act.FailsOnly Failure.Plain (reported what remote url act) h := by
  intro f hf
  unfold reported at hf
  rw [Act.on_tryCatch] at hf
  rcases hr : act.on h with ⟨g | a, h'⟩ <;> rw [hr] at hf
  · have hg := ha g (congrArg Prod.fst hr)
    simp only at hf
    split at hf
    · -- the report names the service, and says why: either may have no text
      rename_i hclient
      refine Act.failsOnly_ofExcept_bind (fun k hk => plain_of_written hk) (fun place => ?_) f hf
      refine Act.failsOnly_bind (fun _ => nofun) fun k _ _ => ?_
      refine Act.failsOnly_ofExcept_bind (fun k' hk => ?_) fun why => ?_
      · exact (hg.resolve_right (not_plain_of_client hclient)).2 _ _ hk
      · exact Act.failsOnly_throw (.inl rfl)
    · rename_i hclient
      cases hf
      exact hg.resolve_left fun h => hclient h.1
  · exact nomatch hf

theorem HdfsStore.failsOnly_copy {s : HdfsStore} (hc : s.client.Plain) (remote target : String)
    (h : Host) : Act.FailsOnly Failure.Plain (s.copy remote target false) h := by
  refine Act.failsOnly_bind (failsOnly_reported (hc.download remote target h)) fun _ _ _ => ?_
  exact Act.failsOnly_bind (Act.failsOnly_log _ _ _ _) fun _ _ _ => nofun

/-- **The store in HDFS refuses plainly** if its client does. -/
theorem HdfsStore.plain (s : HdfsStore) {base : String} (hb : s.base = .str base)
    (hc : s.client.Plain) {cluster : Value} (ht : cluster.truthy = true) :
    s.shared.Plain cluster where
  build keytab h := by
    refine ⟨_, Act.on_ofExcept _ h, fun f hf => ?_⟩
    rw [hb] at hf
    exact keytabPath_error ht hf
  copy remote target h _ := HdfsStore.failsOnly_copy hc remote target h
  faults remote target h := by
    show ((s.copy remote target false).on h).2.setModeFaults = _
    have hd := hc.faults remote target h
    cases s.copyGoes remote target h with
    | refused hdown hcopy =>
      rw [hdown] at hd
      rw [hcopy]
      exact hd
    | downloaded hdown hlog hkept _ =>
      rw [hdown] at hd
      rw [hkept]
      exact hlog.setModeFaults.trans hd

end Store

end SecureStartup
