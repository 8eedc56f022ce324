import SecureStartup.Proofs.Disk.Arrival
import SecureStartup.Proofs.Keytab.History

/-!
  The name of a staged keytab.

  1. **Program** — `fetch` calls a staged keytab what the last part of its path in the store is
     (`PurePosixPath(remote_path).name`), and puts it behind the new directory.  The names of cluster and
     keytab may be nested, end in slashes, or have dots and backslashes in them; a name of nothing but
     dots and slashes leaves `keytabs` as the last part.

  2. **The idea** — a store gives out a path only for names none of whose parts leads up, so its last
     part is a name (`keytabPath_name`), and a name is one part of any path it is put behind
     (`EndsInPart.text_child`).

  3. **Result** — the requests of a staging name two paths of the host only, the new directory and one
     name behind it; and wherever the first leads, the second is looked up there (`walk_below`).  In the
     run itself, whenever the copy is named, the first leads to the directory that this run has made and
     closed (`names_inside`).
-/

namespace SecureStartup

open SecureStartup.Disk SecureStartup.Store

namespace Store

/-- The base of a store. -/
def AnyStore.base : AnyStore → Value
  | .onHost s => .str s.path
  | .hdfs s => s.base

/-- Where a keytab lies does not depend on the host. -/
theorem AnyStore.build_on (store : AnyStore) (keytab cluster : Value) (h : Host) :
    (store.shared.build keytab cluster).on h = (keytabPath store.base cluster keytab, h) := by
  cases store <;> exact Act.on_ofExcept _ h

end Store

namespace Errand

open KeytabStager

variable {e : Errand}

/-- **A course that goes by a plan goes by the one for the path that the store has**: before the store
    is asked for it, no request mentions the path. -/
theorem InOrder.plan_built {dir : PurePath} {remote known : String} {replies : List Reply}
    {outcome : Except Failure String} (a : e.InOrder dir remote 0 replies outcome)
    (hb : ∀ h, (e.store.build (.str e.keytab) e.cluster).on h = (.ok known, h)) :
    replies.map (·.request) <+: e.plan dir known ∧
      ∀ path, outcome = .ok path → path = e.file dir known := by
  have hplan := a.planned
  rw [List.drop_zero] at hplan
  -- a course with more than two requests has asked the store
  have hknown : 2 < replies.length → remote = known := by
    intro hlen
    have hget : (replies[2]).request = .build (.str e.keytab) e.cluster := by
      have hlen' : 2 < (replies.map (·.request)).length := by rwa [List.length_map]
      have h₂ := hplan.getElem hlen'
      rw [List.getElem_map] at h₂
      exact h₂
    exact (a.built _ (List.getElem_mem hlen) hget known _ (hb _)).symm
  constructor
  · by_cases hlen : 2 < replies.length
    · rw [← hknown hlen]
      exact hplan
    · have hshort : (replies.map (·.request)).length ≤ 2 := by
        rw [List.length_map]
        exact Nat.le_of_not_lt hlen
      have hcut : ∀ m, (e.plan dir m).take (replies.map (·.request)).length =
          ((e.plan dir m).take 2).take (replies.map (·.request)).length := fun m => by
        rw [List.take_take, Nat.min_eq_left hshort]
      rw [List.prefix_iff_eq_take, hcut] at hplan ⊢
      exact hplan
  · intro path hpath
    have hfive := (a.succeeds.mp ⟨path, hpath⟩).1
    rw [← hknown (by omega)]
    exact a.returns path hpath

end Errand

/-! ## Directly inside -/

/-- **A path leads directly into a directory**: whatever it is looked up for, what counts is one name
    there, and the length of the path. -/
def Disk.LeadsInto (d : Disk) (cwd : Location) (path : String) (l : Location) (name : String) : Prop :=
  ∀ aim, ∃ links, d.walk cwd path aim =
    if maxPath ≤ path.utf8ByteSize then .error .nameTooLong else d.walkFrom aim links l [name]

/-- The requests that name the copy. -/
def Event.Names (file : String) (r : Event) : Prop :=
  (∃ remote, r = .copy remote file false) ∨ r = .setMode file (modeText stagedKeytabMode)

namespace Errand

open KeytabStager

variable {e : Errand}

/-- **When the copy is named**, the directory of the staging is a new one, closed to others, and the
    path of the copy leads directly into it. -/
theorem names_inside {known : Except Failure String} {given : String → String → Prop}
    {logs : Set Location} {h₀ g : Host} {dir : PurePath} {st : Stage} {r : Event} {file name : String}
    (hst : st.dir = dir) (hr : e.request st = some r) (hnames : r.Names file)
    (a : e.At known given logs h₀ st g) (hn : IsName name)
    (hfile : pathNames file = pathNames dir.text ++ [name])
    (hroot : startsAtRoot file = startsAtRoot dir.text) :
    ∃ l, h₀.disk.entryAt? l = none ∧
      g.disk.stat g.workDir dir.text = .ok (l, .directory stagingDirMode) ∧
      g.disk.LeadsInto g.workDir file l name := by
  -- The copy is named twice: when it is made, and when its mode is set.  Then the directory is closed.
  have hworks : ∃ l f, Works logs h₀ dir.text l stagingDirMode f g := by
    cases st with
    | planned _ | closed _ =>
      cases hr
      rcases hnames with ⟨_, hr⟩ | hr <;> exact nomatch hr
    | made d =>
      cases hr
      rcases hnames with ⟨_, hr⟩ | hr
      · exact nomatch hr
      · -- the directory gets another mode than the copy
        have hmode : modeText stagingDirMode = modeText stagedKeytabMode :=
          (Event.setMode.inj hr).2
        exact absurd hmode (by decide +kernel)
    | located d remote =>
      obtain rfl : d = dir := hst
      obtain ⟨_, l, hw⟩ := a
      exact ⟨l, _, hw⟩
    | copied d remote =>
      obtain rfl : d = dir := hst
      obtain ⟨_, l, _, _, hw, _⟩ := a
      exact ⟨l, _, hw⟩
    | staged d remote => exact nomatch hr
  obtain ⟨l, f, hw⟩ := hworks
  exact ⟨l, hw.holding.fresh, hw.stat, fun aim => hw.walk hn hfile hroot aim⟩

end Errand

namespace KeytabStager

/-- **A staged keytab lies directly in its directory.**  Whatever path a store of either kind gives, the
    name that is taken from it is a plain one.  A staging asks the host for its new directory and for
    that name in it, in this order, and goes on only after success.  On every disk on which the path of
    the directory leads to one, that of the copy leads directly into it; and so it does in the run
    itself, whenever the copy is named, with the directory that was made. -/
theorem fetch_directly_inside (store : AnyStore) {keytab cluster : Value} {remote : String}
    {k k' : Host} (hb : (store.shared.build keytab cluster).on k = (.ok remote, k')) :
    ∃ own name, keytab = .str own ∧ fileName remote keytab = .ok name ∧
      name ≠ "" ∧ '/' ∉ name.toList ∧ name ≠ "." ∧ name ≠ ".." ∧
      ∀ (root : String) (h : Host),
        let s : KeytabStager := ⟨.ofString root⟩
        let dir := (s.nextDir h).text
        let file := dir ++ "/" ++ name
        let c := (⟨store.shared, own, cluster⟩ : Errand).course 5 (.planned (s.nextDir h)) (named h)
        (s.fetch store.shared keytab cluster).on h = (c.outcome, c.after) ∧
        c.replies.map (·.request) <+:
          [.makeDir dir (modeText stagingDirMode), .setMode dir (modeText stagingDirMode),
            .build keytab cluster, .copy remote file false,
            .setMode file (modeText stagedKeytabMode)] ∧
        (∀ r ∈ c.replies.dropLast, ∃ st, r.answer = .ok st) ∧
        (∀ path, c.outcome = .ok path → path = file) ∧
        (∀ (d : Disk) (cwd l : Location) (mode : Nat), d.stat cwd dir = .ok (l, .directory mode) →
          d.LeadsInto cwd file l name) ∧
        ∀ paths held logs, store.shared.Faithful paths held → h.disk.Sound → h.LogsTo logs →
          ∀ r ∈ c.replies, r.request.Names file → ∃ l, h.disk.entryAt? l = none ∧
            r.before.disk.stat r.before.workDir dir = .ok (l, .directory stagingDirMode) ∧
            r.before.disk.LeadsInto r.before.workDir file l name := by
  rw [store.build_on] at hb
  have hpath : keytabPath store.base cluster keytab = .ok remote := congrArg Prod.fst hb
  obtain ⟨own, rfl⟩ := keytabPath_str hpath
  obtain ⟨hname, hpart⟩ := localName_isName (keytabPath_name hpath) own
  refine ⟨own, localName remote own, rfl, fileName_str remote own, hname.ne_empty, hpart.2.2,
    hname.ne_dot, hname.ne_dots, fun root h => ?_⟩
  have hends := nextDir_endsInPart ⟨.ofString root⟩ h
  have hbuild : ∀ g, (store.shared.build (.str own) cluster).on g = (.ok remote, g) := fun g => by
    rw [store.build_on, hpath]
  obtain ⟨hnames, hroot⟩ := hends.pathNames_child hpart
  have htext := hends.text_child hpart
  intro s dir file c
  -- One name behind a path is the same path for the system and for the program.
  have hfile : (⟨store.shared, own, cluster⟩ : Errand).file (s.nextDir h) remote = file := htext
  obtain ⟨_, _, horder⟩ :=
    (⟨store.shared, own, cluster⟩ : Errand).course_inOrder 5 (.planned (s.nextDir h)) (named h) rfl
  obtain ⟨hplan, hreturns⟩ := horder.plan_built hbuild
  refine ⟨Errand.fetch_on ⟨store.shared, own, cluster⟩ s h, ?_, horder.proceeds, ?_, ?_, ?_⟩
  · rw [← hfile]
    exact hplan
  · exact fun path hp => (hreturns path hp).trans hfile
  · intro d cwd l mode hstat aim
    rw [htext] at hnames hroot
    exact walk_below hstat hname.ne_empty hnames hroot aim
  · intro paths held logs hfaithful hsound hlogs r hr hcopy
    -- Nothing is known of the text, and nothing has to be: only where the copy is put counts.
    have hstart : (⟨store.shared, own, cluster⟩ : Errand).At (paths own cluster) (fun _ _ => True) logs h
        (.planned (s.nextDir h)) (named h) := { setting := ⟨rfl, rfl, rfl⟩, disk := rfl }
    have hdir : (Stage.planned (s.nextDir h)).dir.EndsInPart := hends
    obtain ⟨hreplies, _⟩ := (⟨store.shared, own, cluster⟩ : Errand).course_keeps hfaithful hsound hlogs 5
      rfl hdir (fun _ _ _ _ _ _ => trivial) hstart
    obtain ⟨_, st, hst, hreq, hat⟩ := hreplies r hr
    rw [htext] at hnames hroot
    exact Errand.names_inside hst hreq hcopy hat hname hnames hroot

/-- A nested name with a backslash, a dot and a slash at its end, on a host that withholds rights from
    what it makes. -/
theorem fetch_directly_inside_nested :
    let store : AnyStore := .onHost ⟨["mnt"]⟩
    let dir := nextDir ⟨.ofString "."⟩ clashHost
    let file := dir.text ++ "/" ++ "x\\y"
    let c := (⟨store.shared, "am/x\\y/./", .str "c"⟩ : Errand).course 5 (.planned dir) (named clashHost)
    (store.shared.build (.str "am/x\\y/./") (.str "c")).on default =
        (.ok "/mnt/cluster/c/keytabs/am/x\\y/./", default) ∧
      fileName "/mnt/cluster/c/keytabs/am/x\\y/./" (.str "am/x\\y/./") = .ok "x\\y" ∧
      ∀ r ∈ c.replies, r.request.Names file → ∃ l, clashHost.disk.entryAt? l = none ∧
        r.before.disk.stat r.before.workDir dir.text = .ok (l, .directory stagingDirMode) ∧
        r.before.disk.LeadsInto r.before.workDir file l "x\\y" := by
  intro store dir file c
  have hb : ((AnyStore.onHost ⟨["mnt"]⟩).shared.build (.str "am/x\\y/./") (.str "c")).on default =
      (.ok "/mnt/cluster/c/keytabs/am/x\\y/./", default) := by
    rw [AnyStore.build_on]
    rfl
  obtain ⟨_, name, hown, hname, _, _, _, _, hruns⟩ := fetch_directly_inside (.onHost ⟨["mnt"]⟩) hb
  cases hown
  have hlast : fileName "/mnt/cluster/c/keytabs/am/x\\y/./" (.str "am/x\\y/./") = .ok "x\\y" := by rfl
  obtain rfl : name = "x\\y" := Except.ok.inj (hname.symm.trans hlast)
  obtain ⟨_, _, _, _, _, hrun⟩ := hruns "." clashHost
  exact ⟨hb, hlast, hrun _ _ ∅ (LocalStore.faithful ⟨["mnt"]⟩) clashHost_sound
    (Host.logsTo_empty nofun)⟩

end KeytabStager

end SecureStartup
