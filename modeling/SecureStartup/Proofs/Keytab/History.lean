import Mathlib
import SecureStartup.Proofs.Keytab.Private

/-!
  Whole runs of stagings.

  Program: one `SecureKeytabFetcher`, whose `fetch` is called again and again; what it has staged once has
  to stay as it is.  The names of its directories come from a clock and a random source, of which nothing
  is assumed: they may repeat.

  A run is a list of orders, each for a keytab of a store of either kind, whose copies may be made to
  fail; the record of a run keeps, for each staging, the host before and everything its course went
  through.

  Three things are proved of every run (`stagings_private`):

  1. A staging that returns a path has put one read-only file, with what the store holds, into a
     private directory that was not there before (`Staging.Delivered`).
  2. In no step of a staging, failed ones included, anything outside of its own directory is changed,
     but for log files; and a file that is neither from before nor at a log place lies in a private
     directory that is not from before (`Staging.Contained`).
  3. What was staged stays as it was: no later staging works in the directory or changes the file
     (`Staging.IsKeptBy`).

  Each of them is a matter of single stagings (`staging_good`), and goes over to runs by induction on
  the orders.  A name that is taken ends a staging, and changes nothing (`staging_taken`).
-/

namespace SecureStartup

open SecureStartup.Disk SecureStartup.Store

/-! ## Orders and runs -/

/-- An order: a keytab of a cluster, from a store, whose copies may be made to fail. -/
structure Order where
  store : AnyStore
  /-- What the service behind a store in HDFS holds at its paths. -/
  contents : String → String
  fault : Option CopyFault
  keytab : String
  cluster : Value

namespace Order

/-- What a staging is asked for. -/
def errand (o : Order) : Errand := ⟨o.store.shared.failing o.fault, o.keytab, o.cluster⟩

/-- Where the store has the keytab. -/
def path (o : Order) (keytab : String) (cluster : Value) : Except Failure String :=
  match o.store with
  | .onHost s => keytabPath (.str s.path) cluster (.str keytab)
  | .hdfs s => keytabPath s.base cluster (.str keytab)

/-- The text that lies at a path of the store, as seen from a host. -/
def Held (o : Order) (remote : String) (h : Host) (text : String) : Prop :=
  match o.store with
  | .onHost s => s.Held remote h text
  | .hdfs _ => o.contents remote = text

/-- What is taken for granted: the client of a store in HDFS downloads what the service holds, and
    writes nothing but the target of a download. -/
def Assumed (o : Order) : Prop :=
  match o.store with
  | .onHost _ => True
  | .hdfs s => s.client.Faithful o.contents

theorem faithful {o : Order} (h : o.Assumed) : o.errand.store.Faithful o.path o.Held := by
  obtain ⟨store, contents, fault, keytab, cluster⟩ := o
  cases store with
  | onHost s => exact (LocalStore.faithful s).failing fault
  | hdfs s => exact (HdfsStore.faithful s h).failing fault

end Order

/-- The record of one staging. -/
structure Staging where
  order : Order
  before : Host
  course : Course

namespace KeytabStager

/-- One staging. -/
def staging (s : KeytabStager) (o : Order) (h : Host) : Staging :=
  ⟨o, h, o.errand.course 5 (.planned (s.nextDir h)) (named h)⟩

/-- **A run**: one staging after another. -/
def stagings (s : KeytabStager) : List Order → Host → List Staging
  | [], _ => []
  | o :: os, h => staging s o h :: stagings s os (staging s o h).course.after

end KeytabStager

/-! ## What is said of a staging -/

/-- **A staged keytab lies on a disk**: in the private directory `l`, under the name `n`. -/
structure Stored (l : Location) (n : String) (id : Nat) (text : String) (d : Disk) : Prop where
  directory : d.entryAt? l = some (.directory stagingDirMode)
  file : d.entryAt? (l ++ [n]) = some (.file id)
  data : d.data? id = some ⟨stagedKeytabMode, text⟩

namespace Staging

variable (r : Staging)

/-- The hosts on the way: after each request, and at the end. -/
def hosts : List Host := r.course.replies.map (·.after) ++ [r.course.after]

/-- **A keytab was staged**: the path that was returned leads to a file named `n` in the directory
    `l`. -/
structure Delivered (file : String) (l : Location) (n : String) (id : Nat) (text : String) :
    Prop where
  returned : r.course.outcome = .ok file
  /-- The directory and the file are new. -/
  fresh : r.before.disk.entryAt? l = none
  unused : r.before.disk.nextId ≤ id
  stored : Stored l n id text r.course.after.disk
  leads : r.course.after.disk.stat r.course.after.workDir file = .ok (l ++ [n], .file id)
  /-- There is nothing else in the directory. -/
  only : ∀ m e, l <+: m → m ≠ l → r.course.after.disk.entryAt? m = some e → m = l ++ [n]
  /-- The text is what the store held, where it has the keytab, when it was asked for the copy. -/
  bytes : ∃ remote, r.order.path r.order.keytab r.order.cluster = .ok remote ∧
    ∃ q ∈ r.course.replies, q.request = .copy remote file false ∧ r.order.Held remote q.before text

/-- The disk of a host without the directory of a staging, if it has one. -/
def without (own : Option Location) (d : Disk) : Disk := own.elim d d.cut

/-- **What a staging has done to a host so far**, seen from the host before: `own` is its directory,
    if it has one. -/
structure Contained (logs : Set Location) (own : Option Location) (g : Host) : Prop where
  fresh : ∀ l ∈ own, r.before.disk.entryAt? l = none
  /-- A directory is all that can stand there. -/
  directory : ∀ l ∈ own, ∀ e, g.disk.entryAt? l = some e → ∃ mode, e = .directory mode
  /-- Without it, entries, bytes and modes are what they were, but for log files. -/
  rest : LogsOnly logs r.before.disk (without own g.disk)
  /-- A file that is neither from before nor at a log place lies in a private directory that is not
      from before, and is no log file under another name. -/
  copies : ∀ m ∉ logs, ∀ id, g.disk.entryAt? m = some (.file id) →
    r.before.disk.entryAt? m = some (.file id) ∨
      (r.before.disk.entryAt? m.dropLast = none ∧
        g.disk.entryAt? m.dropLast = some (.directory stagingDirMode) ∧
        ¬ IsLogFile logs g.disk id)

/-- **What was staged stays**, in every step of another staging, which has a directory of its own. -/
def IsKeptBy (r' : Staging) : Prop :=
  ∀ file l n id text, r.Delivered file l n id text →
    (∀ g ∈ r'.hosts, Stored l n id text g.disk) ∧
    ∀ file' l' n' id' text', r'.Delivered file' l' n' id' text' → l' ≠ l

end Staging

/-! ## One staging -/

/-- Where a path leads to a free place, the place. -/
def Disk.freePlace? (d : Disk) (cwd : Location) (path : String) : Option Location :=
  match d.walk cwd path .name with
  | .ok (.free dir name) => some (dir ++ [name])
  | _ => none

theorem Disk.freePlace?_fresh {d : Disk} {cwd : Location} {path : String} {l : Location}
    (h : d.freePlace? cwd path = some l) : d.entryAt? l = none := by
  unfold freePlace? at h
  split at h
  · rename_i dir name hw
    cases h
    exact (isFree_of_walk hw).absent
  · exact nomatch h

theorem Works.own {logs : Set Location} {h₀ h : Host} {path : String} {l : Location} {mode : Nat}
    {file : Option (String × Nat)} (a : Works logs h₀ path l mode file h) :
    h₀.disk.freePlace? h₀.workDir path = some l := by
  obtain ⟨dir, name, rfl, hw⟩ := a.place
  unfold Disk.freePlace?
  rw [hw]

namespace Errand.Safe

variable {logs : Set Location} {h₀ h : Host} {path : String}

/-- A disk stays sound. -/
theorem sound (a : Safe logs h₀ path h) (hs : h₀.disk.Sound) : h.disk.Sound := by
  rcases a with i | ⟨l, mode, file, w⟩
  · exact i.disk ▸ hs
  · have hdir := w.inside
    obtain ⟨dir, name, rfl, _⟩ := w.place
    rw [List.dropLast_concat] at hdir
    exact w.holding.sound hs w.start.places hdir

theorem logsTo (a : Safe logs h₀ path h) (hl : h₀.LogsTo logs) : h.LogsTo logs := by
  rcases a with i | ⟨l, mode, file, w⟩
  · exact hl.keeps i.setting (i.disk ▸ KeepsWays.refl h₀.disk) (i.disk ▸ hl.places)
  · exact w.logsTo

/-- What is safe is contained. -/
theorem contained {r : Staging} (a : Safe logs r.before path h) (hs : r.before.disk.Sound) :
    r.Contained logs (r.before.disk.freePlace? r.before.workDir path) h := by
  have hfresh : ∀ l ∈ r.before.disk.freePlace? r.before.workDir path,
      r.before.disk.entryAt? l = none := fun l hl => Disk.freePlace?_fresh hl
  rcases a with i | ⟨l, mode, file, w⟩
  · refine { fresh := hfresh, directory := ?_, rest := ?_, copies := ?_ }
    · intro l hl e he
      rw [i.disk, hfresh l hl] at he
      exact nomatch he
    · rw [i.disk]
      rcases hown : r.before.disk.freePlace? r.before.workDir path with _ | l
      · exact LogsOnly.refl logs _
      · -- nothing lies where nothing was made
        have hl : r.before.disk.entryAt? l = none := hfresh l hown
        have hne : l ≠ [] := by
          rintro rfl
          exact nomatch hl
        refine LogsOnly.of_entries (fun m => ?_) (fun _ _ _ => rfl) (Nat.le_refl _)
        show (r.before.disk.cut l).entryAt? m = _
        by_cases hm : l <+: m
        · rw [entryAt?_cut_below hne hm, hs.entryAt?_below hl hm]
        · exact entryAt?_cut_of_not_below hm
    · intro m _ id hm
      exact .inl (i.disk ▸ hm)
  -- a staging at work: its directory is the place that was free
  · rw [w.own] at hfresh ⊢
    refine { fresh := hfresh, directory := ?_, rest := w.holding.rest, copies := ?_ }
    · intro l' hl' e he
      cases hl'
      rw [w.holding.directory] at he
      exact ⟨mode, (Option.some.inj he).symm⟩
    · intro m hm id he
      by_cases hp : l <+: m
      · have hml : m ≠ l := by
          rintro rfl
          rw [w.holding.directory] at he
          exact nomatch he
        -- what lies in the directory is the one file, which came when the directory was closed
        obtain ⟨n, id', hfile, rfl, hid⟩ := w.holding.eq_child hp hml he
        cases hid
        rw [List.dropLast_concat]
        refine .inr ⟨w.holding.fresh, ?_, w.holding.apart _ hfile⟩
        rw [w.holding.directory, w.closed _ hfile]
      · rw [w.holding.elsewhere hp hm] at he
        exact .inl he

end Errand.Safe

namespace Staging

/-- What a staging leaves behind for the next one. -/
structure Good (logs : Set Location) (r : Staging) : Prop where
  sound : r.course.after.disk.Sound
  logsTo : r.course.after.LogsTo logs
  contained : ∃ own, ∀ g ∈ r.hosts, r.Contained logs own g
  delivered : ∀ file, r.course.outcome = .ok file → ∃ l n id text, r.Delivered file l n id text

/-- The store was asked for a copy and held a text. -/
def Gave (r : Staging) (dir : PurePath) (remote text : String) : Prop :=
  ∃ q ∈ r.course.replies, q.request = .copy remote (r.order.errand.file dir remote) false ∧
    r.order.Held remote q.before text

/-- What is known at the last stage is what was to be shown. -/
theorem delivered_of_at {logs : Set Location} {r : Staging} {dir : PurePath} {remote : String}
    (hok : r.course.outcome = .ok (r.order.errand.file dir remote))
    (a : r.order.errand.At (r.order.path r.order.keytab r.order.cluster) (r.Gave dir) logs r.before
      (.staged dir remote) r.course.after) :
    ∃ l n id text, r.Delivered (r.order.errand.file dir remote) l n id text := by
  obtain ⟨hknown, l, id, text, hw, hdata, ⟨q, hq, hreq, hheld⟩, hstat⟩ := a
  refine ⟨l, KeytabStager.localName remote r.order.errand.keytab, id, text, ?_⟩
  exact {
    returned := hok
    fresh := hw.holding.fresh
    unused := (hw.holding.new _ rfl).1
    stored := ⟨hw.holding.directory, hw.holding.entryAt?_file, hdata⟩
    leads := hstat
    only := fun m e hp hm he => by
      obtain ⟨n, _, hf, hmn, _⟩ := hw.holding.eq_child hp hm he
      have hn := congrArg Prod.fst (Option.some.inj hf)
      exact hmn.trans (congrArg (fun n => l ++ [n]) hn.symm)
    bytes := ⟨remote, hknown, q, hq, hreq, hheld⟩ }

/-- What is safe at all times makes a staging good. -/
theorem good_of_safe {logs : Set Location} {r : Staging} {dir : PurePath} (hs : r.before.disk.Sound)
    (hl : r.before.LogsTo logs)
    (hreplies : ∀ q ∈ r.course.replies, Errand.Safe logs r.before dir.text q.after)
    (hafter : Errand.Safe logs r.before dir.text r.course.after)
    (hfile : ∀ file, r.course.outcome = .ok file → ∃ remote, file = r.order.errand.file dir remote ∧
      r.order.errand.At (r.order.path r.order.keytab r.order.cluster) (r.Gave dir) logs r.before
        (.staged dir remote) r.course.after) : r.Good logs where
  sound := hafter.sound hs
  logsTo := hafter.logsTo hl
  contained := by
    refine ⟨r.before.disk.freePlace? r.before.workDir dir.text, fun g hg => ?_⟩
    rcases List.mem_append.mp hg with hg | hg
    · obtain ⟨q, hq, rfl⟩ := List.mem_map.mp hg
      exact (hreplies q hq).contained hs
    · cases List.mem_singleton.mp hg
      exact hafter.contained hs
  delivered file hok := by
    obtain ⟨remote, hremote, hat⟩ := hfile file hok
    rw [hremote] at hok ⊢
    exact delivered_of_at hok hat

end Staging

namespace KeytabStager

/-- **One staging** goes as it should, from any host with a sound disk. -/
theorem staging_good {logs : Set Location} {h : Host} (root : String) {o : Order} (ho : o.Assumed)
    (hs : h.disk.Sound) (hl : h.LogsTo logs) : (staging ⟨.ofString root⟩ o h).Good logs := by
  let r := staging ⟨.ofString root⟩ o h
  let dir := nextDir ⟨.ofString root⟩ h
  have hends : (Stage.planned dir).dir.EndsInPart := nextDir_endsInPart _ h
  have hstart : o.errand.At (o.path o.keytab o.cluster) (r.Gave dir) logs h (.planned dir)
      (named h) := { setting := ⟨rfl, rfl, rfl⟩, disk := rfl }
  have hgave : ∀ q ∈ r.course.replies, ∀ remote text,
      q.request = .copy remote (o.errand.file dir remote) false → o.Held remote q.before text →
      r.Gave dir remote text := fun q hq _ _ hreq hheld => ⟨q, hq, hreq, hheld⟩
  have hkeep := Errand.course_keeps (Order.faithful ho) hs hl 5 rfl hends hgave hstart
  exact Staging.good_of_safe (r := r) hs hl (fun q hq => (hkeep.1 q hq).1) hkeep.2.1 hkeep.2.2

end KeytabStager

/-! ## Runs -/

namespace Staging.Contained

variable {logs : Set Location} {r : Staging} {own : Option Location} {g : Host}

/-- What was there before does not lie in the directory. -/
theorem outside (b : r.Contained logs own g) (hs : r.before.disk.Sound) {m : Location} {e : Entry}
    (he : r.before.disk.entryAt? m = some e) {l : Location} (hl : l ∈ own) : ¬ l <+: m := by
  intro hp
  rw [hs.entryAt?_below (b.fresh l hl) hp] at he
  exact nomatch he

/-- What does not lie in the directory is there with or without it. -/
theorem entryAt?_without {d : Disk} {m : Location} (hm : ∀ l ∈ own, ¬ l <+: m) :
    (without own d).entryAt? m = d.entryAt? m := by
  rcases own with _ | l
  · rfl
  · exact entryAt?_cut_of_not_below (hm l rfl)

/-- No file from before becomes a log file. -/
theorem not_isLogFile (b : r.Contained logs own g) (hs : r.before.disk.Sound)
    (hl : r.before.LogsTo logs) {id : Nat} (hid : id < r.before.disk.nextId)
    (hno : ¬ IsLogFile logs r.before.disk id) : ¬ IsLogFile logs g.disk id := by
  rintro ⟨m, hm, he⟩
  have hout : ∀ l ∈ own, ¬ l <+: m := by
    intro l hown hp
    rw [hl.places.not_below hs (b.fresh l hown) hm hp] at he
    obtain ⟨_, hdir⟩ := b.directory l hown _ he
    exact nomatch hdir
  rcases b.rest.isLogFile ⟨m, hm, (entryAt?_without hout).trans he⟩ with hold | ⟨hle, _⟩
  · exact hno hold
  · exact absurd hid (Nat.not_lt.mpr hle)

end Staging.Contained

/-- A staged keytab is safe from log files: it lies at no log place, and under no other name at one. -/
structure Stored.Apart (logs : Set Location) (l : Location) (n : String) (id : Nat) (d : Disk) :
    Prop where
  place : l ++ [n] ∉ logs
  file : ¬ IsLogFile logs d id

/-- **One staging keeps what was staged before**: its directory is a new one, so what lies elsewhere
    is not in it. -/
theorem Stored.kept {logs : Set Location} {r : Staging} {own : Option Location} {l : Location}
    {n : String} {id : Nat} {text : String} {g : Host} (a : Stored l n id text r.before.disk)
    (hapart : Stored.Apart logs l n id r.before.disk) (hs : r.before.disk.Sound)
    (hl : r.before.LogsTo logs) (b : r.Contained logs own g) :
    Stored l n id text g.disk ∧ Stored.Apart logs l n id g.disk := by
  have hid := hs.numbered _ id a.file
  have hwithout := fun {m e} (he : r.before.disk.entryAt? m = some e) =>
    Staging.Contained.entryAt?_without (d := g.disk) fun l' hl' => b.outside hs he hl'
  have hdata : g.disk.data? id = (Staging.without own g.disk).data? id := by
    cases own <;> rfl
  refine ⟨{ directory := ?_, file := ?_, data := ?_ }, hapart.place, ?_⟩
  · rw [← hwithout a.directory]
    exact (b.rest.directories l stagingDirMode).mpr a.directory
  · rw [← hwithout a.file, b.rest.entries _ hapart.place, a.file]
  · rw [hdata, b.rest.data id hid hapart.file, a.data]
  · exact b.not_isLogFile hs hl hid hapart.file

/-- What a staging delivers is safe from log files. -/
theorem Staging.Delivered.apart {logs : Set Location} {r : Staging} {own : Option Location}
    {file : String} {l : Location} {n : String} {id : Nat} {text : String}
    (hd : r.Delivered file l n id text) (hs : r.before.disk.Sound) (hl : r.before.LogsTo logs)
    (b : r.Contained logs own r.course.after) : Stored.Apart logs l n id r.course.after.disk := by
  have hplace : l ++ [n] ∉ logs := fun hlog =>
    child_ne l n (hl.places.not_below hs hd.fresh hlog (List.prefix_append l [n]))
  refine ⟨hplace, ?_⟩
  rcases b.copies _ hplace id hd.stored.file with hold | ⟨_, _, hno⟩
  · -- nothing was there before
    rw [hs.entryAt?_below hd.fresh (List.prefix_append l [n])] at hold
    exact nomatch hold
  · exact hno

theorem Staging.after_mem_hosts (r : Staging) : r.course.after ∈ r.hosts :=
  List.mem_append_right _ (List.mem_singleton.mpr rfl)

namespace KeytabStager

variable {logs : Set Location} {h : Host}

/-- The record of a run is what was done. -/
theorem stagings_fetch (s : KeytabStager) (os : List Order) (h : Host) :
    ∀ r ∈ s.stagings os h,
      (s.fetch r.order.errand.store (.str r.order.keytab) r.order.cluster).on r.before =
        (r.course.outcome, r.course.after) := by
  induction os generalizing h with
  | nil => exact fun r hr => absurd hr List.not_mem_nil
  | cons o os ih =>
    intro r hr
    rcases List.mem_cons.mp hr with rfl | hr
    · exact Errand.fetch_on o.errand s h
    · exact ih _ r hr

/-- Every staging of a run is good. -/
theorem stagings_good (root : String) {os : List Order} (ho : ∀ o ∈ os, o.Assumed)
    (hs : h.disk.Sound) (hl : h.LogsTo logs) :
    ∀ r ∈ stagings ⟨.ofString root⟩ os h, r.Good logs := by
  induction os generalizing h with
  | nil => exact fun r hr => absurd hr List.not_mem_nil
  | cons o os ih =>
    have hgood := staging_good root (ho o (List.mem_cons_self ..)) hs hl
    intro r hr
    rcases List.mem_cons.mp hr with rfl | hr
    · exact hgood
    · exact ih (fun o' ho' => ho o' (List.mem_cons_of_mem _ ho')) hgood.sound hgood.logsTo r hr

/-- **What was staged stays staged**, before and in every staging of a run. -/
theorem stagings_keep (root : String) {os : List Order} (ho : ∀ o ∈ os, o.Assumed)
    (hs : h.disk.Sound) (hl : h.LogsTo logs) {l : Location} {n : String} {id : Nat} {text : String}
    (a : Stored l n id text h.disk) (hapart : Stored.Apart logs l n id h.disk) :
    ∀ r ∈ stagings ⟨.ofString root⟩ os h,
      Stored l n id text r.before.disk ∧ ∀ g ∈ r.hosts, Stored l n id text g.disk := by
  induction os generalizing h with
  | nil => exact fun r hr => absurd hr List.not_mem_nil
  | cons o os ih =>
    have hgood := staging_good root (ho o (List.mem_cons_self ..)) hs hl
    obtain ⟨own, hown⟩ := hgood.contained
    have hkept : ∀ g ∈ (staging ⟨.ofString root⟩ o h).hosts,
        Stored l n id text g.disk ∧ Stored.Apart logs l n id g.disk := fun g hg =>
      Stored.kept (r := staging ⟨.ofString root⟩ o h) a hapart hs hl (hown g hg)
    intro r hr
    rcases List.mem_cons.mp hr with rfl | hr
    · exact ⟨a, fun g hg => (hkept g hg).1⟩
    · obtain ⟨ha, hapart'⟩ := hkept _ (Staging.after_mem_hosts _)
      exact ih (fun o' ho' => ho o' (List.mem_cons_of_mem _ ho')) hgood.sound hgood.logsTo ha hapart'
        r hr

/-- No staging changes what an earlier one has staged. -/
theorem stagings_pairwise (root : String) {os : List Order} (ho : ∀ o ∈ os, o.Assumed)
    (hs : h.disk.Sound) (hl : h.LogsTo logs) :
    (stagings ⟨.ofString root⟩ os h).Pairwise Staging.IsKeptBy := by
  induction os generalizing h with
  | nil => exact List.Pairwise.nil
  | cons o os ih =>
    have hgood := staging_good root (ho o (List.mem_cons_self ..)) hs hl
    have hrest : ∀ o' ∈ os, o'.Assumed := fun o' ho' => ho o' (List.mem_cons_of_mem _ ho')
    refine List.pairwise_cons.mpr ⟨?_, ih hrest hgood.sound hgood.logsTo⟩
    intro r' hr' file l n id text hd
    obtain ⟨own, hown⟩ := hgood.contained
    have hapart := hd.apart hs hl (hown _ (Staging.after_mem_hosts _))
    obtain ⟨hbefore, hhosts⟩ :=
      stagings_keep root hrest hgood.sound hgood.logsTo hd.stored hapart r' hr'
    refine ⟨hhosts, fun file' l' n' id' text' hd' hll => ?_⟩
    have hfresh := hd'.fresh
    rw [hll, hbefore.directory] at hfresh
    exact nomatch hfresh

/-- **A name that is taken** is the end of a staging, whatever stands there. -/
theorem staging_taken (s : KeytabStager) (o : Order) {h : Host} {l : Location} {e : Entry}
    (hw : h.disk.walk h.workDir (s.nextDir h).text .name = .ok (.found l e)) :
    ∃ f, (s.staging o h).course.outcome = .error f := by
  let dir := s.nextDir h
  have hmake : h.disk.makeDir h.workDir dir.text (h.granted stagingDirMode) = .error .exists := by
    unfold Disk.makeDir
    rw [hw]
    rfl
  obtain ⟨f, h', hf⟩ : ∃ f h', (makeDir dir.text).on (named h) = (.error f, h') := by
    rw [makeDir_on]
    rcases (takeFault (named h).makeDirFaults).1 with _ | f
    · simp only
      rw [Act.on_changeDisk]
      rcases Invalid.forSystem? dir.text with _ | why
      · have hasked : (askedToMake (named h) dir.text).disk.makeDir
            (askedToMake (named h) dir.text).workDir dir.text ((named h).granted stagingDirMode) =
              .error .exists := hmake
        simp only [hasked]
        exact ⟨_, _, rfl⟩
      · exact ⟨_, _, rfl⟩
    · exact ⟨f, _, rfl⟩
  have ha : (o.errand.ask (.planned dir)).on (named h) = (.error f, h') := Act.on_bind_error hf
  have hcourse := o.errand.course_of_error (n := 4) rfl ha
  exact ⟨_, congrArg Course.outcome hcourse⟩

/-- A host with a mounted store that has a keytab.  Its clock gives one time twice, and its process
    withholds so much that without setting the mode nobody could write to a staging directory. -/
def clashHost : Host where
  disk := {
    entries := [(["mnt"], .directory 0o755), (["mnt", "cluster"], .directory 0o755),
      (["mnt", "cluster", "c"], .directory 0o755),
      (["mnt", "cluster", "c", "keytabs"], .directory 0o755),
      (["mnt", "cluster", "c", "keytabs", "am.keytab"], .file 0), (["stage"], .directory 0o700)]
    files := [(0, ⟨0o600, "secret"⟩)]
    nextId := 1 }
  workDir := ["stage"]
  withheld := 0o277
  readings := [7, 7, 8]
  suffixes := ["a"]

/-- A keytab from a service. -/
def clashOrder : Order :=
  ⟨.hdfs ⟨.str "http://nn:9870", .none, .str "/r", .serving "secret"⟩, fun _ => "secret", none,
    "am.keytab", .str "c"⟩

theorem clashHost_sound : clashHost.disk.Sound := by
  refine Disk.sound_of_entries ?_
  simp [clashHost, Disk.entryAt?]

section Clash

/-- The disk with the directory, closed or not, with the keytab in it, and at the end. -/
def clashDisk (mode : Nat) : Disk := clashHost.disk.put ["stage", "keytab-7-a"] (.directory mode)

def clashCopied : Disk :=
  ((clashDisk 0o700).addFile ["stage", "keytab-7-a", "am.keytab"] 0o400).setContent 1 "secret"

def clashStaged : Disk := clashCopied.setData 1 ⟨0o400, "secret"⟩

/-- Where the paths of the directory and of the copy lead on the way. -/
theorem clash_walks :
    clashHost.disk.walk ["stage"] "/stage/keytab-7-a" .name = .ok (.free ["stage"] "keytab-7-a") ∧
      (∀ m ∈ [0o500, 0o700], (clashDisk m).walk ["stage"] "/stage/keytab-7-a" .target =
        .ok (.found ["stage", "keytab-7-a"] (.directory m))) ∧
      (clashDisk 0o700).walk ["stage"] "/stage/keytab-7-a/am.keytab" .newFile =
        .ok (.free ["stage", "keytab-7-a"] "am.keytab") ∧
      clashCopied.walk ["stage"] "/stage/keytab-7-a/am.keytab" .target =
        .ok (.found ["stage", "keytab-7-a", "am.keytab"] (.file 1)) ∧
      clashStaged.walk ["stage"] "/stage/keytab-7-a" .name =
        .ok (.found ["stage", "keytab-7-a"] (.directory 0o700)) := by
  have hdir : pathNames "/stage/keytab-7-a" = ["stage", "keytab-7-a"] := by decide +kernel
  have hfile : pathNames "/stage/keytab-7-a/am.keytab" = ["stage", "keytab-7-a", "am.keytab"] := by
    decide +kernel
  refine ⟨?_, ?_, ?_, ?_, ?_⟩
  · rw [walk_eq _ (by decide), if_neg (by decide), hdir]
    cbv
  · intro m hm
    rw [walk_eq _ (by decide), if_neg (by decide), hdir]
    simp only [List.mem_cons, List.not_mem_nil, or_false] at hm
    rcases hm with rfl | rfl <;> cbv
  · rw [walk_eq _ (by decide), if_neg (by decide), hfile]
    cbv
  · rw [walk_eq _ (by decide), if_neg (by decide), hfile]
    cbv
  · rw [walk_eq _ (by decide), if_neg (by decide), hdir]
    cbv

/-- The paths are ones that the system can be given. -/
theorem clash_paths : Invalid.forSystem? "/stage/keytab-7-a" = none ∧
    Invalid.forSystem? "/stage/keytab-7-a/am.keytab" = none := by
  constructor <;> decide +kernel

/-- The first staging goes well, and the second finds the directory of the first. -/
theorem clash_outcomes :
    let first := staging ⟨.ofString "."⟩ clashOrder clashHost
    first.course.outcome = .ok "/stage/keytab-7-a/am.keytab" ∧
      ∃ f, (staging ⟨.ofString "."⟩ clashOrder first.course.after).course.outcome = .error f := by
  intro first
  let e := clashOrder.errand
  let dir := nextDir ⟨.ofString "."⟩ clashHost
  let remote := "/r/cluster/c/keytabs/am.keytab"
  obtain ⟨hmake, hclose, hopen, hprotect, hagain⟩ := clash_walks
  obtain ⟨hpath, hpath'⟩ := clash_paths
  have htext : dir.text = "/stage/keytab-7-a" := by decide +kernel
  have hfile : e.file dir remote = "/stage/keytab-7-a/am.keytab" := by decide +kernel
  -- the hosts after each request
  let g₁ : Host := { askedToMake (named clashHost) dir.text with disk := clashDisk 0o500 }
  let g₂ : Host := { askedToSet g₁ dir.text stagingDirMode with disk := clashDisk 0o700 }
  have h₁ : (makeDir dir.text).on (named clashHost) = (.ok (), g₁) := by
    refine makeDir_ok_on rfl (htext ▸ hpath) ?_
    rw [htext]
    show clashHost.disk.makeDir ["stage"] "/stage/keytab-7-a" 0o500 = _
    unfold Disk.makeDir
    rw [hmake]
    rfl
  have h₂ : (setMode dir.text stagingDirMode).on g₁ = (.ok (), g₂) := by
    refine setMode_ok_on rfl (htext ▸ hpath) ?_
    rw [htext]
    exact setMode_directory (stat_eq_ok.mpr (hclose 0o500 (by decide))) _
  obtain ⟨err, made, hlogged⟩ := (e.remark_logged (.closed dir) g₂).frame_of_no_sinks rfl
  let g₃ : Host := { g₂ with err := err, log := { g₂.log with made := made } }
  have h₃ : (e.store.build (.str e.keytab) e.cluster).on ((e.remark (.closed dir)).on g₂).2 =
      (.ok remote, g₃) := by
    have hplace : keytabPath (.str "/r") (.str "c") (.str "am.keytab") = .ok remote := by rfl
    have hbuild : e.store.build = fun keytab cluster =>
        Act.ofExcept (keytabPath (.str "/r") cluster keytab) := rfl
    have hcluster : e.cluster = .str "c" := rfl
    have hkeytab : e.keytab = "am.keytab" := rfl
    rw [hlogged, hbuild, hcluster, hkeytab, Act.on_ofExcept, hplace]
  -- a download writes the text, and then the log says so
  have hdown : (Act.writeText "/stage/keytab-7-a/am.keytab" "secret").on g₃ =
      (.ok (), { g₃ with disk := clashCopied }) := by
    have hwrite : (clashDisk 0o700).write (grantedMode 0o277 0o666) ["stage"]
        "/stage/keytab-7-a/am.keytab" "secret" = .ok clashCopied := by
      unfold Disk.write openForWriting
      rw [hopen]
      rfl
    rw [Act.on_writeText]
    exact Act.changeDisk_ok hpath' hwrite
  obtain ⟨err', made', h₄⟩ : ∃ err made, (e.store.copy remote (e.file dir remote) false).on g₃ =
      (.ok (), { g₃ with disk := clashCopied, err := err, log := { g₃.log with made := made } }) := by
    have hcopy : e.store.copy remote (e.file dir remote) false = HdfsStore.copy
        ⟨.str "http://nn:9870", .none, .str "/r", .serving "secret"⟩ remote (e.file dir remote) false := rfl
    rw [hcopy, hfile]
    cases HdfsStore.copyGoes ⟨.str "http://nn:9870", .none, .str "/r", .serving "secret"⟩ remote
        "/stage/keytab-7-a/am.keytab" g₃ with
    | refused hdown' _ => exact nomatch hdown.symm.trans hdown'
    | downloaded hdown' hlog hkept _ =>
      cases hdown.symm.trans hdown'
      obtain ⟨err', made', rfl⟩ := hlog.frame_of_no_sinks rfl
      exact ⟨err', made', hkept⟩
  let g₄ : Host :=
    { g₃ with disk := clashCopied, err := err', log := { g₃.log with made := made' } }
  have h₅ : (setMode (e.file dir remote) stagedKeytabMode).on g₄ =
      (.ok (), { askedToSet g₄ (e.file dir remote) stagedKeytabMode with disk := clashStaged }) := by
    refine setMode_ok_on rfl (hfile ▸ hpath') ?_
    rw [hfile]
    exact setMode_file (stat_eq_ok.mpr hprotect) (f := ⟨0o400, "secret"⟩) rfl _
  obtain ⟨hok, hafter⟩ := e.course_of_all h₁ h₂ h₃ h₄ h₅
  refine ⟨hok.trans (congrArg Except.ok hfile), ?_⟩
  -- the second staging takes the same name
  obtain ⟨err'', made'', hend⟩ := (e.remark_logged (.staged dir remote)
    { askedToSet g₄ (e.file dir remote) stagedKeytabMode with
      disk := clashStaged }).frame_of_no_sinks rfl
  have hlast : first.course.after = _ := hafter.trans hend
  rw [hlast]
  refine staging_taken ⟨.ofString "."⟩ clashOrder (l := ["stage", "keytab-7-a"]) (e := .directory 0o700) ?_
  have htext' : (nextDir ⟨.ofString "."⟩ (named clashHost)).text = "/stage/keytab-7-a" := by
    decide +kernel
  exact (congrArg (clashStaged.walk ["stage"] · .name) htext').trans hagain

end Clash

end KeytabStager

end SecureStartup
