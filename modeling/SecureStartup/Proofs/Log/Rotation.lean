import SecureStartup.Log.Rotation
import SecureStartup.Proofs.Disk.Contents

/-!
  What putting a log file aside does to a disk.

  Program: the handler that `setup_logging` makes puts its file aside when a record comes after the end of
  the period: it closes the file, removes what stands under the dated name, renames the file to it, looks
  for backups that are too old and removes them, and opens the file again.

  Putting aside is a course of requests, any of which may be refused, so what is said of it has to
  hold wherever it ends.  The argument goes in three steps:

  1. `Requests.Does` says that requests keep a property of disks, and what they answer.  There is one
     rule for each way to build requests (`does_pure`, `Does.bind`, `does_ask`, `does_make`,
     `does_forM`).
  2. Putting aside removes and renames names that begin with the file's own, in the file's directory,
     and opens the file (`LogFile.putAside_does`); nothing else of it matters for a property of disks.
  3. So, in the log places, it does what log files do (`LogFile.putAside_logsOnly`); it sets no data of
     any file (`LogFile.putAside_keepsData`); and disks that differ in the bytes of files only answer
     it alike (`LogFile.putAside_alike`).
-/

namespace SecureStartup

open SecureStartup.Text

namespace Disk

/-! ## Requests -/

namespace Requests

variable {α β : Type} {inv : Disk → Prop} {answers : α → Prop} {final : β → Prop}

theorem run_bind (x : Requests α) (k : α → Requests β) (d : Disk) :
    (x >>= k).run d =
      match x.run d with
      | (.ok a, e) => (k a).run e
      | (.error r, e) => (.error r, e) := by
  show ExceptT.bindCont k (x.run d).1 (x.run d).2 = _
  rcases x.run d with ⟨_ | _, _⟩ <;> rfl

/-- **Requests keep a property of disks**, wherever they end, and answer like this if they answer. -/
def Does (inv : Disk → Prop) (x : Requests α) (answers : α → Prop) : Prop :=
  ∀ d, inv d → inv (x.run d).2 ∧ ∀ a, (x.run d).1 = .ok a → answers a

theorem does_pure {a : α} (h : answers a) : Does inv (pure a) answers := by
  intro d hd
  refine ⟨hd, fun b hb => ?_⟩
  cases hb
  exact h

theorem Does.bind {x : Requests α} {k : α → Requests β} (hx : Does inv x answers)
    (hk : ∀ a, answers a → Does inv (k a) final) : Does inv (x >>= k) final := by
  intro d hd
  obtain ⟨hinv, hans⟩ := hx d hd
  rw [run_bind]
  rcases hrun : x.run d with ⟨r | a, e⟩ <;> rw [hrun] at hinv hans
  · exact ⟨hinv, nofun⟩
  · exact hk a (hans a rfl) e hinv

theorem does_look : Does inv look fun _ => True := fun _ hd => ⟨hd, fun _ _ => trivial⟩

theorem does_ask {question : Disk → Except Refusal α}
    (h : ∀ d a, inv d → question d = .ok a → answers a) : Does inv (ask question) answers :=
  fun d hd => ⟨hd, fun a ha => h d a hd ha⟩

theorem run_make (op : Disk → Except Refusal Disk) (d : Disk) :
    (make op).run d = match op d with | .ok e => (.ok (), e) | .error r => (.error r, d) := rfl

theorem does_make {op : Disk → Except Refusal Disk} (h : ∀ d e, inv d → op d = .ok e → inv e) :
    Does inv (make op) fun _ => True := by
  intro d hd
  rw [run_make]
  rcases ho : op d with r | e
  · exact ⟨hd, nofun⟩
  · exact ⟨h d e hd ho, fun _ _ => trivial⟩

/-- One request for each of some values.  By induction on the values. -/
theorem does_forM {xs : List α} {k : α → Requests Unit}
    (h : ∀ a ∈ xs, Does inv (k a) fun _ => True) : Does inv (xs.forM k) fun _ => True := by
  induction xs with
  | nil => exact does_pure trivial
  | cons a as ih =>
    rw [List.forM_eq_forM, List.forM_cons]
    refine (h a List.mem_cons_self).bind fun _ _ => ?_
    exact ih fun b hb => h b (List.mem_cons_of_mem a hb)

/-- What is done on a condition, and what follows in any case. -/
theorem Does.ifThen {c : Prop} [Decidable c] {x : Requests Unit} {k : Unit → Requests β}
    (hx : Does inv x fun _ => True) (hk : Does inv (k ()) final) :
    Does inv (if c then x >>= k else k ()) final := by
  split
  · exact hx.bind fun _ _ => hk
  · exact hk

/-! ## Requests to two disks -/

/-- **Requests that disks answer alike**, if they differ in the bytes of some files only. -/
def Alike (secret : List Nat) (x y : Requests α) : Prop :=
  ∀ d d', SameBut secret d d' →
    (y.run d').1 = (x.run d).1 ∧ SameBut secret (x.run d).2 (y.run d').2

section Alike

variable {secret : List Nat}

theorem alike_pure (a : α) : Alike secret (pure a : Requests α) (pure a) := fun _ _ hd => ⟨rfl, hd⟩

theorem Alike.bind {x y : Requests α} {k l : α → Requests β} (hx : Alike secret x y)
    (hk : ∀ a, Alike secret (k a) (l a)) : Alike secret (x >>= k) (y >>= l) := by
  intro d d' hd
  obtain ⟨hans, hsame⟩ := hx d d' hd
  rw [run_bind, run_bind]
  rcases hrun : x.run d with ⟨r | a, e⟩ <;> rcases hrun' : y.run d' with ⟨r' | a', e'⟩ <;>
    rw [hrun, hrun'] at hans hsame <;> cases hans
  · exact ⟨rfl, hsame⟩
  · exact hk a e e' hsame

/-- Looking at the disk: what follows may ask what both disks answer alike. -/
theorem alike_look_bind {k l : Disk → Requests α}
    (h : ∀ d d', SameBut secret d d' → Alike secret (k d) (l d')) :
    Alike secret (look >>= k) (look >>= l) := fun d d' hd => h d d' hd d d' hd

theorem alike_ask {question : Disk → Except Refusal α}
    (h : ∀ d d', SameBut secret d d' → question d' = question d) :
    Alike secret (ask question) (ask question) := fun d d' hd => ⟨h d d' hd, hd⟩

theorem alike_make {op : Disk → Except Refusal Disk}
    (h : ∀ d d', SameBut secret d d' → Agree (SameBut secret) (op d) (op d')) :
    Alike secret (make op) (make op) := by
  intro d d' hd
  rw [run_make, run_make]
  rcases h d d' hd with ⟨r, hr, hr'⟩ | ⟨e, e', he, he', hsame⟩
  · rw [hr, hr']
    exact ⟨rfl, hd⟩
  · rw [he, he']
    exact ⟨rfl, hsame⟩

theorem alike_forM {xs : List α} {k : α → Requests Unit} (h : ∀ a, Alike secret (k a) (k a)) :
    Alike secret (xs.forM k) (xs.forM k) := by
  induction xs with
  | nil => exact alike_pure ()
  | cons a as ih =>
    rw [List.forM_eq_forM, List.forM_cons]
    exact (h a).bind fun _ => ih

theorem Alike.ifThen {c : Prop} [Decidable c] {x : Requests Unit} {k : Unit → Requests β}
    (hx : Alike secret x x) (hk : Alike secret (k ()) (k ())) :
    Alike secret (if c then x >>= k else k ()) (if c then x >>= k else k ()) := by
  split
  · exact hx.bind fun _ => hk
  · exact hk

end Alike

end Requests

/-! ## Names in one directory -/

section Names

variable {d e : Disk} {dir : Location} {name old new : String}

theorem removeName_ok (h : d.removeName dir name = .ok e) :
    e = d.drop (dir ++ [name]) ∧ ∀ mode, d.entryAt? (dir ++ [name]) ≠ some (.directory mode) := by
  unfold removeName at h
  rcases he : d.entryAt? (dir ++ [name]) with _ | entry <;> rw [he] at h
  · exact nomatch h
  cases entry with
  | directory m =>
    simp only at h
    split at h <;> exact nomatch h
  | _ =>
    simp only at h
    split at h
    · exact ⟨(Except.ok.inj h).symm, nofun⟩
    · exact nomatch h

theorem rename_ok (h : d.rename dir old new = .ok e) :
    ∃ entry, d.entryAt? (dir ++ [old]) = some entry ∧ (∀ mode, entry ≠ .directory mode) ∧
      (∀ mode, d.entryAt? (dir ++ [new]) ≠ some (.directory mode)) ∧
      e = (d.drop (dir ++ [old])).put (dir ++ [new]) entry := by
  unfold rename at h
  split at h
  · exact nomatch h
  rcases ho : d.entryAt? (dir ++ [old]) with _ | entry <;> rw [ho] at h
  · exact nomatch h
  have hno : ∀ mode, entry ≠ .directory mode := by
    rintro mode rfl
    exact nomatch h
  have hnew : ∀ mode, d.entryAt? (dir ++ [new]) ≠ some (.directory mode) := by
    intro mode hn
    rw [hn] at h
    cases entry <;> exact nomatch h
  -- Both ends are known, so only one of the branches is left.
  refine ⟨entry, rfl, hno, hnew, ?_⟩
  split at h
  · rename_i heq
    exact nomatch heq
  · exact nomatch h
  · exact nomatch h
  · rename_i heq _
    cases heq
    split at h
    · exact (Except.ok.inj h).symm
    · exact nomatch h

/-- Removing a name is no matter of bytes. -/
theorem SameBut.removeName {secret : List Nat} {d' : Disk} (a : SameBut secret d d') (dir : Location)
    (name : String) :
    Agree (SameBut secret) (d.removeName dir name) (d'.removeName dir name) := by
  unfold Disk.removeName
  rw [a.sameEntries, a.sameEntries.mayChange]
  split
  · exact .error _
  · split <;> exact .error _
  · split
    · exact .ok (a.drop _)
    · exact .error _

/-- Nor is giving another name. -/
theorem SameBut.rename {secret : List Nat} {d' : Disk} (a : SameBut secret d d') (dir : Location)
    (old new : String) :
    Agree (SameBut secret) (d.rename dir old new) (d'.rename dir old new) := by
  unfold Disk.rename
  rw [a.sameEntries, a.sameEntries, a.sameEntries.mayChange]
  split
  · exact .error _
  · split
    · exact .error _
    · exact .error _
    · exact .error _
    · split
      · exact .ok ((a.drop _).put _ _)
      · exact .error _

end Names

end Disk

namespace Log.LogFile

open SecureStartup.Disk Disk.Requests

variable (f : LogFile) {inv : Disk → Prop} {fresh : Nat} {cwd : Location} (began : DateTime)

/-- The name that a file is put aside under begins with its own. -/
theorem name_isPrefix_aside (name : String) : name.toList <+: (name ++ f.suffix began).toList := by
  rw [String.toList_append]
  exact List.prefix_append _ _

/-- Files that are to go have names that begin with the log file's. -/
theorem name_isPrefix_outdated {name old : String} {names : List String}
    (h : old ∈ f.outdated name names) : name.toList <+: old.toList := by
  have hmem : old ∈ names.filter (f.isAside name) := List.mem_of_mem_take h
  have haside : f.isAside name old = true := (List.mem_filter.mp hmem).2
  have hstart : startsWith name.toList old.toList = true := (Bool.and_eq_true_iff.mp haside).1
  obtain ⟨rest, hrest⟩ := Option.isSome_iff_exists.mp hstart
  exact ⟨rest, (eq_append_of_dropLead hrest).symm⟩

/-- **Putting a log file aside keeps a property of disks** that three things keep: removing a name that
    begins with that of the file, giving the file such a name, and opening it. -/
theorem putAside_does (named : Location → String → Prop)
    (hname : ∀ d dir name, inv d → d.nameOf cwd f.path = .ok (dir, name) → named dir name)
    (hremove : ∀ d e dir name n, inv d → named dir name → name.toList <+: n.toList →
      d.removeName dir n = .ok e → inv e)
    (hrename : ∀ d e dir name n, inv d → named dir name → name.toList <+: n.toList →
      d.rename dir name n = .ok e → inv e)
    (hopen : ∀ d o e, inv d → d.openForWriting fresh cwd f.path = .ok (o, e) → inv e) :
    Does inv (f.putAside fresh cwd began) fun _ => True := by
  unfold putAside
  refine does_look.bind fun d _ => ?_
  split
  · exact does_pure trivial
  have hask : Does inv (ask fun d => d.nameOf cwd f.path) fun p => named p.1 p.2 :=
    does_ask fun d p hd hp => hname d p.1 p.2 hd hp
  refine hask.bind fun p hp => ?_
  obtain ⟨dir, name⟩ := p
  have haside := f.name_isPrefix_aside began name
  -- the old backup under this name, the file itself, the backups that are too old, and the new file
  refine Does.ifThen (does_make fun d e hd he => hremove d e dir name _ hd hp haside he) ?_
  refine Does.ifThen (does_make fun d e hd he => hrename d e dir name _ hd hp haside he) ?_
  have hlast : Does inv (make fun d => (·.2) <$> d.openForWriting fresh cwd f.path) fun _ => True := by
    refine does_make fun d e hd he => ?_
    rcases ho : d.openForWriting fresh cwd f.path with r | ⟨o, e'⟩ <;> rw [ho] at he
    · exact nomatch he
    · cases he
      exact hopen d o _ hd ho
  split
  · refine (does_ask fun _ _ _ _ => trivial : Does inv _ fun _ => True).bind fun names _ => ?_
    refine (does_forM fun old hold => ?_).bind fun _ _ => hlast
    exact does_make fun d e hd he => hremove d e dir name old hd hp (f.name_isPrefix_outdated hold) he
  · exact hlast

/-! ## In the log places -/

/-- The directory and the name of a log file. -/
theorem nameOf_place {logs : Set Location} {turns : Prop} {d : Disk} {path base : String}
    {dir : Location} (a : LogPath logs turns d cwd path dir base) (ht : turns) :
    d.nameOf cwd path = .ok (dir, base) := by
  unfold Disk.nameOf
  rw [a.name ht]
  unfold Disk.placeAt
  split
  · show Except.ok ((dir ++ [base]).dropLast, (dir ++ [base]).getLast?.getD "") = _
    rw [List.dropLast_concat, List.getLast?_concat]
    rfl
  · rfl

/-- **Putting a log file aside does what log files do.**  Everything it removes, renames or makes has
    its place among the log places. -/
theorem putAside_logsOnly {logs : Set Location} {turns : Prop} {d : Disk} {dir : Location}
    {base : String} (hp : LogPlaces logs d) (a : LogPath logs turns d cwd f.path dir base)
    (ht : turns) : LogsOnly logs d ((f.putAside fresh cwd began).run d).2 := by
  have hne : ∀ n : String, dir ++ [n] ≠ [] := fun n =>
    List.append_ne_nil_of_right_ne_nil _ (List.cons_ne_nil _ _)
  have hdoes : Does (LogsOnly logs d) (f.putAside fresh cwd began) fun _ => True := by
    refine f.putAside_does began (fun m n => m = dir ∧ n = base) ?_ ?_ ?_ ?_
    · intro e m n hd hn
      rw [nameOf_place (a.logged hp hd) ht] at hn
      cases hn
      exact ⟨rfl, rfl⟩
    · rintro e e' _ _ n hd ⟨rfl, rfl⟩ hpre he
      obtain ⟨rfl, hno⟩ := removeName_ok he
      exact hd.trans (LogsOnly.drop (a.aside ht n hpre) (hne n) hno)
    · rintro e _ _ _ n hd ⟨rfl, rfl⟩ hpre he
      obtain ⟨entry, hold, hdir, hno, rfl⟩ := rename_ok he
      refine hd.trans (LogsOnly.rename a.place (a.aside ht n hpre) (hne _) (hne n) hold hdir hno)
    · intro e o e' hd ho
      exact hd.trans ((a.logged hp hd).opens (opens_of_ok ho)).1
  exact (hdoes d (LogsOnly.refl logs d)).1

/-! ## Any log file -/

/-- **Putting a log file aside sets no data** of a file that is there. -/
theorem putAside_keepsData (d : Disk) :
    d.nextId ≤ ((f.putAside fresh cwd began).run d).2.nextId ∧
      ∀ id < d.nextId, ((f.putAside fresh cwd began).run d).2.data? id = d.data? id := by
  have hdoes : Does (fun e => d.nextId ≤ e.nextId ∧ ∀ id < d.nextId, e.data? id = d.data? id)
      (f.putAside fresh cwd began) fun _ => True := by
    refine f.putAside_does began (fun _ _ => True) (fun _ _ _ _ _ => trivial) ?_ ?_ ?_
    · intro e e' dir name n hd _ _ he
      obtain ⟨rfl, _⟩ := removeName_ok he
      exact hd
    · intro e e' dir name n hd _ _ he
      obtain ⟨entry, _, _, _, rfl⟩ := rename_ok he
      exact hd
    · intro e o e' hd ho
      cases opens_of_ok ho with
      | file _ _ => exact hd
      | special _ _ _ => exact hd
      | @new dir name _ _ =>
        refine ⟨Nat.le_succ_of_le hd.1, fun id hid => ?_⟩
        have hlt : id < e.nextId := Nat.lt_of_lt_of_le hid hd.1
        rw [data?_addFile_of_ne e fresh _ (Nat.ne_of_lt hlt), hd.2 id hid]
  exact (hdoes d ⟨Nat.le_refl _, fun _ _ => rfl⟩).1

/-- **Putting a log file aside is no matter of bytes.** -/
theorem putAside_alike (secret : List Nat) :
    Disk.Requests.Alike secret (f.putAside fresh cwd began) (f.putAside fresh cwd began) := by
  unfold putAside
  refine alike_look_bind fun d d' hd => ?_
  -- Only entries are asked about, and these are the same.
  have hthere : isThere d' cwd f.path = isThere d cwd f.path := by
    unfold isThere
    rw [hd.sameEntries.stat]
  have haside : isThere d' cwd (f.path ++ f.suffix began) = isThere d cwd (f.path ++ f.suffix began) := by
    unfold isThere
    rw [hd.sameEntries.stat]
  have hfile : d'.isFile cwd f.path = d.isFile cwd f.path := by
    unfold Disk.isFile
    rw [hd.sameEntries.stat]
  rw [hthere, haside, hfile]
  split
  · exact alike_pure ()
  refine (alike_ask fun e e' he => ?_).bind fun p => ?_
  · unfold Disk.nameOf
    rw [he.sameEntries.walk]
  obtain ⟨dir, name⟩ := p
  have hlast : Disk.Requests.Alike secret (make fun d => (·.2) <$> d.openForWriting fresh cwd f.path)
      (make fun d => (·.2) <$> d.openForWriting fresh cwd f.path) := by
    refine alike_make fun e e' he => ?_
    rcases he.openForWriting cwd f.path fresh with ⟨r, hr, hr'⟩ | ⟨o, o', ho, ho', _, hsame⟩
    · rw [hr, hr']
      exact .error r
    · rw [ho, ho']
      exact .ok hsame
  refine Alike.ifThen (alike_make fun e e' he => he.removeName dir _) ?_
  refine Alike.ifThen (alike_make fun e e' he => he.rename dir _ _) ?_
  split
  · refine (alike_ask fun e e' he => ?_).bind fun names => ?_
    · unfold Disk.list
      have hnames : e'.names dir = e.names dir := by
        unfold Disk.names
        rw [he.entries]
      rw [he.sameEntries dir, hnames]
    · exact (alike_forM fun old => alike_make fun e e' he => he.removeName dir old).bind fun _ => hlast
  · exact hlast

end Log.LogFile

end SecureStartup
