import Mathlib.Data.Set.Defs
import SecureStartup.Proofs.Disk.Files

/-!
  Places where log files come and go.

  Program: `setup_logging` opens one log file, or one that is put aside every midnight under the date of
  the day before, of which the oldest are deleted (`TimedRotatingFileHandler`, with a week of backups).
  Every log line of the program may do any of this.

  A log file is written to, put aside under another name, and deleted in the end, while new ones are
  made.  All this happens at certain locations, the LOG PLACES, and what it can do to a disk is said
  once, by `LogsOnly`:

  1. Elsewhere all entries are what they were, and directories are what they were everywhere.
  2. What stands at a log place now stood at one before, or is a new file.
  3. A file that stood at no log place has the data that it had.

  It holds of each single change (`LogsOnly.addFile`, `.setContent`, `.drop`, `.rename`) and of one
  change after the other (`LogsOnly.trans`).  Since no link stands at a log place (`LogPlaces`), every
  path leads where it led, but for the log files themselves (`LogsOnly.ways`).
-/

namespace SecureStartup.Disk

/-- **Log places** of a disk: no link stands there, they lie in directories that are there, and nothing
    lies below them but below a directory. -/
structure LogPlaces (logs : Set Location) (d : Disk) : Prop where
  noLinks : ∀ m ∈ logs, ∀ target, d.entryAt? m ≠ some (.link target)
  inside : ∀ m ∈ logs, ∃ mode, d.entryAt? m.dropLast = some (.directory mode)
  below : ∀ m ∈ logs, ∀ n e, d.entryAt? (m ++ [n]) = some e →
    ∃ mode, d.entryAt? m = some (.directory mode)

/-- There need not be any. -/
theorem LogPlaces.empty (d : Disk) : LogPlaces ∅ d := ⟨nofun, nofun, nofun⟩

/-- They are a matter of the entries. -/
theorem LogPlaces.of_entries {logs : Set Location} {d d' : Disk} (hp : LogPlaces logs d)
    (h : ∀ l, d'.entryAt? l = d.entryAt? l) : LogPlaces logs d' where
  noLinks l hl target := by
    rw [h]
    exact hp.noLinks l hl target
  inside l hl := by
    rw [h]
    exact hp.inside l hl
  below l hl n e he := by
    rw [h] at he ⊢
    exact hp.below l hl n e he

/-- Something new in a directory, if it is no link: what is there already keeps its directories. -/
theorem LogPlaces.added {logs : Set Location} {d d' : Disk} (hp : LogPlaces logs d) {dir : Location}
    {name : String} (hdir : ∃ mode, d.entryAt? dir = some (.directory mode))
    (hfree : d.entryAt? (dir ++ [name]) = none) {e : Entry}
    (hnew : d'.entryAt? (dir ++ [name]) = some e) (hlink : ∀ target, e ≠ .link target)
    (hother : ∀ l, l ≠ dir ++ [name] → d'.entryAt? l = d.entryAt? l) : LogPlaces logs d' := by
  have hx : Extends d d' := by
    intro l e' he
    by_cases hl : l = dir ++ [name]
    · rw [hl, hfree] at he
      exact nomatch he
    · exact (hother l hl).trans he
  refine ⟨fun l hl target he => ?_, fun l hl => ?_, fun l hl n e' he => ?_⟩
  · by_cases hll : l = dir ++ [name]
    · rw [hll, hnew] at he
      exact hlink target (Option.some.inj he)
    · rw [hother l hll] at he
      exact hp.noLinks l hl target he
  · obtain ⟨m, hm⟩ := hp.inside l hl
    exact ⟨m, hx _ _ hm⟩
  · by_cases hll : l ++ [n] = dir ++ [name]
    · obtain ⟨rfl, _⟩ := List.append_inj' hll rfl
      obtain ⟨m, hm⟩ := hdir
      exact ⟨m, hx _ _ hm⟩
    · rw [hother _ hll] at he
      obtain ⟨m, hm⟩ := hp.below l hl n e' he
      exact ⟨m, hx _ _ hm⟩

/-- Opening a path for writing leaves log places what they are. -/
theorem LogPlaces.opens {logs : Set Location} {d e : Disk} (hp : LogPlaces logs d) {fresh : Nat}
    {cwd : Location} {path : String} {o : Opened} (h : Opens d fresh cwd path o e) :
    LogPlaces logs e := by
  cases h with
  | file _ _ => exact hp
  | special _ _ _ => exact hp
  | @new dir name hw _ =>
    have hne : dir ++ [name] ≠ [] := List.append_ne_nil_of_right_ne_nil _ (List.cons_ne_nil _ _)
    obtain ⟨mode, hdir, _⟩ := (isFree_of_walk hw).directory
    exact hp.added ⟨mode, hdir⟩ (isFree_of_walk hw).absent (entryAt?_addFile_self d fresh hne)
      (fun _ => nofun) fun l hl => entryAt?_addFile_of_ne d fresh hl

/-- **A log file**, by its number: it stands at a log place. -/
def IsLogFile (logs : Set Location) (d : Disk) (id : Nat) : Prop :=
  ∃ l ∈ logs, d.entryAt? l = some (.file id)

/-- **A disk after log files were written, made, put aside or deleted.** -/
structure LogsOnly (logs : Set Location) (d d' : Disk) : Prop where
  entries : ∀ l, l ∉ logs → d'.entryAt? l = d.entryAt? l
  directories : ∀ l mode,
    d'.entryAt? l = some (.directory mode) ↔ d.entryAt? l = some (.directory mode)
  /-- What stands at a log place stood at one before, or is a new file. -/
  moved : ∀ l ∈ logs, ∀ e, d'.entryAt? l = some e →
    (∃ l' ∈ logs, d.entryAt? l' = some e) ∨ ∃ id, e = .file id ∧ d.nextId ≤ id ∧ id < d'.nextId
  data : ∀ id < d.nextId, ¬ IsLogFile logs d id → d'.data? id = d.data? id
  nextId : d.nextId ≤ d'.nextId

namespace LogsOnly

variable {logs : Set Location} {d d' d'' : Disk}

theorem refl (logs : Set Location) (d : Disk) : LogsOnly logs d d where
  entries _ _ := rfl
  directories _ _ := Iff.rfl
  moved l hl _ he := .inl ⟨l, hl, he⟩
  data _ _ _ := rfl
  nextId := Nat.le_refl _

/-- A log file was one before, or it is new. -/
theorem isLogFile (a : LogsOnly logs d d') {id : Nat} (h : IsLogFile logs d' id) :
    IsLogFile logs d id ∨ d.nextId ≤ id ∧ id < d'.nextId := by
  obtain ⟨l, hl, he⟩ := h
  rcases a.moved l hl _ he with hold | ⟨id', hid, hnew⟩
  · exact .inl hold
  · cases hid
    exact .inr hnew

theorem trans (a : LogsOnly logs d d') (b : LogsOnly logs d' d'') : LogsOnly logs d d'' where
  entries l hl := (b.entries l hl).trans (a.entries l hl)
  directories l mode := (b.directories l mode).trans (a.directories l mode)
  moved l hl e he := by
    rcases b.moved l hl e he with ⟨l', hl', he'⟩ | ⟨id, rfl, hle, hlt⟩
    · refine (a.moved l' hl' e he').imp id ?_
      rintro ⟨id, rfl, hle, hlt⟩
      exact ⟨id, rfl, hle, Nat.lt_of_lt_of_le hlt b.nextId⟩
    · exact .inr ⟨id, rfl, Nat.le_trans a.nextId hle, hlt⟩
  data id hid hno := by
    refine (b.data id (Nat.lt_of_lt_of_le hid a.nextId) fun hlog => ?_).trans (a.data id hid hno)
    rcases a.isLogFile hlog with hold | ⟨hle, _⟩
    · exact hno hold
    · exact absurd hid (Nat.not_lt.mpr hle)
  nextId := Nat.le_trans a.nextId b.nextId

/-- No link comes to a log place. -/
theorem noLinks (a : LogsOnly logs d d') (hp : LogPlaces logs d) (l : Location) (hl : l ∈ logs)
    (target : String) : d'.entryAt? l ≠ some (.link target) := by
  intro he
  rcases a.moved l hl _ he with ⟨l', hl', he'⟩ | ⟨_, hid, _⟩
  · exact hp.noLinks l' hl' target he'
  · exact nomatch hid

/-- **The ways stay**, and there are no others. -/
theorem ways (a : LogsOnly logs d d') (hp : LogPlaces logs d) : SameWays d d' := by
  intro l e hw
  cases e with
  | directory mode => exact a.directories l mode
  | link target =>
    by_cases hl : l ∈ logs
    · exact ⟨fun h => absurd h (a.noLinks hp l hl target),
        fun h => absurd h (hp.noLinks l hl target)⟩
    · rw [a.entries l hl]
  | file id => exact nomatch hw
  | special s => exact nomatch hw

/-- What lies in a location now lies in a directory, if what lay there did: it lay there before, or it
    is at a log place. -/
theorem above (a : LogsOnly logs d d') (hp : LogPlaces logs d) {l : Location} {n : String} {e : Entry}
    (he : d'.entryAt? (l ++ [n]) = some e)
    (hwas : d.entryAt? (l ++ [n]) = some e → ∃ mode, d.entryAt? l = some (.directory mode)) :
    ∃ mode, d'.entryAt? l = some (.directory mode) := by
  have hdir : ∃ mode, d.entryAt? l = some (.directory mode) := by
    by_cases hn : l ++ [n] ∈ logs
    · obtain ⟨mode, hd⟩ := hp.inside _ hn
      rw [List.dropLast_concat] at hd
      exact ⟨mode, hd⟩
    · exact hwas ((a.entries _ hn).symm.trans he)
  obtain ⟨mode, hd⟩ := hdir
  exact ⟨mode, (a.directories l mode).mpr hd⟩

/-- **Log places stay log places.** -/
theorem places (a : LogsOnly logs d d') (hp : LogPlaces logs d) : LogPlaces logs d' where
  noLinks := a.noLinks hp
  inside l hl := by
    obtain ⟨mode, hd⟩ := hp.inside l hl
    exact ⟨mode, (a.directories _ mode).mpr hd⟩
  below l hl n e he := a.above hp he (hp.below l hl n e)

/-! ## Single changes -/

/-- Other bytes for a log file. -/
theorem setContent {id : Nat} (h : IsLogFile logs d id) (text : String) :
    LogsOnly logs d (d.setContent id text) where
  entries l _ := entryAt?_setContent ..
  directories l mode := by rw [entryAt?_setContent]
  moved l hl e he := .inl ⟨l, hl, (entryAt?_setContent ..).symm.trans he⟩
  data id' _ hno := data?_setContent_of_ne d text fun hid => hno (hid ▸ h)
  nextId := Nat.le_of_eq (nextId_setContent ..).symm

/-- A new file at a log place. -/
theorem addFile {l : Location} (hl : l ∈ logs) (hne : l ≠ []) (hfree : d.entryAt? l = none)
    (mode : Nat) : LogsOnly logs d (d.addFile l mode) where
  entries m hm := entryAt?_addFile_of_ne d mode fun h => hm (h ▸ hl)
  directories m mode' := by
    by_cases hml : m = l
    · rw [hml, entryAt?_addFile_self d mode hne, hfree]
      exact ⟨nofun, nofun⟩
    · rw [entryAt?_addFile_of_ne d mode hml]
  moved m hm e he := by
    by_cases hml : m = l
    · rw [hml, entryAt?_addFile_self d mode hne] at he
      cases he
      exact .inr ⟨d.nextId, rfl, Nat.le_refl _, Nat.lt_succ_self _⟩
    · rw [entryAt?_addFile_of_ne d mode hml] at he
      exact .inl ⟨m, hm, he⟩
  data id hid _ := data?_addFile_of_ne d mode l (Nat.ne_of_lt hid)
  nextId := Nat.le_succ _

/-- The name of a log file is removed. -/
theorem drop {l : Location} (hl : l ∈ logs) (hne : l ≠ [])
    (hno : ∀ mode, d.entryAt? l ≠ some (.directory mode)) : LogsOnly logs d (d.drop l) where
  entries m hm := entryAt?_drop_of_ne d fun h => hm (h ▸ hl)
  directories m mode := by
    by_cases hml : m = l
    · rw [hml, entryAt?_drop_self d hne]
      exact ⟨nofun, fun h => absurd h (hno mode)⟩
    · rw [entryAt?_drop_of_ne d hml]
  moved m hm e he := by
    by_cases hml : m = l
    · rw [hml, entryAt?_drop_self d hne] at he
      exact nomatch he
    · rw [entryAt?_drop_of_ne d hml] at he
      exact .inl ⟨m, hm, he⟩
  data _ _ _ := rfl
  nextId := Nat.le_refl _

/-- A log file gets another name, at a place where no directory stands. -/
theorem rename {l l' : Location} {e : Entry} (hl : l ∈ logs) (hl' : l' ∈ logs) (hne : l ≠ [])
    (hne' : l' ≠ []) (he : d.entryAt? l = some e) (hno : ∀ mode, e ≠ .directory mode)
    (hno' : ∀ mode, d.entryAt? l' ≠ some (.directory mode)) :
    LogsOnly logs d ((d.drop l).put l' e) where
  entries m hm := by
    have hml : m ≠ l := fun h => hm (h ▸ hl)
    have hml' : m ≠ l' := fun h => hm (h ▸ hl')
    rw [entryAt?_put_of_ne _ e hml', entryAt?_drop_of_ne d hml]
  -- neither of the two names is that of a directory
  directories m mode := by
    by_cases hml' : m = l'
    · rw [hml', entryAt?_put_self _ l' e hne']
      exact ⟨fun h => absurd (Option.some.inj h) (hno mode), fun h => absurd h (hno' mode)⟩
    rw [entryAt?_put_of_ne _ e hml']
    by_cases hml : m = l
    · rw [hml, entryAt?_drop_self d hne, he]
      exact ⟨nofun, fun h => absurd (Option.some.inj h) (hno mode)⟩
    · rw [entryAt?_drop_of_ne d hml]
  -- what stands at the new name now stood at the old one, which was a log place as well
  moved m hm e' he' := by
    by_cases hml' : m = l'
    · rw [hml', entryAt?_put_self _ l' e hne'] at he'
      cases he'
      exact .inl ⟨l, hl, he⟩
    rw [entryAt?_put_of_ne _ e hml'] at he'
    by_cases hml : m = l
    · rw [hml, entryAt?_drop_self d hne] at he'
      exact nomatch he'
    · rw [entryAt?_drop_of_ne d hml] at he'
      exact .inl ⟨m, hm, he'⟩
  data _ _ _ := rfl
  nextId := Nat.le_refl _

end LogsOnly

/-! ## Paths of log files -/

/-- **The path of a log file**: a walk for a file ends at a log place, `base` in `dir`.  If the file is
    put aside from time to time, the path is that of its name, and the names that begin with it are
    those of log files too. -/
structure LogPath (logs : Set Location) (turns : Prop) (d : Disk) (cwd : Location) (path : String)
    (dir : Location) (base : String) : Prop where
  place : dir ++ [base] ∈ logs
  newFile : d.walk cwd path .newFile = .ok (d.placeAt dir base)
  name : turns → d.walk cwd path .name = .ok (d.placeAt dir base)
  ends : turns → EndsInName (pathNames path)
  aside : turns → ∀ n : String, base.toList <+: n.toList → dir ++ [n] ∈ logs

section Paths

variable {logs : Set Location} {turns : Prop} {d d' : Disk} {cwd dir : Location} {path base : String}

/-- On a disk that keeps the ways, and has no link at a log place, it is one still. -/
theorem LogPath.keeps (a : LogPath logs turns d cwd path dir base) (hp : LogPlaces logs d)
    (hk : KeepsWays d d') (hlinks : ∀ l ∈ logs, ∀ target, d'.entryAt? l ≠ some (.link target)) :
    LogPath logs turns d' cwd path dir base where
  place := a.place
  newFile := walk_place hk (hlinks _ a.place) (hp.below _ a.place) (.inl rfl) a.newFile
  name ht :=
    walk_place hk (hlinks _ a.place) (hp.below _ a.place) (.inr ⟨rfl, a.ends ht⟩) (a.name ht)
  ends := a.ends
  aside := a.aside

theorem LogPath.logged (a : LogPath logs turns d cwd path dir base) (hp : LogPlaces logs d)
    (b : LogsOnly logs d d') : LogPath logs turns d' cwd path dir base :=
  a.keeps hp (b.ways hp).keeps (b.noLinks hp)

/-- **Opening a log file** makes one at most. -/
theorem LogPath.opens (a : LogPath logs turns d cwd path dir base) {fresh : Nat} {o : Opened}
    (h : Opens d fresh cwd path o d') :
    LogsOnly logs d d' ∧ ∀ id, o = .file id → IsLogFile logs d' id := by
  have hne : dir ++ [base] ≠ [] := List.append_ne_nil_of_right_ne_nil _ (List.cons_ne_nil _ _)
  cases h with
  | @file l id hw _ =>
    obtain ⟨rfl, he⟩ := placeAt_eq_found (Except.ok.inj (a.newFile.symm.trans hw))
    refine ⟨LogsOnly.refl logs d, fun id' hid => ?_⟩
    cases hid
    exact ⟨_, a.place, he⟩
  | special _ _ _ => exact ⟨LogsOnly.refl logs d, nofun⟩
  | @new dir' name hw _ =>
    obtain ⟨rfl, rfl, he⟩ := placeAt_eq_free (Except.ok.inj (a.newFile.symm.trans hw))
    refine ⟨LogsOnly.addFile a.place hne he fresh, fun id hid => ?_⟩
    cases hid
    exact ⟨_, a.place, entryAt?_addFile_self d fresh hne⟩

/-- **A line at the end of a log file.** -/
theorem LogPath.append (a : LogPath logs turns d cwd path dir base) {fresh : Nat} {text : String}
    (h : d.append fresh cwd path text = .ok d') : LogsOnly logs d d' := by
  unfold Disk.append at h
  rcases ho : d.openForWriting fresh cwd path with r | ⟨o, e⟩ <;> rw [ho] at h
  · exact nomatch h
  · obtain ⟨hopen, hlog⟩ := a.opens (opens_of_ok ho)
    rcases fill_ok (d := e) h with ⟨id, ho, rfl⟩ | ⟨_, _, rfl⟩
    · exact hopen.trans (LogsOnly.setContent (hlog id ho) _)
    · exact hopen

end Paths

end SecureStartup.Disk
