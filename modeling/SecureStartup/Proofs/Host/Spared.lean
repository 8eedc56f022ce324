import SecureStartup.Proofs.Host.LogFiles

/-!
  Locations that logging spares.

  1. **The point** — not every host has log places.  A log file may lie behind a link, say, and then
     putting it aside changes where paths lead.  But as long as no file is put aside, log files are added
     to a disk and written to, and that is all.  So a host `LogsSpare`s some locations when nothing is put
     aside, or when it has log places and none of these locations is one of them.

  2. **What follows** — on such a host every path leads where it led, and what stands at a spared location
     stays there (`Logged.spares`); so what a path leads to stays, if it stands there
     (`Logged.walk_spared`).

  3. **What is unusual** — `Orderly` is the weakest that two runs are compared under: either nothing is
     ever put aside, and there are no special files, or log files have places of their own.  Logging and
     asking keep a host orderly.
-/

namespace SecureStartup

namespace Disk

/-- Everything lies in a directory. -/
def IsTree (d : Disk) : Prop :=
  ∀ l n e, d.entryAt? (l ++ [n]) = some e → ∃ mode, d.entryAt? l = some (.directory mode)

/-- **A disk on which some locations were spared**: all ways are what they were, what stood at one of
    them stands there still, and nothing came there but files.  Elsewhere things came to directories
    only, and no special file came from nowhere. -/
structure Spares (spared : Set Location) (d d' : Disk) : Prop where
  ways : SameWays d d'
  entries : ∀ l ∈ spared, d'.entryAt? l = d.entryAt? l ∨
    d.entryAt? l = none ∧ ∃ id, d'.entryAt? l = some (.file id)
  inside : ∀ l n e, d'.entryAt? (l ++ [n]) = some e →
    d.entryAt? (l ++ [n]) = some e ∨ ∃ mode, d.entryAt? l = some (.directory mode)
  specials : ∀ l s, d'.entryAt? l = some (.special s) → ∃ l', d.entryAt? l' = some (.special s)

namespace Spares

variable {spared : Set Location} {d d' d'' : Disk}

theorem refl (spared : Set Location) (d : Disk) : Spares spared d d where
  ways _ _ _ := Iff.rfl
  entries _ _ := .inl rfl
  inside _ _ _ h := .inl h
  specials l _ h := ⟨l, h⟩

theorem trans (a : Spares spared d d') (b : Spares spared d' d'') : Spares spared d d'' where
  ways l e he := (b.ways l e he).trans (a.ways l e he)
  entries l hl := by
    rcases b.entries l hl with hb | ⟨hnone, id, hid⟩
    · rw [hb]
      exact a.entries l hl
    · rcases a.entries l hl with ha | ⟨_, id', hid'⟩
      · exact .inr ⟨ha.symm.trans hnone, id, hid⟩
      · exact nomatch hnone.symm.trans hid'
  inside l n e he := by
    rcases b.inside l n e he with he' | ⟨mode, hm⟩
    · exact a.inside l n e he'
    · exact .inr ⟨mode, (a.ways l _ rfl).mp hm⟩
  specials l s hs := by
    obtain ⟨l', hl'⟩ := b.specials l s hs
    exact a.specials l' s hl'

/-- What stood at a spared location stands there still. -/
theorem entry (a : Spares spared d d') {l : Location} (hl : l ∈ spared) {e : Entry}
    (h : d.entryAt? l = some e) : d'.entryAt? l = some e := by
  rcases a.entries l hl with he | ⟨hnone, _⟩
  · rw [he, h]
  · exact nomatch hnone.symm.trans h

/-- A tree stays a tree. -/
theorem isTree (a : Spares spared d d') (h : d.IsTree) : d'.IsTree := by
  intro l n e he
  have hdir : ∃ mode, d.entryAt? l = some (.directory mode) := by
    rcases a.inside l n e he with he' | hdir
    · exact h l n e he'
    · exact hdir
  obtain ⟨mode, hm⟩ := hdir
  exact ⟨mode, (a.ways l _ rfl).mpr hm⟩

/-- Log files spare all that is no log place. -/
theorem of_logsOnly {logs : Set Location} (hp : LogPlaces logs d) (a : LogsOnly logs d d')
    (hs : ∀ l ∈ spared, l ∉ logs) : Spares spared d d' where
  ways := a.ways hp
  entries l hl := .inl (a.entries l (hs l hl))
  inside l n e he := by
    by_cases hl : l ++ [n] ∈ logs
    · have hdir := hp.inside _ hl
      rw [List.dropLast_concat] at hdir
      exact .inr hdir
    · exact .inl ((a.entries _ hl).symm.trans he)
  specials l s h := by
    by_cases hl : l ∈ logs
    · rcases a.moved l hl _ h with ⟨l', _, hl'⟩ | ⟨_, hid, _⟩
      · exact ⟨l', hl'⟩
      · exact nomatch hid
    · exact ⟨l, (a.entries l hl).symm.trans h⟩

/-- Everything is spared where files are added to directories at most. -/
theorem of_added (h : ∀ l, d'.entryAt? l = d.entryAt? l ∨
    d.entryAt? l = none ∧ ∃ id, d'.entryAt? l = some (.file id))
    (hin : ∀ l n, d.entryAt? (l ++ [n]) = none → d'.entryAt? (l ++ [n]) ≠ none →
      ∃ mode, d.entryAt? l = some (.directory mode)) : Spares spared d d' where
  ways l e he := by
    rcases h l with hl | ⟨hnone, id, hid⟩
    · rw [hl]
    · rw [hnone, hid]
      refine ⟨fun hfile => ?_, nofun⟩
      cases hfile
      exact nomatch he
  entries l _ := h l
  inside l n e he := by
    rcases h (l ++ [n]) with hl | ⟨hnone, id, hid⟩
    · exact .inl (hl.symm.trans he)
    · exact .inr (hin l n hnone fun hno => nomatch hno.symm.trans hid)
  specials l s hs := by
    rcases h l with hl | ⟨_, id, hid⟩
    · exact ⟨l, hl.symm.trans hs⟩
    · exact nomatch hid.symm.trans hs

/-- Opening a path for writing adds a file at most. -/
theorem of_opens {fresh : Nat} {cwd : Location} {path : String} {o : Opened}
    (h : Opens d fresh cwd path o d') : Spares spared d d' := by
  cases h with
  | file _ _ => exact Spares.refl spared d
  | special _ _ _ => exact Spares.refl spared d
  | @new dir name hw _ =>
    have hne : dir ++ [name] ≠ [] := List.append_ne_nil_of_right_ne_nil _ (List.cons_ne_nil _ _)
    refine of_added (fun l => ?_) fun l n hnone hsome => ?_
    · by_cases hl : l = dir ++ [name]
      · rw [hl]
        exact .inr ⟨(isFree_of_walk hw).absent, d.nextId, entryAt?_addFile_self d fresh hne⟩
      · exact .inl (entryAt?_addFile_of_ne d fresh hl)
    · by_cases hl : l ++ [n] = dir ++ [name]
      · obtain ⟨rfl, _⟩ := List.append_inj' hl rfl
        obtain ⟨mode, hdir, _⟩ := (isFree_of_walk hw).directory
        exact ⟨mode, hdir⟩
      · exact absurd ((entryAt?_addFile_of_ne d fresh hl).trans hnone) hsome

/-- Writing to what was opened changes no entry. -/
theorem of_fill {o : Opened} {text : String} (h : d.fill o text = .ok d') : Spares spared d d' := by
  rcases fill_ok h with ⟨id, _, rfl⟩ | ⟨_, _, rfl⟩
  · exact of_added (fun l => .inl (entryAt?_setContent ..)) fun l n hnone hsome =>
      absurd ((entryAt?_setContent ..).trans hnone) hsome
  · exact Spares.refl spared d'

theorem of_append {fresh : Nat} {cwd : Location} {path text : String}
    (h : d.append fresh cwd path text = .ok d') : Spares spared d d' := by
  unfold append at h
  rcases ho : d.openForWriting fresh cwd path with r | ⟨o, e⟩ <;> rw [ho] at h
  · exact nomatch h
  · exact (of_opens (opens_of_ok ho)).trans (of_fill h)

end Spares

end Disk

namespace Host

open Disk

/-- **Logging spares some locations** on a host. -/
def LogsSpare (spared : Set Location) (h : Host) : Prop :=
  h.Turns → ∃ logs, h.LogsTo logs ∧ ∀ l ∈ spared, l ∉ logs

section

variable {spared : Set Location} {h h' : Host}

/-- Fewer locations. -/
theorem LogsSpare.mono {spared' : Set Location} (a : LogsSpare spared h)
    (hs : ∀ l ∈ spared', l ∈ spared) : LogsSpare spared' h := by
  intro ht
  obtain ⟨logs, hlogs, hout⟩ := a ht
  exact ⟨logs, hlogs, fun l hl => hout l (hs l hl)⟩

/-- On a disk with the same ways and log places, they are spared still. -/
theorem LogsSpare.keeps (a : LogsSpare spared h) (b : SameSetting h h')
    (hk : KeepsWays h.disk h'.disk) (hp : ∀ logs, LogPlaces logs h.disk → LogPlaces logs h'.disk) :
    LogsSpare spared h' := by
  intro ht
  have hturns : h.Turns := by
    unfold Turns at ht ⊢
    rwa [b.logTurns] at ht
  obtain ⟨logs, hlogs, hout⟩ := a hturns
  exact ⟨logs, hlogs.keeps b hk (hp logs hlogs.places), hout⟩

/-- On a host that was only asked. -/
theorem LogsSpare.same_disk (a : LogsSpare spared h) (b : SameSetting h h')
    (hd : h'.disk = h.disk) : LogsSpare spared h' :=
  a.keeps b (hd ▸ KeepsWays.refl h.disk) fun _ hp => hd ▸ hp

/-! ## While nothing is put aside -/

theorem writeLine_spares (h : Host) (file : Log.LogFile) (r : Log.Record) :
    Spares spared h.disk (h.writeLine file r).disk := by
  unfold writeLine
  split
  · split
    · rename_i hd
      exact Spares.of_append hd
    · exact Spares.refl spared h.disk
  · exact Spares.refl spared h.disk

theorem write_spares (hn : ¬ h.Turns) (r : Log.Record) (sink : Sink) :
    Spares spared h.disk (h.write r sink).disk := by
  cases sink with
  | console level =>
    simp only [write]
    split
    · exact Spares.refl spared h.disk
    · split <;> exact Spares.refl spared h.disk
  | file level file =>
    have hturn : h.turn file = (true, h) := by
      unfold turn
      rcases ht : h.logTurns h.log.made.length with _ | began
      · rfl
      · exact absurd ⟨_, Option.isSome_iff_exists.mpr ⟨began, ht⟩⟩ hn
    simp only [write]
    split
    · exact Spares.refl spared h.disk
    · rw [hturn]
      exact writeLine_spares h file r
  | tool => exact Spares.refl spared h.disk

theorem foldl_write_spares (r : Log.Record) (sinks : List Sink) {h : Host} (hn : ¬ h.Turns) :
    Spares spared h.disk (sinks.foldl (fun h s => h.write r s) h).disk := by
  induction sinks generalizing h with
  | nil => exact Spares.refl spared h.disk
  | cons s ss ih =>
    have hn' : ¬ (h.write r s).Turns := by
      obtain ⟨_, _, _, hw⟩ := h.write_frame r s
      rw [hw]
      exact hn
    exact (write_spares hn r s).trans (ih hn')

theorem logRecord_spares (hn : ¬ h.Turns) (r : Log.Record) :
    Spares spared h.disk (h.logRecord r).disk := by
  unfold logRecord
  simp only
  split
  · exact Spares.refl spared h.disk
  · split
    · split <;> exact Spares.refl spared h.disk
    · have hn' : ¬ ({ h with log := { h.log with made := r :: h.log.made } } : Host).Turns := hn
      exact foldl_write_spares r h.log.sinks hn'

/-! ## In any case -/

/-- **Logging spares these locations**, and will spare them.  By induction on the records. -/
theorem Logged.spares (a : LogsSpare spared h) (b : Logged h h') :
    Spares spared h.disk h'.disk ∧ LogsSpare spared h' := by
  by_cases ht : h.Turns
  · obtain ⟨logs, hlogs, hout⟩ := a ht
    obtain ⟨hd, hlogs'⟩ := b.logsOnly hlogs
    exact ⟨Spares.of_logsOnly hlogs.places hd hout, fun _ => ⟨logs, hlogs', hout⟩⟩
  · obtain ⟨rs, rfl⟩ := b
    induction rs generalizing h with
    | nil => exact ⟨Spares.refl spared h.disk, a⟩
    | cons r rs ih =>
      have hn : ¬ (h.logRecord r).Turns := by
        obtain ⟨_, _, _, hr⟩ := h.logRecord_frame r
        rw [hr]
        exact ht
      obtain ⟨hrest, hspare⟩ := ih (fun h' => absurd h' hn) hn
      exact ⟨(logRecord_spares ht r).trans hrest, hspare⟩

/-- **What a walk finds** at a spared location, it finds after logging. -/
theorem Logged.walk_spared (b : Logged h h') (a : LogsSpare spared h) {path : String} {aim : Aim}
    {l : Location} {e : Entry} (hl : l ∈ spared)
    (hw : h.disk.walk h.workDir path aim = .ok (.found l e)) :
    h'.disk.walk h'.workDir path aim = .ok (.found l e) := by
  obtain ⟨hd, _⟩ := b.spares a
  rw [b.sameSetting.workDir]
  exact walk_found_keeps hd.ways.keeps hw (hd.entry hl (entryAt?_of_walk hw))

theorem Logged.stat_spared (b : Logged h h') (a : LogsSpare spared h) {path : String} {l : Location}
    {e : Entry} (hl : l ∈ spared) (hstat : h.disk.stat h.workDir path = .ok (l, e)) :
    h'.disk.stat h'.workDir path = .ok (l, e) :=
  stat_eq_ok.mpr (b.walk_spared a hl (stat_eq_ok.mp hstat))

/-! ## Hosts with nothing unusual -/

/-- **An orderly host**: it has no special files, and never puts its log aside; or everything on it
    lies in a directory, and its log files have places of their own. -/
def Orderly (h : Host) : Prop :=
  (¬ h.Turns ∧ ∀ l s, h.disk.entryAt? l ≠ some (.special s)) ∨
    (h.disk.IsTree ∧ (h.Turns → ∃ logs, h.LogsTo logs))

theorem SameSetting.turns (a : SameSetting h h') : h'.Turns = h.Turns := by
  unfold Turns
  rw [a.logTurns]

/-- No special file comes to a host while nothing is put aside. -/
theorem Logged.noSpecials (b : Logged h h') (hn : ¬ h.Turns)
    (hs : ∀ l s, h.disk.entryAt? l ≠ some (.special s)) (l : Location) (s : Special) :
    h'.disk.entryAt? l ≠ some (.special s) := by
  intro he
  have hspare : h.LogsSpare ∅ := fun ht => absurd ht hn
  obtain ⟨l', hl'⟩ := (b.spares hspare).1.specials l s he
  exact hs l' s hl'

/-- Logging keeps a host orderly. -/
theorem Orderly.logged (a : Orderly h) (b : Logged h h') : Orderly h' := by
  have hturns := b.sameSetting.turns
  rcases a with ⟨hn, hs⟩ | ⟨htree, hlogs⟩
  · exact .inl ⟨hturns ▸ hn, b.noSpecials hn hs⟩
  · have hspare : h.LogsSpare ∅ := fun ht => by
      obtain ⟨logs, hl⟩ := hlogs ht
      exact ⟨logs, hl, nofun⟩
    obtain ⟨hd, hspare'⟩ := b.spares hspare
    refine .inr ⟨hd.isTree htree, fun ht => ?_⟩
    obtain ⟨logs, hl, _⟩ := hspare' ht
    exact ⟨logs, hl⟩

/-- So does asking. -/
theorem Orderly.same_disk (a : Orderly h) (b : SameSetting h h') (hd : h'.disk = h.disk) :
    Orderly h' := by
  unfold Orderly
  rw [b.turns, hd]
  refine a.imp_right fun htree => ⟨htree.1, fun ht => ?_⟩
  obtain ⟨logs, hl⟩ := htree.2 ht
  exact ⟨logs, hl.keeps b (hd ▸ KeepsWays.refl h.disk) (hd ▸ hl.places)⟩

end

end Host

end SecureStartup
