import Mathlib.Data.List.Induction
import SecureStartup.Proofs.Disk.LogPlaces

/-!
  What making a directory and writing into it does to a disk.

  Program: a staging makes its directory (`os.mkdir` with the mode, then `os.chmod`), has one file copied
  into it, and sets the file's mode; between its requests it writes log lines.

  A disk is SOUND when every entry lies in a directory and files are numbered below `nextId`; so
  nothing lies below a location that holds nothing, and a new file has a number of its own.

  `Holding l mode file` describes a disk that has grown by a new directory at `l` and at most one file
  in it; without them (`cut l`) it is the disk from before, but for its log files.  The operations of a
  staging are followed along it:

  1. Making the directory begins it (`holding_of_makeDir`).
  2. Setting the mode of the directory changes this mode alone (`Holding.put`).
  3. Writing the file adds the file (`Holding.write`), and setting the file's mode changes its data
     alone (`Holding.setData`).
  4. Whatever happens to log files happens elsewhere (`Holding.logged`).

  The mode that the directory is made with is less than what was asked for by what the host's umask takes
  away; it is the second step that gives it the mode that it is to have.
-/

namespace SecureStartup.Disk

/-! ## Sound disks -/

/-- **A sound disk.** -/
structure Sound (d : Disk) : Prop where
  /-- What holds an entry is a directory. -/
  above : ∀ l n e, d.entryAt? (l ++ [n]) = some e → ∃ mode, d.entryAt? l = some (.directory mode)
  /-- Files have numbers that were given out. -/
  numbered : ∀ l id, d.entryAt? l = some (.file id) → id < d.nextId

/-- Nothing lies in itself. -/
theorem child_ne (l : Location) (n : String) : l ++ [n] ≠ l := fun h =>
  nomatch List.append_right_eq_self.mp h

/-- Soundness is a matter of the entries that are listed. -/
theorem sound_of_entries {d : Disk}
    (h : ∀ x ∈ d.entries, (∃ mode, d.entryAt? x.1.dropLast = some (.directory mode)) ∧
      ∀ id, x.2 = .file id → id < d.nextId) : Sound d := by
  have hmem : ∀ l e, l ≠ [] → d.entryAt? l = some e → (l, e) ∈ d.entries := by
    intro l e hl he
    have hempty : l.isEmpty = false := List.isEmpty_eq_false_iff.mpr hl
    unfold entryAt? at he
    rw [hempty] at he
    obtain ⟨x, hx, rfl⟩ := Option.map_eq_some_iff.mp he
    have hfound := List.find?_some hx
    have hxl : x.1 = l := eq_of_beq hfound
    exact hxl ▸ List.mem_of_find?_eq_some hx
  constructor
  · intro l n e he
    have hne : l ++ [n] ≠ [] := List.append_ne_nil_of_right_ne_nil _ (List.cons_ne_nil _ _)
    obtain ⟨hdir, _⟩ := h _ (hmem _ e hne he)
    rwa [List.dropLast_concat] at hdir
  · intro l id he
    have hl : l ≠ [] := by
      rintro rfl
      exact nomatch he
    exact (h _ (hmem l _ hl he)).2 id rfl

/-- Nothing lies below a location that holds nothing. -/
theorem Sound.entryAt?_below {d : Disk} (s : Sound d) {l m : Location} (h : d.entryAt? l = none)
    (hp : l <+: m) : d.entryAt? m = none := by
  obtain ⟨t, rfl⟩ := hp
  induction t using List.reverseRecOn with
  | nil => rw [List.append_nil, h]
  | append_singleton t n ih =>
    rw [← List.append_assoc]
    rcases he : d.entryAt? (l ++ t ++ [n]) with _ | e
    · rfl
    · obtain ⟨mode, hm⟩ := s.above _ _ _ he
      rw [ih] at hm
      exact nomatch hm

/-- A disk whose log files have changed is sound. -/
theorem LogsOnly.sound {logs : Set Location} {d d' : Disk} (a : LogsOnly logs d d') (s : Sound d)
    (hp : LogPlaces logs d) : Sound d' where
  above l n e he := a.above hp he (s.above l n e)
  numbered l id he := by
    by_cases hl : l ∈ logs
    · rcases a.moved l hl _ he with ⟨l', _, he'⟩ | ⟨id', hid, _, hlt⟩
      · exact Nat.lt_of_lt_of_le (s.numbered l' id he') a.nextId
      · cases hid
        exact hlt
    · rw [a.entries l hl] at he
      exact Nat.lt_of_lt_of_le (s.numbered l id he) a.nextId

/-! ## A disk without a directory -/

/-- The disk without what is at a location and below it. -/
def cut (d : Disk) (l : Location) : Disk :=
  { d with entries := d.entries.filter fun x => !l.isPrefixOf x.1 }

section Cut

variable {d : Disk} {l m : Location}

theorem entryAt?_cut_below (hl : l ≠ []) (h : l <+: m) : (d.cut l).entryAt? m = none := by
  have hm : m.isEmpty = false := by
    rw [List.isEmpty_eq_false_iff]
    rintro rfl
    exact hl (List.prefix_nil.mp h)
  have hnone : (d.entries.filter fun x => !l.isPrefixOf x.1).find? (fun e => e.1 == m) = none := by
    rw [List.find?_eq_none]
    intro x hx hxm
    have hno := (List.mem_filter.mp hx).2
    rw [eq_of_beq hxm, List.isPrefixOf_iff_prefix.mpr h] at hno
    exact nomatch hno
  unfold entryAt? cut
  rw [hm, hnone]
  rfl

theorem entryAt?_cut_of_not_below (h : ¬ l <+: m) : (d.cut l).entryAt? m = d.entryAt? m := by
  unfold entryAt? cut
  split
  · rfl
  · have hfind : (d.entries.filter fun x => !l.isPrefixOf x.1).find? (fun e => e.1 == m) =
        d.entries.find? fun e => e.1 == m := by
      rw [List.find?_filter]
      congr 1
      funext x
      by_cases hx : x.1 = m
      · rw [hx, Bool.eq_false_iff.mpr fun hp => h (List.isPrefixOf_iff_prefix.mp hp),
          beq_self_eq_true]
        rfl
      · rw [beq_eq_false_iff_ne.mpr hx, decide_eq_false (by simp)]
    rw [hfind]

/-- What is there without it lies elsewhere. -/
theorem of_entryAt?_cut (hl : l ≠ []) {e : Entry} (h : (d.cut l).entryAt? m = some e) :
    ¬ l <+: m ∧ d.entryAt? m = some e := by
  by_cases hp : l <+: m
  · rw [entryAt?_cut_below hl hp] at h
    exact nomatch h
  · rw [entryAt?_cut_of_not_below hp] at h
    exact ⟨hp, h⟩

/-- What lies at and below a location does not matter without it. -/
theorem entryAt?_cut_congr {d' : Disk} (hl : l ≠ [])
    (h : ∀ m, ¬ l <+: m → d'.entryAt? m = d.entryAt? m) (m : Location) :
    (d'.cut l).entryAt? m = (d.cut l).entryAt? m := by
  by_cases hp : l <+: m
  · rw [entryAt?_cut_below hl hp, entryAt?_cut_below hl hp]
  · rw [entryAt?_cut_of_not_below hp, entryAt?_cut_of_not_below hp, h m hp]

end Cut

/-- The same entries, with the data of log files at most, and of new ones. -/
theorem LogsOnly.of_entries {logs : Set Location} {d d' : Disk}
    (hentries : ∀ l, d'.entryAt? l = d.entryAt? l)
    (hdata : ∀ id < d.nextId, ¬ IsLogFile logs d id → d'.data? id = d.data? id)
    (hnext : d.nextId ≤ d'.nextId) : LogsOnly logs d d' where
  entries l _ := hentries l
  directories l mode := by rw [hentries]
  moved l hl e he := .inl ⟨l, hl, (hentries l).symm.trans he⟩
  data := hdata
  nextId := hnext

/-! ## A new directory -/

/-- **A disk that holds a new directory**, with at most one file in it, a name and a number.
    Everything else is as it was, but for log files. -/
structure Holding (logs : Set Location) (l : Location) (mode : Nat) (file : Option (String × Nat))
    (d₀ d : Disk) : Prop where
  /-- The directory is new. -/
  fresh : d₀.entryAt? l = none
  directory : d.entryAt? l = some (.directory mode)
  below : ∀ m, l <+: m → m ≠ l →
    d.entryAt? m = file.bind fun f => if m = l ++ [f.1] then some (.file f.2) else none
  rest : LogsOnly logs d₀ (d.cut l)
  /-- The file is new, -/
  new : ∀ f, file = some f → d₀.nextId ≤ f.2 ∧ f.2 < d.nextId
  /-- and no log file. -/
  apart : ∀ f, file = some f → ¬ IsLogFile logs d f.2

/-- Log places lie in directories that were there before. -/
theorem LogPlaces.not_below {logs : Set Location} {d₀ : Disk} (hp : LogPlaces logs d₀) (s : Sound d₀)
    {l m : Location} (hfresh : d₀.entryAt? l = none) (hm : m ∈ logs) (hl : l <+: m) : m = l := by
  by_contra hne
  obtain ⟨mode, hd⟩ := hp.inside m hm
  rcases m.eq_nil_or_concat with rfl | ⟨up, last, rfl⟩
  · exact hne (List.prefix_nil.mp hl).symm
  · rw [List.concat_eq_append] at hl hne hd
    rw [List.dropLast_concat] at hd
    have hup : l <+: up := (List.prefix_concat_iff.mp hl).resolve_left fun h => hne h.symm
    rw [s.entryAt?_below hfresh hup] at hd
    exact nomatch hd

namespace Holding

variable {logs : Set Location} {l : Location} {mode : Nat} {file : Option (String × Nat)}
  {d₀ d d' : Disk}

theorem ne_nil (a : Holding logs l mode file d₀ d) : l ≠ [] := by
  rintro rfl
  exact nomatch a.fresh

/-- Elsewhere all entries but those of log files are what they were. -/
theorem elsewhere (a : Holding logs l mode file d₀ d) {m : Location} (hm : ¬ l <+: m)
    (hlog : m ∉ logs) : d.entryAt? m = d₀.entryAt? m :=
  (entryAt?_cut_of_not_below hm).symm.trans (a.rest.entries m hlog)

theorem nextId (a : Holding logs l mode file d₀ d) : d₀.nextId ≤ d.nextId := a.rest.nextId

theorem data (a : Holding logs l mode file d₀ d) {id : Nat} (hid : id < d₀.nextId)
    (hlog : ¬ IsLogFile logs d₀ id) : d.data? id = d₀.data? id := a.rest.data id hid hlog

/-- **The ways stay.** -/
theorem ways (a : Holding logs l mode file d₀ d) (hp : LogPlaces logs d₀) :
    KeepsWays d₀ d := by
  intro m e hw he
  have hcut := (a.rest.ways hp).keeps m e hw he
  exact (of_entryAt?_cut a.ne_nil hcut).2

/-- No link has come to a log place. -/
theorem noLinks (a : Holding logs l mode file d₀ d) (s : Sound d₀) (hp : LogPlaces logs d₀)
    (m : Location) (hm : m ∈ logs) (target : String) : d.entryAt? m ≠ some (.link target) := by
  intro he
  by_cases hl : l <+: m
  · rw [hp.not_below s a.fresh hm hl, a.directory] at he
    exact nomatch he
  · exact a.rest.noLinks hp m hm target ((entryAt?_cut_of_not_below hl).trans he)

/-- **The log places stay.** -/
theorem places (a : Holding logs l mode file d₀ d) (s : Sound d₀) (hp : LogPlaces logs d₀)
    (hdir : ∃ mode, d₀.entryAt? l.dropLast = some (.directory mode)) : LogPlaces logs d where
  noLinks := a.noLinks s hp
  inside m hm := by
    obtain ⟨mode', hd⟩ := hp.inside m hm
    exact ⟨mode', (a.ways hp).directory hd⟩
  below m hm n e he := by
    by_cases hl : l <+: m ++ [n]
    · rcases List.prefix_concat_iff.mp hl with rfl | hup
      · -- it is the new directory itself
        rw [List.dropLast_concat] at hdir
        obtain ⟨mode', hd⟩ := hdir
        exact ⟨mode', (a.ways hp).directory hd⟩
      · rw [hp.not_below s a.fresh hm hup]
        exact ⟨mode, a.directory⟩
    · obtain ⟨mode', hd⟩ := (a.rest.places hp).below m hm n e ((entryAt?_cut_of_not_below hl).trans he)
      exact ⟨mode', (of_entryAt?_cut a.ne_nil hd).2⟩

/-- What lies below the directory lies in it, and is its file. -/
theorem eq_child (a : Holding logs l mode file d₀ d) {m : Location} {e : Entry} (hp : l <+: m)
    (hm : m ≠ l) (he : d.entryAt? m = some e) :
    ∃ n id, file = some (n, id) ∧ m = l ++ [n] ∧ e = .file id := by
  rw [a.below m hp hm] at he
  rcases file with _ | ⟨n, id⟩
  · exact nomatch he
  · by_cases hf : m = l ++ [n]
    · rw [Option.bind_some, if_pos hf] at he
      exact ⟨n, id, rfl, hf, (Option.some.inj he).symm⟩
    · rw [Option.bind_some, if_neg hf] at he
      exact nomatch he

/-- What lies under the name of the file is the file. -/
theorem entryAt?_file {n : String} {id : Nat} (a : Holding logs l mode (some (n, id)) d₀ d) :
    d.entryAt? (l ++ [n]) = some (.file id) := by
  rw [a.below _ (List.prefix_append l [n]) (child_ne l n), Option.bind_some, if_pos rfl]

theorem sound {dir : Location} {name : String} (a : Holding logs (dir ++ [name]) mode file d₀ d)
    (s : Sound d₀) (hp : LogPlaces logs d₀)
    (hdir : ∃ mode, d₀.entryAt? dir = some (.directory mode)) : Sound d := by
  have hcut : Sound (d.cut (dir ++ [name])) := a.rest.sound s hp
  constructor
  · intro m n e he
    by_cases hl : dir ++ [name] <+: m ++ [n]
    · by_cases hm : m ++ [n] = dir ++ [name]
      · obtain ⟨mode', hd⟩ := hdir
        have hmd : m = dir := (List.append_inj' hm rfl).1
        exact ⟨mode', hmd ▸ (a.ways hp).directory hd⟩
      · obtain ⟨n', id, _, hf, _⟩ := a.eq_child hl hm he
        have hmd : m = dir ++ [name] := (List.append_inj' hf rfl).1
        exact ⟨mode, hmd ▸ a.directory⟩
    · obtain ⟨mode', hd⟩ := hcut.above m n e ((entryAt?_cut_of_not_below hl).trans he)
      exact ⟨mode', (of_entryAt?_cut a.ne_nil hd).2⟩
  · intro m id he
    by_cases hl : dir ++ [name] <+: m
    · by_cases hm : m = dir ++ [name]
      · rw [hm, a.directory] at he
        exact nomatch he
      · obtain ⟨n, id', hfile, _, hid⟩ := a.eq_child hl hm he
        cases hid
        exact (a.new _ hfile).2
    · exact hcut.numbered m id ((entryAt?_cut_of_not_below hl).trans he)

/-! ## Steps -/

/-- **What happens to log files** changes nothing of it. -/
theorem logged (a : Holding logs l mode file d₀ d) (s : Sound d₀) (hp : LogPlaces logs d₀)
    (b : LogsOnly logs d d') : Holding logs l mode file d₀ d' := by
  -- the directory may lie at a log place, but nothing in it does
  have hbelow : ∀ m, l <+: m → m ≠ l → m ∉ logs := fun m hl hm hlog =>
    hm (hp.not_below s a.fresh hlog hl)
  have hcut : LogsOnly logs (d.cut l) (d'.cut l) := {
    entries := fun m hm => by
      by_cases hl : l <+: m
      · rw [entryAt?_cut_below a.ne_nil hl, entryAt?_cut_below a.ne_nil hl]
      · rw [entryAt?_cut_of_not_below hl, entryAt?_cut_of_not_below hl, b.entries m hm]
    directories := fun m mode' => by
      by_cases hl : l <+: m
      · rw [entryAt?_cut_below a.ne_nil hl, entryAt?_cut_below a.ne_nil hl]
      · rw [entryAt?_cut_of_not_below hl, entryAt?_cut_of_not_below hl, b.directories m mode']
    moved := fun m hm e he => by
      obtain ⟨hl, he⟩ := of_entryAt?_cut a.ne_nil he
      rcases b.moved m hm e he with ⟨m', hm', he'⟩ | hnew
      · by_cases hl' : l <+: m'
        · -- it is a directory, and those stay where they are
          rw [hp.not_below s a.fresh hm' hl', a.directory] at he'
          cases he'
          refine .inl ⟨m, hm, ?_⟩
          rw [entryAt?_cut_of_not_below hl]
          exact (b.directories m mode).mp he
        · exact .inl ⟨m', hm', (entryAt?_cut_of_not_below hl').trans he'⟩
      · exact .inr hnew
    data := fun id hid hno => by
      refine b.data id hid fun hlog => hno ?_
      obtain ⟨m, hm, he⟩ := hlog
      refine ⟨m, hm, ?_⟩
      rw [entryAt?_cut_of_not_below, he]
      intro hl
      rw [hp.not_below s a.fresh hm hl, a.directory] at he
      exact nomatch he
    nextId := b.nextId }
  exact {
    fresh := a.fresh
    directory := (b.directories l mode).mpr a.directory
    below := fun m hl hm => (b.entries m (hbelow m hl hm)).trans (a.below m hl hm)
    rest := a.rest.trans hcut
    new := fun f hf => ⟨(a.new f hf).1, Nat.lt_of_lt_of_le (a.new f hf).2 b.nextId⟩
    apart := fun f hf hlog => by
      rcases b.isLogFile hlog with hold | ⟨hle, _⟩
      · exact a.apart f hf hold
      · exact absurd (a.new f hf).2 (Nat.not_lt.mpr hle) }

/-- **Another mode for the directory.** -/
theorem put (a : Holding logs l mode file d₀ d) (mode' : Nat) :
    Holding logs l mode' file d₀ (d.put l (.directory mode')) := by
  have hother : ∀ m, m ≠ l → (d.put l (.directory mode')).entryAt? m = d.entryAt? m := fun m hm =>
    entryAt?_put_of_ne d _ hm
  have hcut : LogsOnly logs (d.cut l) ((d.put l (.directory mode')).cut l) := by
    refine LogsOnly.of_entries ?_ (fun _ _ _ => rfl) (Nat.le_refl _)
    exact entryAt?_cut_congr a.ne_nil fun m hm => hother m fun h => hm (h ▸ List.prefix_refl m)
  exact {
    fresh := a.fresh
    directory := entryAt?_put_self d l _ a.ne_nil
    below := fun m hl hm => (hother m hm).trans (a.below m hl hm)
    rest := a.rest.trans hcut
    new := a.new
    apart := fun f hf hlog => by
      obtain ⟨m, hm, he⟩ := hlog
      by_cases hml : m = l
      · rw [hml, entryAt?_put_self d l _ a.ne_nil] at he
        exact nomatch he
      · rw [hother m hml] at he
        exact a.apart f hf ⟨m, hm, he⟩ }

/-- Changing the data of the file changes nothing else. -/
theorem setData {n : String} {id : Nat} (a : Holding logs l mode (some (n, id)) d₀ d) (f : FileData) :
    Holding logs l mode (some (n, id)) d₀ (d.setData id f) where
  fresh := a.fresh
  directory := a.directory
  below := a.below
  rest := {
    entries := a.rest.entries
    directories := a.rest.directories
    moved := a.rest.moved
    data := fun id' hid hlog => by
      have hlt : id' < id := Nat.lt_of_lt_of_le hid (a.new _ rfl).1
      exact (data?_setData_of_ne d f (Nat.ne_of_lt hlt)).trans (a.rest.data id' hid hlog)
    nextId := a.rest.nextId }
  new := a.new
  apart := a.apart

end Holding

/-! ## The operations of a staging -/

/-- **Making a directory** puts it at a place that was free. -/
theorem makeDir_ok {d d' : Disk} {cwd : Location} {path : String} {mode : Nat}
    (h : d.makeDir cwd path mode = .ok d') :
    ∃ dir name, d.walk cwd path .name = .ok (.free dir name) ∧
      d' = d.put (dir ++ [name]) (.directory mode) := by
  unfold makeDir at h
  rcases hw : d.walk cwd path .name with r | ⟨l, e⟩ | ⟨dir, name⟩
  · rw [hw] at h
    exact nomatch h
  · rw [hw] at h
    exact nomatch h
  · rw [hw] at h
    change (if d.mayChange dir then Except.ok (d.put _ _) else Except.error Refusal.denied) = _ at h
    by_cases hm : d.mayChange dir = true
    · rw [if_pos hm] at h
      exact ⟨dir, name, rfl, (Except.ok.inj h).symm⟩
    · rw [if_neg hm] at h
      exact nomatch h

/-- A new directory holds nothing. -/
theorem holding_of_makeDir {d d' : Disk} (s : Sound d) {cwd : Location} {path : String} {mode : Nat}
    (h : d.makeDir cwd path mode = .ok d') :
    ∃ dir name, d.walk cwd path .name = .ok (.free dir name) ∧
      ∀ logs, Holding logs (dir ++ [name]) mode none d d' := by
  obtain ⟨dir, name, hw, rfl⟩ := makeDir_ok h
  have hfree : d.entryAt? (dir ++ [name]) = none := (isFree_of_walk hw).absent
  have hne : dir ++ [name] ≠ [] := List.append_ne_nil_of_right_ne_nil _ (List.cons_ne_nil _ _)
  have hcut : ∀ m, ((d.put (dir ++ [name]) (.directory mode)).cut (dir ++ [name])).entryAt? m =
      d.entryAt? m := by
    intro m
    by_cases hl : dir ++ [name] <+: m
    · rw [entryAt?_cut_below hne hl, s.entryAt?_below hfree hl]
    · rw [entryAt?_cut_of_not_below hl]
      exact entryAt?_put_of_ne d _ fun h => hl (h ▸ List.prefix_refl m)
  refine ⟨dir, name, hw, fun logs => ?_⟩
  exact {
    fresh := hfree
    directory := entryAt?_put_self d _ _ hne
    below := fun m hp hm => (entryAt?_put_of_ne d _ hm).trans (s.entryAt?_below hfree hp)
    rest := LogsOnly.of_entries hcut (fun _ _ _ => rfl) (Nat.le_refl _)
    new := nofun
    apart := nofun }

theorem setMode_directory {d : Disk} {cwd : Location} {path : String} {l : Location} {m : Nat}
    (h : d.stat cwd path = .ok (l, .directory m)) (mode : Nat) :
    d.setMode cwd path mode = .ok (d.put l (.directory mode)) := by
  unfold setMode
  rw [h]
  rfl

theorem setMode_file {d : Disk} {cwd : Location} {path : String} {l : Location} {id : Nat}
    {f : FileData} (h : d.stat cwd path = .ok (l, .file id)) (hf : d.data? id = some f) (mode : Nat) :
    d.setMode cwd path mode = .ok (d.setData id { f with mode := mode }) := by
  simp only [setMode, h, hf, bind, Except.bind]
  rfl

theorem setMode_missing {d : Disk} {cwd : Location} {path : String} {l : Location} {id : Nat}
    (h : d.stat cwd path = .ok (l, .file id)) (hf : d.data? id = none) (mode : Nat) :
    d.setMode cwd path mode = .ok d := by
  simp only [setMode, h, hf, bind, Except.bind]
  rfl

/-- **Writing a new file** into the directory. -/
theorem Holding.write {logs : Set Location} {dir : Location} {name : String} {mode : Nat}
    {d₀ d d' : Disk} (a : Holding logs (dir ++ [name]) mode none d₀ d) (s : Sound d₀)
    (hp : LogPlaces logs d₀) (hdir : ∃ mode, d₀.entryAt? dir = some (.directory mode)) {fresh : Nat}
    {cwd : Location} {path text n : String}
    (hw : d.walk cwd path .newFile = .ok (.free (dir ++ [name]) n))
    (h : d.write fresh cwd path text = .ok d') :
    Holding logs (dir ++ [name]) mode (some (n, d.nextId)) d₀ d' ∧
      d'.data? d.nextId = some ⟨fresh, text⟩ := by
  let l := dir ++ [name]
  let opened : Disk := d.addFile (l ++ [n]) fresh
  have hd : d' = opened.setContent d.nextId text := by
    unfold Disk.write at h
    rcases ho : d.openForWriting fresh cwd path with r | ⟨o, e⟩ <;> rw [ho] at h
    · exact nomatch h
    · cases opens_of_ok ho with
      | file hw' _ => exact nomatch hw.symm.trans hw'
      | special hw' _ _ => exact nomatch hw.symm.trans hw'
      | new hw' _ =>
        cases hw.symm.trans hw'
        exact (Except.ok.inj h).symm
  -- The new file: it is the only entry that has come, and its number is the next one.
  have hnew : opened.data? d.nextId = some ⟨fresh, ""⟩ := data?_addFile_self d fresh _
  have hne : l ++ [n] ≠ [] := List.append_ne_nil_of_right_ne_nil _ (List.cons_ne_nil _ _)
  have hself : opened.entryAt? (l ++ [n]) = some (.file d.nextId) :=
    entryAt?_addFile_self d fresh hne
  have hother : ∀ m, m ≠ l ++ [n] → opened.entryAt? m = d.entryAt? m := fun m hm =>
    entryAt?_addFile_of_ne d fresh hm
  subst hd
  refine ⟨?_, data?_setContent_self hnew text⟩
  -- Without the directory nothing has changed, since all that has come lies below it.
  have hcut : LogsOnly logs (d.cut l) ((opened.setContent d.nextId text).cut l) := by
    refine LogsOnly.of_entries (entryAt?_cut_congr a.ne_nil fun m hm => ?_) (fun id hid _ => ?_) ?_
    · rw [entryAt?_setContent]
      exact hother m fun hf => hm (hf ▸ List.prefix_append l [n])
    · have hlt : id ≠ d.nextId := Nat.ne_of_lt hid
      exact (data?_setContent_of_ne opened text hlt).trans (data?_addFile_of_ne d fresh _ hlt)
    · show d.nextId ≤ (opened.setContent d.nextId text).nextId
      rw [nextId_setContent]
      exact Nat.le_succ _
  exact {
    fresh := a.fresh
    directory := by rw [entryAt?_setContent, hother l (child_ne l n).symm, a.directory]
    below := by
      intro m hl hm
      rw [entryAt?_setContent, Option.bind_some]
      by_cases hf : m = l ++ [n]
      · rw [if_pos hf, hf, hself]
      · rw [if_neg hf, hother m hf, a.below m hl hm]
        rfl
    rest := a.rest.trans hcut
    new := by
      rintro f hf
      cases hf
      rw [nextId_setContent]
      exact ⟨a.nextId, Nat.lt_succ_self _⟩
    apart := by
      rintro f hf ⟨m, hm, he⟩
      cases hf
      rw [entryAt?_setContent] at he
      by_cases hf : m = l ++ [n]
      · -- no log place lies in the directory
        have hml := hp.not_below s a.fresh hm (hf ▸ List.prefix_append l [n])
        exact child_ne l n (hf.symm.trans hml)
      · rw [hother m hf] at he
        exact Nat.lt_irrefl _ ((a.sound s hp hdir).numbered m _ he) }

end SecureStartup.Disk
