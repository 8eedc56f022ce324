import SecureStartup.Proofs.Disk.Walk

/-!
  What operations on files do to a disk.

  Program: `open` for writing, as `shutil.copyfile` and the client of a WebHDFS store do it, `Path.unlink`,
  and the handlers of the log.  Each operation is described once, by what it leaves at every location and
  of every file:

  1. Data is set for one number (`data?_setData_of_ne`, `data?_setContent_self`), and entries do not
     depend on it.
  2. A new file (`addFile`) takes a free location and the next number; a name that is removed (`drop`)
     leaves nothing behind.
  3. `Opens` is all that opening a path for writing can do, `fill_ok` all that writing to it can do.  A
     special file can be opened, too: nothing is made then, and what is written to it goes nowhere.
  4. What is read is the bytes of a file, or what a special file gives (`readOut_ok`).
-/

namespace SecureStartup.Disk

/-! ## The data of files -/

/-- The data of other files stays. -/
theorem data?_setData_of_ne (d : Disk) {id id' : Nat} (f : FileData) (h : id' ≠ id) :
    (d.setData id f).data? id' = d.data? id' := by
  have hb : (id == id') = false := beq_eq_false_iff_ne.mpr (Ne.symm h)
  show (List.find? _ ((id, f) :: d.files.filter _)).map _ = (d.files.find? _).map _
  rw [List.find?_cons, hb]
  have hfind : ∀ fs : List (Nat × FileData),
      (fs.filter fun x => x.1 != id).find? (fun x => x.1 == id') = fs.find? fun x => x.1 == id' := by
    intro fs
    rw [List.find?_filter]
    congr 1
    funext x
    by_cases hx : x.1 = id'
    · rw [hx, bne_iff_ne.mpr h, beq_self_eq_true]
      rfl
    · rw [beq_eq_false_iff_ne.mpr hx, decide_eq_false (by simp)]
  rw [hfind]

/-- Replacing the content of a file leaves entries and other files alone. -/
theorem entryAt?_setContent (d : Disk) (id : Nat) (content : String) (l : Location) :
    (d.setContent id content).entryAt? l = d.entryAt? l := by
  unfold setContent
  split <;> rfl

theorem nextId_setContent (d : Disk) (id : Nat) (content : String) :
    (d.setContent id content).nextId = d.nextId := by
  unfold setContent
  split <;> rfl

theorem data?_setContent_of_ne (d : Disk) {id id' : Nat} (content : String) (h : id' ≠ id) :
    (d.setContent id content).data? id' = d.data? id' := by
  unfold setContent
  split
  · exact data?_setData_of_ne d _ h
  · rfl

theorem data?_setContent_self {d : Disk} {id : Nat} {f : FileData} (h : d.data? id = some f)
    (content : String) : (d.setContent id content).data? id = some { f with content := content } := by
  unfold setContent
  rw [h]
  exact data?_setData_self d id _

/-! ## New files, and names that are removed -/

section Names

variable (d : Disk) {l m : Location} (mode : Nat)

theorem entryAt?_addFile_self (hl : l ≠ []) :
    (d.addFile l mode).entryAt? l = some (.file d.nextId) :=
  entryAt?_put_self (d.setData d.nextId ⟨mode, ""⟩) l _ hl

theorem entryAt?_addFile_of_ne (h : m ≠ l) : (d.addFile l mode).entryAt? m = d.entryAt? m :=
  entryAt?_put_of_ne (d.setData d.nextId ⟨mode, ""⟩) _ h

theorem data?_addFile_self (l : Location) : (d.addFile l mode).data? d.nextId = some ⟨mode, ""⟩ :=
  data?_setData_self d _ _

theorem data?_addFile_of_ne (l : Location) {id : Nat} (h : id ≠ d.nextId) :
    (d.addFile l mode).data? id = d.data? id := data?_setData_of_ne d _ h

/-- A file at a free location hides nothing. -/
theorem extends_addFile (h : d.entryAt? l = none) : Extends d (d.addFile l mode) := by
  intro m e hm
  by_cases hml : m = l
  · rw [hml, h] at hm
    exact nomatch hm
  · exact (entryAt?_addFile_of_ne d mode hml).trans hm

theorem entryAt?_drop_self (hl : l ≠ []) : (d.drop l).entryAt? l = none := by
  have hempty : l.isEmpty = false := List.isEmpty_eq_false_iff.mpr hl
  have hnone : (d.entries.filter fun x => x.1 != l).find? (fun e => e.1 == l) = none := by
    rw [List.find?_eq_none]
    intro x hx
    have hne : x.1 ≠ l := bne_iff_ne.mp (List.mem_filter.mp hx).2
    rw [beq_eq_false_iff_ne.mpr hne]
    exact Bool.false_ne_true
  unfold entryAt? drop
  rw [hempty, hnone]
  rfl

theorem entryAt?_drop_of_ne (h : m ≠ l) : (d.drop l).entryAt? m = d.entryAt? m := by
  unfold entryAt? drop
  split
  · rfl
  · rw [find?_filter_ne _ h]

end Names

/-! ## Opening for writing -/

/-- **What opening a path for writing can do**: the path leads to a file or a special file that may be
    written, or to a free place, where a file is made. -/
inductive Opens (d : Disk) (fresh : Nat) (cwd : Location) (path : String) : Opened → Disk → Prop
  | file {l : Location} {id : Nat} :
      d.walk cwd path .newFile = .ok (.found l (.file id)) →
      mayWrite (d.modeOf (.file id)) = true → Opens d fresh cwd path (.file id) d
  | special {l : Location} {s : Special} :
      d.walk cwd path .newFile = .ok (.found l (.special s)) → mayWrite s.mode = true →
      s.closed = none → Opens d fresh cwd path (.special s) d
  | new {dir : Location} {name : String} :
      d.walk cwd path .newFile = .ok (.free dir name) → d.mayChange dir = true →
      Opens d fresh cwd path (.file d.nextId) (d.addFile (dir ++ [name]) fresh)

section Opening

variable {d e : Disk} {fresh : Nat} {cwd : Location} {path text : String} {o : Opened}

/-- **Opening does nothing else.** -/
theorem opens_of_ok (h : d.openForWriting fresh cwd path = .ok (o, e)) :
    Opens d fresh cwd path o e := by
  unfold openForWriting at h
  -- By what the walk ends at; of these a file, a special file and a free place can be opened.
  rcases hw : d.walk cwd path .newFile with r | ⟨l, m | id | target | s⟩ | ⟨dir, name⟩ <;> rw [hw] at h
  · exact nomatch h
  · exact nomatch h
  · change (if mayWrite (d.modeOf (.file id)) then _ else _) = _ at h
    by_cases hm : mayWrite (d.modeOf (.file id)) = true
    · rw [if_pos hm] at h
      cases h
      exact .file hw hm
    · rw [if_neg hm] at h
      exact nomatch h
  · exact nomatch h
  · by_cases hm : mayWrite s.mode = true
    · rcases hc : s.closed with _ | r
      · simp only [bind, Except.bind, hm, hc] at h
        cases h
        exact .special hw hm hc
      · simp only [bind, Except.bind, hm, hc] at h
        exact nomatch h
    · simp only [bind, Except.bind, Bool.eq_false_iff.mpr hm] at h
      exact nomatch h
  · change (if d.mayChange dir then _ else _) = _ at h
    by_cases hm : d.mayChange dir = true
    · rw [if_pos hm] at h
      cases h
      exact .new hw hm
    · rw [if_neg hm] at h
      exact nomatch h

/-- Opening a file that is there. -/
theorem openForWriting_found {l : Location} {id : Nat}
    (hw : d.walk cwd path .newFile = .ok (.found l (.file id))) :
    d.openForWriting fresh cwd path =
      if mayWrite (d.modeOf (.file id)) then .ok (.file id, d) else .error .denied := by
  unfold openForWriting
  rw [hw]
  rfl

/-- **Writing to what was opened** gives a file other bytes, or does nothing to the disk. -/
theorem fill_ok (h : d.fill o text = .ok e) :
    (∃ id, o = .file id ∧ e = d.setContent id text) ∨ ∃ s, o = .special s ∧ e = d := by
  cases o with
  | file id => exact .inl ⟨id, rfl, (Except.ok.inj h).symm⟩
  | special s =>
    refine .inr ⟨s, rfl, ?_⟩
    unfold fill at h
    simp only at h
    split at h
    · split at h
      · exact (Except.ok.inj h).symm
      · exact nomatch h
    · exact (Except.ok.inj h).symm

namespace Opens

/-- What was there is there still. -/
theorem grows (h : Opens d fresh cwd path o e) : Extends d e := by
  cases h with
  | file _ _ => exact Extends.refl d
  | special _ _ _ => exact Extends.refl d
  | new hw _ => exact extends_addFile d fresh (isFree_of_walk hw).absent

/-- **A file that was opened** is what the path leads to. -/
theorem stat {id : Nat} (h : Opens d fresh cwd path (.file id) e) :
    ∃ l, e.stat cwd path = .ok (l, .file id) := by
  cases h with
  | file hw _ => exact ⟨_, stat_of_walk_newFile hw⟩
  | @new dir name hw _ =>
    have hx : Extends d (d.addFile (dir ++ [name]) fresh) :=
      extends_addFile d fresh (isFree_of_walk hw).absent
    have hne : dir ++ [name] ≠ [] := List.append_ne_nil_of_right_ne_nil _ (List.cons_ne_nil _ _)
    exact ⟨_, stat_newFile hw hx.ways (entryAt?_addFile_self d fresh hne)⟩

end Opens

/-- What is read at an entry that may be read: the bytes of a file, or what a special file gives. -/
def contentAt (d : Disk) : Entry → Except Refusal (String × Option Refusal)
  | .file id => .ok (((d.data? id).map (·.content)).getD "", none)
  | .special s =>
    match s.closed with
    | some r => .error r
    | none => .ok (s.gives, s.breaks)
  | .directory _ | .link _ => .error .isDirectory

/-- Reading where a path leads. -/
theorem readOut_of_stat {l : Location} {entry : Entry} (hs : d.stat cwd path = .ok (l, entry)) :
    d.readOut cwd path =
      if mayRead (d.modeOf entry) = true then d.contentAt entry else .error .denied := by
  unfold readOut
  rw [hs]
  by_cases hr : mayRead (d.modeOf entry) = true
  · simp only [bind, Except.bind, hr, Bool.not_true, Bool.false_eq_true, if_false, if_true]
    cases entry with
    | special s =>
      unfold contentAt
      rcases hc : s.closed with _ | r <;> simp only [hc] <;> rfl
    | directory mode | file id | link target => rfl
  · rw [if_neg hr]
    simp only [bind, Except.bind, Bool.eq_false_iff.mpr hr, Bool.not_false, if_true]
    rfl

/-- **What was read** is the content of a file, or what a special file gives. -/
theorem readOut_ok {ends : Option Refusal} (h : d.readOut cwd path = .ok (text, ends)) :
    ∃ l, (∃ id, d.stat cwd path = .ok (l, .file id) ∧ ends = none ∧
        text = ((d.data? id).map (·.content)).getD "") ∨
      ∃ s, d.stat cwd path = .ok (l, .special s) ∧ s.closed = none ∧ ends = s.breaks ∧
        text = s.gives := by
  unfold readOut at h
  rcases hs : d.stat cwd path with r | ⟨l, entry⟩ <;> rw [hs] at h
  · exact nomatch h
  refine ⟨l, ?_⟩
  by_cases hr : mayRead (d.modeOf entry) = true
  · simp only [bind, Except.bind, hr, Bool.not_true, Bool.false_eq_true, if_false] at h
    cases entry with
    | directory mode => exact nomatch h
    | link target => exact nomatch h
    | file id =>
      cases h
      exact .inl ⟨id, rfl, rfl, rfl⟩
    | special s =>
      rcases hc : s.closed with _ | r
      · simp only [hc] at h
        cases h
        exact .inr ⟨s, rfl, hc, rfl, rfl⟩
      · simp only [hc] at h
        exact nomatch h
  · simp only [bind, Except.bind, Bool.eq_false_iff.mpr hr, Bool.not_false, if_true] at h
    exact nomatch h

/-- What was read to the end is what a file holds, for who reads it whole. -/
theorem read_of_readOut (h : d.readOut cwd path = .ok (text, none)) : d.read cwd path = .ok text := by
  unfold Disk.read
  rw [h]
  rfl

/-- The bytes of a file that may be read. -/
theorem readOut_file {l : Location} {id : Nat} {f : FileData} (hs : d.stat cwd path = .ok (l, .file id))
    (hf : d.data? id = some f) (hm : mayRead f.mode = true) :
    d.readOut cwd path = .ok (f.content, none) := by
  have hmode : mayRead (d.modeOf (.file id)) = true := by
    simp only [modeOf, hf]
    exact hm
  have hcontent : d.contentAt (.file id) = .ok (f.content, none) := by
    simp only [contentAt, hf]
    rfl
  rw [readOut_of_stat hs, if_pos hmode, hcontent]

/-! ## Where a path leads -/

/-- New bytes do not change where a path leads. -/
theorem stat_setContent (text : String) {l : Location} {id : Nat}
    (h : e.stat cwd path = .ok (l, .file id)) :
    (e.setContent id text).stat cwd path = .ok (l, .file id) := by
  refine stat_extends (fun m entry hm => ?_) h
  rw [entryAt?_setContent, hm]

end Opening

end SecureStartup.Disk
