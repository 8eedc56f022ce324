import SecureStartup.Proofs.Disk.Growth
import SecureStartup.Proofs.Disk.Removal

/-!
  What writing a text does to a disk.

  Program: the end of a copy, when the target is opened and the bytes of the source are written to it
  (`shutil.copyfile`, the client's `download`).

  Opening a path for writing takes a file that is there, or makes one where nothing was; a special file
  may be written to as well, and keeps nothing.  So after a text was written,

  1. nothing is gone and log places are what they were (`Adds`),
  2. and either one file has the text, which the path leads to now, and all others have the bytes that
     they had (`Written`), or the path leads to a special file and the disk is what it was
     (`written_of_write`).
-/

namespace SecureStartup.Disk

/-- Every file has data: it is made with them, and they are never taken away. -/
def HasData (d : Disk) : Prop :=
  ∀ l id, d.entryAt? l = some (.file id) → ∃ f, d.data? id = some f

/-- A path leads to a special file. -/
def LeadsToSpecial (d : Disk) (cwd : Location) (path : String) : Prop :=
  ∃ l s, d.stat cwd path = .ok (l, .special s)

/-- **The places of a path**, for who reads, writes or removes there: where its name is, what it leads
    to, and where a file would be made. -/
def placesOf (d : Disk) (cwd : Location) (path : String) : Set Location :=
  fun l => (∃ e, d.stat cwd path = .ok (l, e) ∨ d.lstat cwd path = .ok (l, e)) ∨
    ∃ dir name, d.walk cwd path .newFile = .ok (.free dir name) ∧ l = dir ++ [name]

/-- **A disk to which a file was added**, at most. -/
structure Adds (d d' : Disk) : Prop where
  grows : Extends d d'
  nextId : d.nextId ≤ d'.nextId
  logPlaces : ∀ logs, LogPlaces logs d → LogPlaces logs d'
  /-- Files from before have no new names. -/
  names : ∀ l id, id < d.nextId → d'.entryAt? l = some (.file id) → d.entryAt? l = some (.file id)

theorem Adds.refl (d : Disk) : Adds d d where
  grows := Extends.refl d
  nextId := Nat.le_refl _
  logPlaces _ := id
  names _ _ _ := id

/-- **A disk after a text was written** to a path: the file with this number has the text. -/
structure Written (d : Disk) (cwd : Location) (path text : String) (id : Nat) (d' : Disk) : Prop
    extends Adds d d' where
  numbered : id < d'.nextId
  leads : ∃ l ∈ d.placesOf cwd path, d'.stat cwd path = .ok (l, .file id)
  /-- A new file has the name that it was made under, and no other. -/
  newName : d.nextId ≤ id → ∀ l, d'.entryAt? l = some (.file id) → l ∈ d.placesOf cwd path
  content : ∃ f, d'.data? id = some f ∧ f.content = text
  others : ∀ id', id' ≠ id → d'.data? id' = d.data? id'
  /-- The path led to the file before, or the file is new. -/
  found : (∃ l, d.stat cwd path = .ok (l, .file id)) ∨ id = d.nextId

section Writing

variable {d d' : Disk} {fresh : Nat} {cwd l : Location} {path text : String}

theorem numbered_of_stat (hs : d.Sound) {id : Nat} (h : d.stat cwd path = .ok (l, .file id)) :
    id < d.nextId :=
  hs.numbered l id (travels_of_stat h).1

/-- Other bytes change no entry. -/
theorem Adds.setContent (a : Adds d d') (id : Nat) (text : String) :
    Adds d (d'.setContent id text) where
  grows m e hm := by
    rw [entryAt?_setContent]
    exact a.grows m e hm
  nextId := by
    rw [nextId_setContent]
    exact a.nextId
  logPlaces logs hp := (a.logPlaces logs hp).of_entries fun m => entryAt?_setContent ..
  names m id' hid he := by
    rw [entryAt?_setContent] at he
    exact a.names m id' hid he

/-- A file where nothing was. -/
theorem adds_addFile {dir : Location} {name : String}
    (hw : d.walk cwd path .newFile = .ok (.free dir name)) (hmay : d.mayChange dir = true) :
    Adds d (d.addFile (dir ++ [name]) fresh) where
  grows := extends_addFile d fresh (isFree_of_walk hw).absent
  nextId := Nat.le_succ _
  logPlaces logs hp := hp.opens (.new hw hmay)
  names m id hid he := by
    by_cases hm : m = dir ++ [name]
    · have hne : dir ++ [name] ≠ [] := List.append_ne_nil_of_right_ne_nil _ (List.cons_ne_nil _ _)
      rw [hm, entryAt?_addFile_self d fresh hne] at he
      cases he
      exact absurd hid (Nat.lt_irrefl _)
    · exact (entryAt?_addFile_of_ne d fresh hm).symm.trans he

/-- **What writing a text does**: a file has it then, or a special file has swallowed it. -/
theorem written_of_write (hs : d.Sound) (hd : d.HasData) (h : d.write fresh cwd path text = .ok d') :
    (∃ id, Written d cwd path text id d') ∨ d.LeadsToSpecial cwd path ∧ d' = d := by
  unfold write at h
  rcases ho : d.openForWriting fresh cwd path with r | ⟨o, e⟩ <;> rw [ho] at h
  · exact nomatch h
  have hopen := opens_of_ok ho
  rcases fill_ok (d := e) h with ⟨id, rfl, rfl⟩ | ⟨s, rfl, rfl⟩
  · refine .inl ⟨id, ?_⟩
    cases hopen with
    -- a file that was there: only its bytes are new
    | @file m _ hw _ =>
      have hstat := stat_of_walk_newFile hw
      obtain ⟨f, hf⟩ := hd m id (travels_of_stat hstat).1
      exact {
        toAdds := (Adds.refl d).setContent id text
        numbered := (nextId_setContent d id text).symm ▸ numbered_of_stat hs hstat
        leads := ⟨m, .inl ⟨_, .inl hstat⟩, stat_setContent text hstat⟩
        newName := fun hid => absurd (numbered_of_stat hs hstat) (Nat.not_lt.mpr hid)
        content := ⟨_, data?_setContent_self hf text, rfl⟩
        others := fun id' h' => data?_setContent_of_ne d text h'
        found := .inl ⟨m, hstat⟩ }
    -- a file that was made: its number is new, so it stands under no other name
    | @new dir name hw hmay =>
      have hadds : Adds d (d.addFile (dir ++ [name]) fresh) := adds_addFile hw hmay
      have hne : dir ++ [name] ≠ [] := List.append_ne_nil_of_right_ne_nil _ (List.cons_ne_nil _ _)
      have hstat := stat_newFile hw hadds.grows.ways (entryAt?_addFile_self d fresh hne)
      have hplace : dir ++ [name] ∈ d.placesOf cwd path := .inr ⟨dir, name, hw, rfl⟩
      exact {
        toAdds := hadds.setContent d.nextId text
        numbered := (nextId_setContent ..).symm ▸ Nat.lt_succ_self _
        leads := ⟨_, hplace, stat_setContent text hstat⟩
        newName := fun _ m hm => by
          rw [entryAt?_setContent] at hm
          by_cases hml : m = dir ++ [name]
          · exact hml ▸ hplace
          · rw [entryAt?_addFile_of_ne d fresh hml] at hm
            exact absurd (hs.numbered m _ hm) (Nat.lt_irrefl _)
        content := ⟨_, data?_setContent_self (data?_addFile_self d fresh _) text, rfl⟩
        others := fun id' h' =>
          (data?_setContent_of_ne _ text h').trans (data?_addFile_of_ne d fresh _ h')
        found := .inr rfl }
  · cases hopen with
    | special hw _ _ => exact .inr ⟨⟨_, s, stat_of_walk_newFile hw⟩, rfl⟩

/-! ## Removing a name -/

/-- **Removing the name of a leaf** leaves a path to another file where it leads, and changes nothing
    if it is refused. -/
theorem stat_unlink {source : String} {leaf : Entry} {m : Location} {id : Nat} (hleaf : IsLeaf leaf)
    (hsource : d.stat cwd source = .ok (m, leaf)) (hne : .file id ≠ leaf)
    (hu : d.unlink cwd source = .ok d') (hstat : d.stat cwd path = .ok (l, .file id)) :
    d'.stat cwd path = .ok (l, .file id) := by
  obtain ⟨n, e, hname, _, rfl⟩ := unlink_ok hu
  exact stat_drop hleaf (standsFor_of_lstat hname hsource) hne hstat

/-- No data go with a name. -/
theorem data?_unlink {source : String} (hu : d.unlink cwd source = .ok d') (id : Nat) :
    d'.data? id = d.data? id := by
  obtain ⟨n, e, _, _, rfl⟩ := unlink_ok hu
  rfl

end Writing

end SecureStartup.Disk
