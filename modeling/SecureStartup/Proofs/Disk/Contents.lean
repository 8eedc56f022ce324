import SecureStartup.Proofs.Disk.Entries
import SecureStartup.Proofs.Disk.Growth

/-!
  Disks that differ in the bytes of some files.

  `SameBut secret d d'` says that two disks have the same entries, the same modes and, but for the
  files in `secret`, the same bytes.  It is what two runs have in common that differ in the bytes of a
  keytab.

  1. **No operation can tell** — an operation on a path ends alike on both (`Agree`), and what it leaves
     are such disks again.  There is one lemma for each operation of the disk, and each follows from
     walks looking at entries alone (`SameEntries`).

  2. **Reading is the exception** — bytes come out in one way only, by reading a file, and then they are
     those of one file on both disks (`readOut`).

  3. **Writing what was read** — when two different texts are then written to one path, the file there
     becomes one more that the disks may differ in (`SameBut.write`).
-/

namespace SecureStartup

/-- **Two results agree**: they are one failure, or two values that are related. -/
def Agree {α β ε : Type} (rel : α → β → Prop) (r : Except ε α) (r' : Except ε β) : Prop :=
  (∃ e, r = .error e ∧ r' = .error e) ∨ ∃ a b, r = .ok a ∧ r' = .ok b ∧ rel a b

namespace Agree

variable {α β ε : Type} {rel rel' : α → β → Prop} {r : Except ε α} {r' : Except ε β}

theorem error (e : ε) : Agree rel (.error e : Except ε α) (.error e) := .inl ⟨e, rfl, rfl⟩

theorem ok {a : α} {b : β} (h : rel a b) : Agree rel (.ok a : Except ε α) (.ok b) :=
  .inr ⟨a, b, rfl, rfl, h⟩

theorem mono (h : Agree rel r r') (hrel : ∀ a b, rel a b → rel' a b) : Agree rel' r r' := by
  rcases h with he | ⟨a, b, ha, hb, hab⟩
  · exact .inl he
  · exact .inr ⟨a, b, ha, hb, hrel a b hab⟩

/-- Related values are those of the results. -/
theorem with_run (h : Agree rel r r') :
    Agree (fun a b => r = .ok a ∧ r' = .ok b ∧ rel a b) r r' := by
  rcases h with he | ⟨a, b, ha, hb, hab⟩
  · exact .inl he
  · exact .inr ⟨a, b, ha, hb, ha, hb, hab⟩

theorem of_eq {r r' : Except ε α} (h : r = r') : Agree Eq r r' := by
  cases h
  rcases r with e | a
  · exact error e
  · exact ok rfl

/-- What is made of related values. -/
theorem bind {γ δ : Type} {rel' : γ → δ → Prop} {k : α → Except ε γ} {l : β → Except ε δ}
    (h : Agree rel r r') (hk : ∀ a b, rel a b → Agree rel' (k a) (l b)) :
    Agree rel' (r >>= k) (r' >>= l) := by
  rcases h with ⟨e, rfl, rfl⟩ | ⟨a, b, rfl, rfl, hab⟩
  · exact error e
  · exact hk a b hab

end Agree

namespace Disk

/-- **The same disk but for the bytes of some files.** -/
structure SameBut (secret : List Nat) (d d' : Disk) : Prop where
  entries : d'.entries = d.entries
  nextId : d'.nextId = d.nextId
  modes : ∀ id, (d'.data? id).map (·.mode) = (d.data? id).map (·.mode)
  data : ∀ id, id ∉ secret → d'.data? id = d.data? id

namespace SameBut

variable {secret : List Nat} {d d' : Disk}

theorem refl (secret : List Nat) (d : Disk) : SameBut secret d d :=
  ⟨rfl, rfl, fun _ => rfl, fun _ _ => rfl⟩

/-- The disks may differ in one file more. -/
theorem add (a : SameBut secret d d') (id : Nat) : SameBut (id :: secret) d d' where
  entries := a.entries
  nextId := a.nextId
  modes := a.modes
  data id' h := a.data id' fun hmem => h (List.mem_cons_of_mem id hmem)

theorem sameEntries (a : SameBut secret d d') : SameEntries d d' := by
  intro l
  unfold entryAt?
  rw [a.entries]

theorem modeOf (a : SameBut secret d d') (e : Entry) : d'.modeOf e = d.modeOf e := by
  cases e with
  | file id =>
    show ((d'.data? id).map (·.mode)).getD 0 = ((d.data? id).map (·.mode)).getD 0
    rw [a.modes]
  | directory m | link target | special s => rfl

/-- A file has data on both disks or on none, with one mode. -/
theorem data_cases (a : SameBut secret d d') (id : Nat) :
    (d.data? id = none ∧ d'.data? id = none) ∨
      ∃ f f', d.data? id = some f ∧ d'.data? id = some f' ∧ f'.mode = f.mode ∧
        (id ∉ secret → f' = f) := by
  have hmodes := a.modes id
  rcases hf : d.data? id with _ | f <;> rcases hf' : d'.data? id with _ | f' <;>
    rw [hf, hf'] at hmodes
  · exact .inl ⟨rfl, rfl⟩
  · exact nomatch hmodes
  · exact nomatch hmodes
  · refine .inr ⟨f, f', rfl, rfl, Option.some.inj hmodes, fun hid => ?_⟩
    exact Option.some.inj (hf'.symm.trans ((a.data id hid).trans hf))

/-! ## Changing both -/

theorem put (a : SameBut secret d d') (l : Location) (e : Entry) :
    SameBut secret (d.put l e) (d'.put l e) where
  entries := by
    show (l, e) :: d'.entries.filter _ = (l, e) :: d.entries.filter _
    rw [a.entries]
  nextId := a.nextId
  modes := a.modes
  data := a.data

theorem drop (a : SameBut secret d d') (l : Location) : SameBut secret (d.drop l) (d'.drop l) where
  entries := by
    show d'.entries.filter _ = d.entries.filter _
    rw [a.entries]
  nextId := a.nextId
  modes := a.modes
  data := a.data

theorem setData (a : SameBut secret d d') {id : Nat} {f f' : FileData} (hmode : f'.mode = f.mode)
    (hdata : id ∉ secret → f' = f) : SameBut secret (d.setData id f) (d'.setData id f') where
  entries := a.entries
  nextId := a.nextId
  modes id' := by
    by_cases h : id' = id
    · rw [h, data?_setData_self, data?_setData_self, Option.map_some, Option.map_some, hmode]
    · rw [data?_setData_of_ne d' f' h, data?_setData_of_ne d f h, a.modes]
  data id' hid := by
    by_cases h : id' = id
    · subst h
      rw [data?_setData_self, data?_setData_self, hdata hid]
    · rw [data?_setData_of_ne d' f' h, data?_setData_of_ne d f h, a.data id' hid]

/-- New bytes for a file: the same for both, or for a secret one. -/
theorem setContent (a : SameBut secret d d') {id : Nat} {text text' : String}
    (h : id ∉ secret → text' = text) :
    SameBut secret (d.setContent id text) (d'.setContent id text') := by
  unfold Disk.setContent
  rcases a.data_cases id with ⟨hf, hf'⟩ | ⟨f, f', hf, hf', hmode, hdata⟩
  · rw [hf, hf']
    exact a
  · rw [hf, hf']
    refine a.setData hmode fun hid => ?_
    rw [hdata hid, h hid]

/-- A disk with other bytes in one file. -/
theorem of_setContent (d : Disk) (id : Nat) (text : String) :
    SameBut [id] d (d.setContent id text) := by
  unfold Disk.setContent
  rcases hf : d.data? id with _ | f
  · exact SameBut.refl [id] d
  · refine ⟨rfl, rfl, fun id' => ?_, fun id' hid => ?_⟩
    · by_cases h : id' = id
      · rw [h, data?_setData_self, hf]
        rfl
      · rw [data?_setData_of_ne d _ h]
    · exact data?_setData_of_ne d _ fun h => hid (List.mem_singleton.mpr h)

/-! ## Operations on a path -/

section Paths

variable (a : SameBut secret d d') (cwd : Location) (path : String)

include a

theorem makeDir (mode : Nat) :
    Agree (SameBut secret) (d.makeDir cwd path mode) (d'.makeDir cwd path mode) := by
  unfold Disk.makeDir
  rw [a.sameEntries.walk cwd path .name]
  rcases d.walk cwd path .name with r | ⟨l, e⟩ | ⟨dir, name⟩
  · exact .error r
  · exact .error Refusal.exists
  · show Agree _ (if d.mayChange dir then _ else _) (if d'.mayChange dir then _ else _)
    rw [a.sameEntries.mayChange dir]
    split
    · exact .ok (a.put _ _)
    · exact .error Refusal.denied

theorem setMode (mode : Nat) :
    Agree (SameBut secret) (d.setMode cwd path mode) (d'.setMode cwd path mode) := by
  have hsame := a.sameEntries.stat cwd path
  rcases hstat : d.stat cwd path with r | ⟨l, m | id | target | s⟩ <;> rw [hstat] at hsame
  · unfold Disk.setMode
    rw [hstat, hsame]
    exact .error r
  · rw [setMode_directory hstat, setMode_directory hsame]
    exact .ok (a.put l _)
  · rcases a.data_cases id with ⟨hf, hf'⟩ | ⟨f, f', hf, hf', hmode, hdata⟩
    · rw [setMode_missing hstat hf, setMode_missing hsame hf']
      exact .ok a
    · rw [setMode_file hstat hf, setMode_file hsame hf']
      exact .ok (a.setData rfl fun hid => by rw [hdata hid])
  · unfold Disk.setMode
    rw [hstat, hsame]
    exact .ok a
  · unfold Disk.setMode
    rw [hstat, hsame]
    exact .ok (a.put l _)

/-- A file can be read on both disks or on none, and to the same end. -/
theorem readOut : Agree (fun t t' => t'.2 = t.2) (d.readOut cwd path) (d'.readOut cwd path) := by
  unfold Disk.readOut
  rw [a.sameEntries.stat cwd path]
  rcases d.stat cwd path with r | ⟨l, e⟩
  · exact .error r
  · show Agree _ (if !mayRead (d.modeOf e) then _ else _) (if !mayRead (d'.modeOf e) then _ else _)
    rw [a.modeOf e]
    split
    · exact .error Refusal.denied
    · cases e with
      | file id => exact .ok rfl
      | special s =>
        simp only
        split
        · exact .error _
        · exact .ok rfl
      | directory m | link target => exact .error Refusal.isDirectory

theorem addFile (l : Location) (mode : Nat) :
    SameBut secret (d.addFile l mode) (d'.addFile l mode) := by
  have hfile : SameBut secret (d.setData d.nextId ⟨mode, ""⟩) (d'.setData d.nextId ⟨mode, ""⟩) :=
    a.setData rfl fun _ => rfl
  have hnew := hfile.put l (.file d.nextId)
  unfold Disk.addFile
  rw [a.nextId]
  exact ⟨hnew.entries, rfl, hnew.modes, hnew.data⟩

theorem openForWriting (fresh : Nat) :
    Agree (fun o o' => o'.1 = o.1 ∧ SameBut secret o.2 o'.2) (d.openForWriting fresh cwd path)
      (d'.openForWriting fresh cwd path) := by
  unfold Disk.openForWriting
  rw [a.sameEntries.walk cwd path .newFile]
  rcases d.walk cwd path .newFile with r | ⟨l, m | id | target | s⟩ | ⟨dir, name⟩
  · exact .error r
  · exact .error Refusal.isDirectory
  · show Agree _ (if mayWrite (d.modeOf (.file id)) then _ else _)
      (if mayWrite (d'.modeOf (.file id)) then _ else _)
    rw [a.modeOf]
    split
    · exact .ok ⟨rfl, a⟩
    · exact .error Refusal.denied
  · exact .error Refusal.isDirectory
  · show Agree _ (if !mayWrite s.mode then _ else _) (if !mayWrite s.mode then _ else _)
    split
    · exact .error Refusal.denied
    · rcases hc : s.closed with _ | r
      · exact .ok ⟨rfl, a⟩
      · exact .error r
  · show Agree _ (if d.mayChange dir then _ else _) (if d'.mayChange dir then _ else _)
    rw [a.sameEntries.mayChange dir]
    split
    · exact .ok ⟨congrArg Opened.file a.nextId, a.addFile _ fresh⟩
    · exact .error Refusal.denied

/-- **One text** to what was opened. -/
theorem fill (o : Opened) (text : String) :
    Agree (SameBut secret) (d.fill o text) (d'.fill o text) := by
  cases o with
  | file id => exact .ok (a.setContent fun _ => rfl)
  | special s =>
    unfold Disk.fill
    simp only
    split
    · split
      · exact .ok a
      · exact .error _
    · exact .ok a

/-- The same line at the end of a file. -/
theorem append (fresh : Nat) (text : String) :
    Agree (SameBut secret) (d.append fresh cwd path text) (d'.append fresh cwd path text) := by
  unfold Disk.append
  refine (a.openForWriting cwd path fresh).bind ?_
  rintro ⟨o, e⟩ ⟨o', e'⟩ ⟨ho, hopen⟩
  obtain rfl : o' = o := ho
  cases o' with
  | special s => exact hopen.fill (.special s) _
  | file id =>
    refine .ok (hopen.setContent fun hid => ?_)
    show ((e'.data? id).map (·.content)).getD "" ++ text =
      ((e.data? id).map (·.content)).getD "" ++ text
    rw [hopen.data id hid]

end Paths

end SameBut

/-! ## Two texts -/

/-- A new mode for a file changes no entry. -/
theorem entryAt?_setMode_file {d e : Disk} {cwd l : Location} {path : String} {id mode : Nat}
    (h : d.stat cwd path = .ok (l, .file id)) (hd : d.setMode cwd path mode = .ok e) (m : Location) :
    e.entryAt? m = d.entryAt? m := by
  rcases hf : d.data? id with _ | f
  · rw [setMode_missing h hf] at hd
    cases hd
    rfl
  · rw [setMode_file h hf] at hd
    cases hd
    rfl

/-- So it does not change where its path leads. -/
theorem stat_setMode {d e : Disk} {cwd l : Location} {path : String} {id mode : Nat}
    (h : d.stat cwd path = .ok (l, .file id)) (hd : d.setMode cwd path mode = .ok e) :
    e.stat cwd path = .ok (l, .file id) :=
  stat_extends (fun m _ hm => (entryAt?_setMode_file h hd m).trans hm) h

/-- **Two texts written to one path** that leads to no special file: the file that it leads to may
    differ from then on.  (A special file that takes nothing refuses every text but the empty one.) -/
theorem SameBut.write {secret : List Nat} {d d' : Disk} (a : SameBut secret d d') {cwd : Location}
    {path : String} (hplain : ∀ l s, d.walk cwd path .newFile ≠ .ok (.found l (.special s)))
    (fresh : Nat) (text text' : String) :
    Agree (fun e e' => ∃ id o, Opens d fresh cwd path (.file id) o ∧ e = o.setContent id text ∧
        SameBut (id :: secret) e e')
      (d.write fresh cwd path text) (d'.write fresh cwd path text') := by
  unfold Disk.write
  rcases a.openForWriting cwd path fresh with ⟨r, ho, ho'⟩ | ⟨⟨o, e⟩, ⟨o', e'⟩, ho, ho', hid, hopen⟩ <;>
    rw [ho, ho']
  · exact .error r
  · obtain rfl : o' = o := hid
    have hopened := opens_of_ok ho
    cases o' with
    | special s =>
      cases hopened with
      | special hw _ _ => exact absurd hw (hplain _ s)
    | file id =>
      exact .ok ⟨id, e, hopened, rfl,
        (hopen.add id).setContent fun hmem => absurd List.mem_cons_self hmem⟩

end Disk

end SecureStartup
