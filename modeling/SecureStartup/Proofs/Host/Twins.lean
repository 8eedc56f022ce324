import SecureStartup.Proofs.Host.Logging
import SecureStartup.Proofs.Log.Rotation

/-!
  Two runs on hosts that differ in the bytes of some files.

  1. **Hosts** — `Host.Twins` relates them: everything but the disks is the same, and the disks are the
     same but for the bytes of files.

  2. **Actions** — `Act.Alike` compares two actions, run on two related hosts: both succeed or both
     fail, with the same failure, and a relation holds of the answers and the hosts afterwards.  It has a
     rule for each way to build an action, so that two runs of a program are compared by going through
     its text once.

  3. **Relations** — what a program is asked about, and what it logs, is the same for all relations that
     questions and log lines keep (`Steady`); so whatever else is known of one of the hosts can be carried
     along.

  Only actions that read bytes and write them need a rule of their own; these are given where a copy is
  made.
-/

namespace SecureStartup

open SecureStartup.Disk

/-! ## Twins -/

namespace Host

/-- **Hosts that differ in the bytes of some files**, and in nothing else. -/
structure Twins (secret : List Nat) (h h' : Host) : Prop where
  rest : h' = { h with disk := h'.disk }
  disk : SameBut secret h.disk h'.disk

namespace Twins

variable {secret : List Nat} {h h' : Host}

/-- A host with other bytes in one file. -/
theorem of_setContent (h : Host) (id : Nat) (text : String) :
    Twins [id] h { h with disk := h.disk.setContent id text } :=
  ⟨rfl, SameBut.of_setContent h.disk id text⟩

/-- Another disk for each of them. -/
theorem with_disk {d d' : Disk} {secret' : List Nat} (a : Twins secret h h')
    (hd : SameBut secret' d d') :
    Twins secret' { h with disk := d } { h' with disk := d' } := by
  obtain ⟨hrest, _⟩ := a
  rw [hrest]
  exact ⟨rfl, hd⟩

theorem workDir (a : Twins secret h h') : h'.workDir = h.workDir := by rw [a.rest]

/-- An operation on both disks, from the working directory that they share. -/
theorem on_disks {α β : Type} (a : Twins secret h h') (rel : Location → α → β → Prop)
    (op : Disk → Location → Except Refusal α) (op' : Disk → Location → Except Refusal β)
    (hop : ∀ cwd, Agree (rel cwd) (op h.disk cwd) (op' h'.disk cwd)) :
    Agree (rel h.workDir) (op h.disk h.workDir) (op' h'.disk h'.workDir) := by
  rw [a.workDir]
  exact hop h.workDir

/-- A log file is put aside on both hosts, or on none. -/
theorem turn (a : Twins secret h h') (file : Log.LogFile) :
    (h'.turn file).1 = (h.turn file).1 ∧ Twins secret (h.turn file).2 (h'.turn file).2 := by
  obtain ⟨hrest, hd⟩ := a
  generalize h'.disk = d' at hrest hd
  subst hrest
  unfold Host.turn
  rcases h.logTurns h.log.made.length with _ | began
  · exact ⟨rfl, rfl, hd⟩
  · obtain ⟨hans, hsame⟩ := file.putAside_alike began secret h.disk d' hd
    exact ⟨congrArg Except.isOk hans, rfl, hsame⟩

theorem writeLine (a : Twins secret h h') (file : Log.LogFile) (r : Log.Record) :
    Twins secret (h.writeLine file r) (h'.writeLine file r) := by
  obtain ⟨hrest, hd⟩ := a
  generalize h'.disk = d' at hrest hd
  subst hrest
  unfold Host.writeLine
  simp only
  split
  · rename_i line _
    rcases hd.append h.workDir file.path (h.granted 0o666) (line ++ "\n") with
      ⟨e, hl, hr⟩ | ⟨d, d', hl, hr, hsame⟩
    · rw [hl]
      simp only [Host.granted] at hr ⊢
      rw [hr]
      exact ⟨rfl, hd⟩
    · rw [hl]
      simp only [Host.granted] at hr ⊢
      rw [hr]
      exact ⟨rfl, hsame⟩
  · exact ⟨rfl, hd⟩

theorem write (a : Twins secret h h') (r : Log.Record) (sink : Sink) :
    Twins secret (h.write r sink) (h'.write r sink) := by
  cases sink with
  | console level =>
    obtain ⟨hrest, hd⟩ := a
    generalize h'.disk = d' at hrest hd
    subst hrest
    simp only [Host.write]
    split
    · exact ⟨rfl, hd⟩
    · split <;> exact ⟨rfl, hd⟩
  | file level file =>
    obtain ⟨hans, hturn⟩ := a.turn file
    simp only [Host.write]
    split
    · exact a
    -- the file is put aside on both or on none; only then does it matter what is written
    · rcases hg : h.turn file with ⟨b, g⟩
      rcases hg' : h'.turn file with ⟨b', g'⟩
      rw [hg, hg'] at hans hturn
      obtain rfl : b' = b := hans
      cases b' with
      | true => exact hturn.writeLine file r
      | false =>
        obtain ⟨hrest, hd⟩ := hturn
        generalize g'.disk = d' at hrest hd
        simp only at hrest
        subst hrest
        exact ⟨rfl, hd⟩
  | tool =>
    obtain ⟨hrest, hd⟩ := a
    generalize h'.disk = d' at hrest hd
    subst hrest
    exact ⟨rfl, hd⟩

theorem foldl_write (r : Log.Record) (sinks : List Sink) (a : Twins secret h h') :
    Twins secret (sinks.foldl (fun h s => h.write r s) h) (sinks.foldl (fun h s => h.write r s) h') := by
  induction sinks generalizing h h' with
  | nil => exact a
  | cons s ss ih => exact ih (a.write r s)

/-- **Twins log alike**: a line does not depend on what files hold. -/
theorem logRecord (a : Twins secret h h') (r : Log.Record) :
    Twins secret (h.logRecord r) (h'.logRecord r) := by
  obtain ⟨hrest, hd⟩ := a
  generalize h'.disk = d' at hrest hd
  subst hrest
  have hmade : Twins secret { h with log := { h.log with made := r :: h.log.made } }
      { h with disk := d', log := { h.log with made := r :: h.log.made } } := ⟨rfl, hd⟩
  unfold Host.logRecord
  simp only
  split
  · exact hmade
  · split
    · split <;> exact ⟨rfl, hd⟩
    · exact hmade.foldl_write r _

end Twins

end Host

/-! ## Relations that questions and log lines keep -/

/-- **A steady relation** of hosts that have the same entries on their disks, and are the same in
    everything else: asking something, with what that uses up, and logging keep it. -/
structure Steady (rel : Host → Host → Prop) : Prop where
  rest : ∀ {h h'}, rel h h' → h' = { h with disk := h'.disk }
  entries : ∀ {h h'}, rel h h' → SameEntries h.disk h'.disk
  logged : ∀ {h h'} (r : Log.Record), rel h h' → rel (h.logRecord r) (h'.logRecord r)
  asked : ∀ {h h'} trace answers makeDirFaults setModeFaults tempDir, rel h h' →
    rel { h with
        trace := trace, answers := answers, tempDir := tempDir
        makeDirFaults := makeDirFaults, setModeFaults := setModeFaults }
      { h' with
        trace := trace, answers := answers, tempDir := tempDir
        makeDirFaults := makeDirFaults, setModeFaults := setModeFaults }

theorem steady_twins (secret : List Nat) : Steady (Host.Twins secret) where
  rest a := a.rest
  entries a := a.disk.sameEntries
  logged r a := a.logRecord r
  asked _ _ _ _ _ a := by
    obtain ⟨hrest, hd⟩ := a
    rw [hrest]
    exact ⟨rfl, hd⟩

/-- What else is known of the first host, if questions and log lines do not change it. -/
theorem Steady.and_left {rel : Host → Host → Prop} (s : Steady rel) {p : Host → Prop}
    (hlogged : ∀ h r, p h → p (h.logRecord r))
    (hasked : ∀ (h : Host) trace answers makeDirFaults setModeFaults tempDir, p h →
      p { h with
        trace := trace, answers := answers, tempDir := tempDir
        makeDirFaults := makeDirFaults, setModeFaults := setModeFaults }) :
    Steady fun h h' => p h ∧ rel h h' where
  rest a := s.rest a.2
  entries a := s.entries a.2
  logged r a := ⟨hlogged _ r a.1, s.logged r a.2⟩
  asked trace answers makeDirFaults setModeFaults tempDir a :=
    ⟨hasked _ trace answers makeDirFaults setModeFaults tempDir a.1,
      s.asked trace answers makeDirFaults setModeFaults tempDir a.2⟩

namespace Act

variable {α β γ δ : Type}

/-! ## Actions on two hosts -/

/-- **Two actions are alike** on hosts that are related before: both fail, with one failure, or both
    succeed, and what is said of the answers and the hosts afterwards holds. -/
def Alike (before : Host → Host → Prop) (x : Act α) (y : Act β)
    (after : α → β → Host → Host → Prop) (failed : Host → Host → Prop) : Prop :=
  ∀ h h', before h h' →
    (∃ f g g', x.on h = (.error f, g) ∧ y.on h' = (.error f, g') ∧ failed g g') ∨
    ∃ a b g g', x.on h = (.ok a, g) ∧ y.on h' = (.ok b, g') ∧ after a b g g'

/-- Two actions that give one answer and keep a relation. -/
def Keeps (rel : Host → Host → Prop) (x y : Act α) : Prop :=
  Alike rel x y (fun a b g g' => b = a ∧ rel g g') rel

section Rules

variable {before before' failed failed' rel : Host → Host → Prop} {x : Act α} {y : Act β}
  {after after' : α → β → Host → Host → Prop}

theorem Alike.mono (a : Alike before x y after failed) (hb : ∀ h h', before' h h' → before h h')
    (ha : ∀ u v g g', after u v g g' → after' u v g g')
    (hf : ∀ g g', failed g g' → failed' g g') : Alike before' x y after' failed' := by
  intro h h' hrel
  rcases a h h' (hb h h' hrel) with ⟨f, g, g', hx, hy, hg⟩ | ⟨u, v, g, g', hx, hy, hg⟩
  · exact .inl ⟨f, g, g', hx, hy, hf g g' hg⟩
  · exact .inr ⟨u, v, g, g', hx, hy, ha u v g g' hg⟩

theorem Alike.pure (u : α) (v : β) (h : ∀ g g', before g g' → after u v g g') :
    Alike before (Pure.pure u) (Pure.pure v) after failed :=
  fun g g' hrel => .inr ⟨u, v, g, g', rfl, rfl, h g g' hrel⟩

theorem Alike.throw (f : Failure) (h : ∀ g g', before g g' → failed g g') :
    Alike before (MonadExcept.throw f : Act α) (MonadExcept.throw f : Act β) after failed :=
  fun g g' hrel => .inl ⟨f, g, g', rfl, rfl, h g g' hrel⟩

/-- **One after the other.** -/
theorem Alike.bind {k : α → Act γ} {l : β → Act δ} {final : γ → δ → Host → Host → Prop}
    (a : Alike before x y after failed) (hk : ∀ u v, Alike (after u v) (k u) (l v) final failed) :
    Alike before (x >>= k) (y >>= l) final failed := by
  intro h h' hrel
  rcases a h h' hrel with ⟨f, g, g', hx, hy, hg⟩ | ⟨u, v, g, g', hx, hy, hg⟩
  · exact .inl ⟨f, g, g', on_bind_error hx, on_bind_error hy, hg⟩
  · rw [on_bind_ok hx, on_bind_ok hy]
    exact hk u v g g' hg

/-- What follows actions that give one answer, of which something is known. -/
theorem Alike.bind_same {x y : Act α} {k : α → Act γ} {l : α → Act δ}
    {known : α → Host → Host → Prop} {final : γ → δ → Host → Host → Prop}
    (a : Alike before x y (fun u v g g' => v = u ∧ known u g g') failed)
    (hk : ∀ u, Alike (known u) (k u) (l u) final failed) :
    Alike before (x >>= k) (y >>= l) final failed := by
  refine Alike.bind a fun u v h h' hrel => ?_
  obtain ⟨hv, hg⟩ := hrel
  subst hv
  exact hk _ h h' hg

/-- What follows actions that give one answer. -/
theorem Alike.then {x y : Act α} {k : α → Act γ} {l : α → Act δ}
    {final : γ → δ → Host → Host → Prop}
    (a : Alike before x y (fun u v g g' => v = u ∧ rel g g') failed)
    (hk : ∀ u, Alike rel (k u) (l u) final failed) : Alike before (x >>= k) (y >>= l) final failed :=
  Alike.bind_same a hk

/-- The same, with what is known of the answer of the first action. -/
theorem Alike.then_of {x y : Act α} {k : α → Act γ} {l : α → Act δ} {known : α → Prop}
    {final : γ → δ → Host → Host → Prop}
    (a : Alike before x y (fun u v g g' => v = u ∧ rel g g') failed)
    (hknown : ∀ h h' u g, before h h' → x.on h = (.ok u, g) → known u)
    (hk : ∀ u, known u → Alike rel (k u) (l u) final failed) :
    Alike before (x >>= k) (y >>= l) final failed := by
  intro h h' hrel
  rcases a h h' hrel with ⟨f, g, g', hx, hy, hg⟩ | ⟨u, v, g, g', hx, hy, hv, hg⟩
  · exact .inl ⟨f, g, g', on_bind_error hx, on_bind_error hy, hg⟩
  · have hu := hknown h h' u g hrel hx
    subst hv
    rw [on_bind_ok hx, on_bind_ok hy]
    exact hk _ hu g g' hg

/-- Less may be known once there is a failure. -/
theorem Alike.failing (a : Alike before x y after failed)
    (hf : ∀ g g', failed g g' → failed' g g') : Alike before x y after failed' :=
  a.mono (fun _ _ h => h) (fun _ _ _ _ h => h) hf

/-- Answers that are given another form. -/
theorem Alike.map {p : α → γ} {q : β → δ} {final : γ → δ → Host → Host → Prop}
    (a : Alike before x y after failed) (hpq : ∀ u v g g', after u v g g' → final (p u) (q v) g g') :
    Alike before (p <$> x) (q <$> y) final failed := by
  intro h h' hrel
  rw [on_map, on_map]
  rcases a h h' hrel with ⟨f, g, g', hx, hy, hg⟩ | ⟨u, v, g, g', hx, hy, hg⟩ <;> rw [hx, hy]
  · exact .inl ⟨f, g, g', rfl, rfl, hg⟩
  · exact .inr ⟨p u, q v, g, g', rfl, rfl, hpq u v g g' hg⟩

/-- An answer and the failures of a computation. -/
theorem Alike.ofExcept {r : Except Failure α} {r' : Except Failure β} {rel' : α → β → Prop}
    (h : Agree rel' r r') :
    Alike rel (Act.ofExcept r) (Act.ofExcept r') (fun u v g g' => rel' u v ∧ rel g g') rel := by
  intro g g' hrel
  rcases h with ⟨f, rfl, rfl⟩ | ⟨u, v, rfl, rfl, huv⟩
  · exact .inl ⟨f, g, g', rfl, rfl, hrel⟩
  · exact .inr ⟨u, v, g, g', rfl, rfl, huv, hrel⟩

/-- A handler goes on where the actions have failed. -/
theorem Alike.tryCatch {x y : Act α} {handle handle' : Failure → Act α}
    {after : α → α → Host → Host → Prop} (a : Alike before x y after failed)
    (hh : ∀ f, Alike failed (handle f) (handle' f) after failed') :
    Alike before (MonadExcept.tryCatch x handle) (MonadExcept.tryCatch y handle') after failed' := by
  intro h h' hrel
  rw [on_tryCatch, on_tryCatch]
  rcases a h h' hrel with ⟨f, g, g', hx, hy, hg⟩ | ⟨u, v, g, g', hx, hy, hg⟩ <;> rw [hx, hy]
  · exact hh f g g' hg
  · exact .inr ⟨u, v, g, g', rfl, rfl, hg⟩

end Rules

/-! ## Questions and log lines -/

section Steady

variable {rel : Host → Host → Prop}

theorem keeps_pure (a : α) : Keeps rel (pure a) (pure a) := Alike.pure a a fun _ _ h => ⟨rfl, h⟩

theorem keeps_throw (f : Failure) : Keeps rel (throw f : Act α) (throw f) :=
  Alike.throw f fun _ _ h => h

theorem keeps_ofExcept (r : Except Failure α) : Keeps rel (ofExcept r) (ofExcept r) :=
  (Alike.ofExcept (Agree.of_eq (Eq.refl r))).mono (fun _ _ h => h)
    (fun _ _ _ _ h => ⟨h.1.symm, h.2⟩) fun _ _ h => h

/-- **Reading the host**: what is done then is done on the very hosts that were read. -/
theorem alike_get_bind {before failed : Host → Host → Prop} {k : Host → Act α} {l : Host → Act β}
    {after : α → β → Host → Host → Prop}
    (hk : ∀ h h', before h h' → Alike before (k h) (l h') after failed) :
    Alike before (get >>= k) (get >>= l) after failed := by
  intro h h' hrel
  rw [on_bind_ok (on_get h), on_bind_ok (on_get h')]
  exact hk h h' hrel h h' hrel

theorem keeps_checkPath (path : String) : Keeps rel (checkPath path) (checkPath path) := by
  unfold checkPath
  split
  · exact keeps_throw _
  · exact keeps_pure ()

/-- An operation that only looks at the disk. -/
theorem alike_onDisk {path : String} {op op' : Disk → Location → Except Refusal α}
    {rel' : α → α → Prop}
    (hop : ∀ h h', rel h h' → Agree rel' (op h.disk h.workDir) (op' h'.disk h'.workDir)) :
    Alike rel (onDisk path op) (onDisk path op') (fun u v g g' => rel' u v ∧ rel g g') rel := by
  unfold onDisk
  refine (keeps_checkPath path).then fun _ => alike_get_bind fun h h' hrel => ?_
  rcases hop h h' hrel with ⟨r, hr, hr'⟩ | ⟨u, v, hu, hv, huv⟩
  · rw [hr, hr']
    exact Alike.throw _ fun _ _ h => h
  · rw [hu, hv]
    exact Alike.pure u v fun _ _ h => ⟨huv, h⟩

/-- An operation that changes the disk. -/
theorem alike_changeDisk {after : Host → Host → Prop} {path : String}
    {op op' : Disk → Location → Except Refusal Disk}
    (hop : ∀ h h', rel h h' → Agree (fun d d' => after { h with disk := d } { h' with disk := d' })
      (op h.disk h.workDir) (op' h'.disk h'.workDir)) :
    Alike rel (changeDisk path op) (changeDisk path op') (fun _ _ => after) rel := by
  intro h h' hrel
  rw [on_changeDisk, on_changeDisk]
  rcases Invalid.forSystem? path with _ | why
  · rcases hop h h' hrel with ⟨r, hr, hr'⟩ | ⟨d, d', hd, hd', hafter⟩
    · rw [hr, hr']
      exact .inl ⟨_, h, h', rfl, rfl, hrel⟩
    · rw [hd, hd']
      exact .inr ⟨⟨⟩, ⟨⟩, _, _, rfl, rfl, hafter⟩
  · exact .inl ⟨_, h, h', rfl, rfl, hrel⟩

end Steady

end Act

namespace Steady

open Act

variable {α : Type} {rel : Host → Host → Prop} (s : Steady rel)

include s

theorem log (logger : String) (level : Int) (message : String) (fields : List (String × Value)) :
    Keeps rel (Act.log logger level message fields) (Act.log logger level message fields) :=
  fun _ _ hrel => .inr ⟨⟨⟩, ⟨⟩, _, _, rfl, rfl, rfl, s.logged _ hrel⟩

/-- Another record of what was asked. -/
theorem with_trace {h h' : Host} (hrel : rel h h') (trace : List Event) :
    rel { h with trace := trace } { h' with trace := trace } := by
  have hset := s.asked trace h.answers h.makeDirFaults h.setModeFaults h.tempDir hrel
  rw [s.rest hrel] at hset ⊢
  exact hset

/-- What was asked is recorded on both hosts. -/
theorem note (e : Event) : Keeps rel (Act.note e) (Act.note e) := by
  intro h h' hrel
  have htrace : h'.trace = h.trace := by rw [s.rest hrel]
  refine .inr ⟨⟨⟩, ⟨⟩, h.note e, h'.note e, rfl, rfl, rfl, ?_⟩
  unfold Host.note
  rw [htrace]
  exact s.with_trace hrel (e :: h.trace)

end Steady

end SecureStartup
