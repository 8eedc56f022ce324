import SecureStartup.Keytab.Stager
import SecureStartup.Proofs.Host.Asking

/-!
  The directory that staging directories are made in.

  1. **Program** — the constructor of `SecureKeytabFetcher`: the staging root that is given, or else
     `tempfile.gettempdir()`.  The directory for temporary files is kept once it has been found, and is
     looked for now if it has not.

  2. **The point** — the constructor runs before anything is validated, and whether security is on or
     off.  So a host without such a directory refuses every start-up that is given no staging root
     (`HasRoot` is the exact condition), with a failure of the system.

  3. **The frame** — looking for the directory leaves its question in the trace and keeps the answer,
     and does nothing else (`Host.Sought`).
-/

namespace SecureStartup

namespace Host

/-- **A host on which the directory for temporary files was looked for**, if it was not known. -/
inductive Sought (h : Host) : Host → Prop where
  | known : Sought h h
  | found (dir tried : String) : Sought h { h.note (.probe tried) with tempDir := some dir }

namespace Sought

variable {h g : Host}

/-- Nothing but the question and the answer is new. -/
theorem rest (a : Sought h g) :
    g = { h with trace := g.trace, tempDir := g.tempDir } := by
  cases a with
  | known => rfl
  | found dir tried => rfl

/-- What was asked is whether a directory may be written, at most once. -/
theorem events (a : Sought h g) :
    ∃ es, g.events = h.events ++ es ∧ ∀ e ∈ es, ∃ path, e = .probe path := by
  cases a with
  | known => exact ⟨[], (List.append_nil _).symm, nofun⟩
  | found dir tried =>
    refine ⟨[.probe tried], List.reverse_cons, fun e he => ⟨tried, ?_⟩⟩
    exact List.mem_singleton.mp he

theorem later (a : Sought h g) (logs : Set Location) : Later logs h g := by
  cases a with
  | known => exact Later.refl logs h
  | found dir tried =>
    exact ⟨⟨_, _, _, _, _, _, _, rfl⟩, ⟨rfl, rfl, rfl⟩, Disk.LogsOnly.refl logs h.disk⟩

end Sought

end Host

namespace KeytabStager

open Host

/-- **There is a root for a stager**: one is given, or a directory for temporary files is known or can
    be found. -/
def HasRoot (root : Value) (h : Host) : Prop :=
  root.truthy = true ∨ h.tempDir.isSome = true ∨ h.findTempDir.isSome = true

instance (root : Value) (h : Host) : Decidable (HasRoot root h) :=
  inferInstanceAs (Decidable (_ ∨ _))

/-- The directory for temporary files, where there is one. -/
theorem tempDir_ok {h : Host} (hd : h.tempDir.isSome = true ∨ h.findTempDir.isSome = true) :
    ∃ dir g, Act.tempDir.on h = (.ok dir, g) ∧ Sought h g := by
  unfold Act.tempDir
  rw [Act.on_bind_ok (Act.on_get h)]
  rcases hknown : h.tempDir with _ | dir
  · rw [hknown] at hd
    obtain ⟨⟨dir, tried⟩, hfound⟩ := Option.isSome_iff_exists.mp (hd.resolve_left nofun)
    rw [hfound]
    exact ⟨dir, _, rfl, .found dir tried⟩
  · exact ⟨dir, h, rfl, .known⟩

/-- Where there is none, the system says so. -/
theorem tempDir_error {h : Host} (hd : ¬ (h.tempDir.isSome = true ∨ h.findTempDir.isSome = true)) :
    ∃ args, Act.tempDir.on h = (.error (.system "FileNotFoundError" args), h) := by
  rw [not_or, Option.not_isSome_iff_eq_none, Option.not_isSome_iff_eq_none] at hd
  obtain ⟨hknown, hfound⟩ := hd
  unfold Act.tempDir
  rw [Act.on_bind_ok (Act.on_get h), hknown, hfound]
  exact ⟨_, rfl⟩

variable {root : Value} {h : Host}

/-- **A stager can be made** where there is a root for it. -/
theorem ofRoot_ok (hroot : root = .none ∨ ∃ p, root.asPath = .ok p) (hr : HasRoot root h) :
    ∃ stager g, (ofRoot root).on h = (.ok stager, g) ∧ Sought h g := by
  unfold ofRoot
  by_cases ht : root.truthy = true
  · obtain ⟨p, hp⟩ : ∃ p, root.asPath = .ok p := by
      rcases hroot with rfl | hp
      · exact nomatch ht
      · exact hp
    rw [if_pos ht, hp]
    exact ⟨⟨p⟩, h, rfl, .known⟩
  · obtain ⟨dir, g, hdir, hsought⟩ := tempDir_ok (hr.resolve_left ht)
    rw [if_neg ht, Act.on_bind_ok hdir]
    exact ⟨_, g, rfl, hsought⟩

/-- **No stager can be made** where there is none: the system says that it has no directory. -/
theorem ofRoot_error (hr : ¬ HasRoot root h) :
    ∃ args, (ofRoot root).on h = (.error (.system "FileNotFoundError" args), h) := by
  obtain ⟨ht, hd⟩ := not_or.mp hr
  obtain ⟨args, hdir⟩ := tempDir_error hd
  unfold ofRoot
  rw [if_neg ht, Act.on_bind_error hdir]
  exact ⟨args, rfl⟩

end KeytabStager

end SecureStartup
