import SecureStartup.Host.Basic

/-!
  Running actions.

  An action is a text of the program that asks, changes and logs: it has a host, and ends with an answer
  or with a failure.  It is run by `Act.on`, which gives its outcome and the host afterwards.  Here every
  way to build an action is described by what running it gives, so that nothing below has to open the
  monad:

  * `on_bind` — the first failure ends an action, and what was changed before it stays changed;
  * `on_tryCatch` — a handler sees the host as the failure left it;
  * `on_changeDisk` — an operation on the disk either changes the disk, and nothing else, or fails
    and changes nothing.

  The last one is how the system's calls are: `os.mkdir`, `os.chmod` and `unlink` have done their work or
  have done nothing.  Copying is not one call, and has lemmas of its own.
-/

namespace SecureStartup

namespace Act

variable {α β : Type}

/-! ## The parts of an action -/

@[simp] theorem on_pure (a : α) (h : Host) : (pure a : Act α).on h = (.ok a, h) := rfl

@[simp] theorem on_throw (f : Failure) (h : Host) : (throw f : Act α).on h = (.error f, h) := rfl

@[simp] theorem on_get (h : Host) : (get : Act Host).on h = (.ok h, h) := rfl

@[simp] theorem on_set (h' h : Host) : (set h' : Act PUnit).on h = (.ok ⟨⟩, h') := rfl

@[simp] theorem on_ofExcept (r : Except Failure α) (h : Host) : (ofExcept r).on h = (r, h) := by
  cases r <;> rfl

/-- What runs after an action runs on the host that the action left; a failure ends both. -/
theorem on_bind (x : Act α) (k : α → Act β) (h : Host) :
    (x >>= k).on h = match x.on h with
      | (.ok a, h') => (k a).on h'
      | (.error f, h') => (.error f, h') := by
  show ExceptT.bindCont k (x.on h).1 (x.on h).2 = _
  rcases x.on h with ⟨_ | _, _⟩ <;> rfl

theorem on_bind_ok {x : Act α} {k : α → Act β} {h h' : Host} {a : α} (hx : x.on h = (.ok a, h')) :
    (x >>= k).on h = (k a).on h' := by
  rw [on_bind, hx]

theorem on_bind_error {x : Act α} {k : α → Act β} {h h' : Host} {f : Failure}
    (hx : x.on h = (.error f, h')) : (x >>= k).on h = (.error f, h') := by
  rw [on_bind, hx]

/-- An action in two parts succeeds only through both. -/
theorem on_bind_eq_ok {x : Act α} {k : α → Act β} {h h' : Host} {b : β}
    (hb : (x >>= k).on h = (.ok b, h')) :
    ∃ a h₁, x.on h = (.ok a, h₁) ∧ (k a).on h₁ = (.ok b, h') := by
  rw [on_bind] at hb
  rcases hx : x.on h with ⟨f | a, h₁⟩
  · rw [hx] at hb
    exact nomatch hb
  · rw [hx] at hb
    exact ⟨a, h₁, rfl, hb⟩

/-- What follows a computation that succeeded runs on the same host. -/
theorem on_ofExcept_bind_eq_ok {r : Except Failure α} {k : α → Act β} {h h' : Host} {b : β}
    (hb : (ofExcept r >>= k).on h = (.ok b, h')) : ∃ a, r = .ok a ∧ (k a).on h = (.ok b, h') := by
  obtain ⟨a, h₁, hr, hk⟩ := on_bind_eq_ok hb
  rw [on_ofExcept] at hr
  cases hr
  exact ⟨a, rfl, hk⟩

theorem on_map (g : α → β) (x : Act α) (h : Host) :
    (g <$> x).on h = ((x.on h).1.map g, (x.on h).2) := by
  rw [← bind_pure_comp, on_bind]
  rcases x.on h with ⟨_ | _, _⟩ <;> rfl

/-- Giving an answer another form changes nothing else. -/
theorem on_bind_pure (g : α → β) (x : Act α) (h : Host) :
    (x >>= fun a => pure (g a)).on h = ((x.on h).1.map g, (x.on h).2) := by
  rw [bind_pure_comp, on_map]

/-- An action whose answer is given another form fails as it did. -/
theorem on_bind_pure_eq_error {g : α → β} {x : Act α} {h h' : Host} {f : Failure}
    (hf : (x >>= fun a => pure (g a)).on h = (.error f, h')) : x.on h = (.error f, h') := by
  rw [on_bind_pure] at hf
  rcases hx : x.on h with ⟨f' | a, k⟩ <;> rw [hx] at hf <;> cases hf
  rfl

/-- A handler runs on the host that the failure left. -/
theorem on_tryCatch (x : Act α) (handle : Failure → Act α) (h : Host) :
    (tryCatch x handle).on h = match x.on h with
      | (.ok a, h') => (.ok a, h')
      | (.error f, h') => (handle f).on h' := by
  unfold on ExceptT.run
  simp only [tryCatch, tryCatchThe, MonadExceptOf.tryCatch, ExceptT.tryCatch, ExceptT.mk, bind,
    StateT.bind]
  rcases x h with ⟨_ | _, _⟩ <;> rfl

/-! ## Operations on the disk -/

theorem on_checkPath (path : String) (h : Host) :
    (checkPath path).on h = (match Invalid.forSystem? path with
      | some why => .error (.invalid why)
      | none => .ok ⟨⟩, h) := by
  unfold checkPath
  rcases Invalid.forSystem? path with _ | _ <;> rfl

theorem on_onDisk (path : String) (op : Disk → Location → Except Refusal α) (h : Host) :
    (onDisk path op).on h = (match Invalid.forSystem? path with
      | some why => .error (.invalid why)
      | none => match op h.disk h.workDir with
        | .ok a => .ok a
        | .error r => .error (.refused r path), h) := by
  unfold onDisk
  rw [on_bind, on_checkPath]
  rcases Invalid.forSystem? path with _ | why
  · show ((get : Act Host) >>= _).on h = _
    rw [on_bind_ok (on_get h)]
    rcases op h.disk h.workDir with _ | _ <;> rfl
  · rfl

/-- An operation on the disk changes the disk and nothing else, or fails and changes nothing. -/
theorem on_changeDisk (path : String) (op : Disk → Location → Except Refusal Disk) (h : Host) :
    (changeDisk path op).on h = match Invalid.forSystem? path with
      | some why => (.error (.invalid why), h)
      | none => match op h.disk h.workDir with
        | .ok d => (.ok ⟨⟩, { h with disk := d })
        | .error r => (.error (.refused r path), h) := by
  unfold changeDisk
  rw [on_bind, on_onDisk]
  rcases Invalid.forSystem? path with _ | why
  · rcases op h.disk h.workDir with _ | _ <;> rfl
  · rfl

/-- An operation on the disk that is not refused. -/
theorem changeDisk_ok {path : String} {op : Disk → Location → Except Refusal Disk} {h : Host}
    {d : Disk} (hp : Invalid.forSystem? path = none) (ho : op h.disk h.workDir = .ok d) :
    (changeDisk path op).on h = (.ok ⟨⟩, { h with disk := d }) := by
  rw [on_changeDisk, hp, ho]

/-- An operation on the disk that the system refuses. -/
theorem changeDisk_refused {path : String} {op : Disk → Location → Except Refusal Disk} {h : Host}
    {r : Refusal} (hp : Invalid.forSystem? path = none) (ho : op h.disk h.workDir = .error r) :
    (changeDisk path op).on h = (.error (.refused r path), h) := by
  rw [on_changeDisk, hp, ho]

/-- An operation on the disk that went well. -/
theorem changeDisk_eq_ok {path : String} {op : Disk → Location → Except Refusal Disk} {h : Host}
    (hok : ((changeDisk path op).on h).1 = .ok ⟨⟩) :
    ∃ d, op h.disk h.workDir = .ok d ∧ ((changeDisk path op).on h).2 = { h with disk := d } := by
  rw [on_changeDisk] at hok ⊢
  rcases hp : Invalid.forSystem? path with _ | why <;> rw [hp] at hok
  · rcases ho : op h.disk h.workDir with r | d <;> rw [ho] at hok
    · exact nomatch hok
    · exact ⟨d, rfl, rfl⟩
  · exact nomatch hok

/-- An operation on the disk that is refused changes nothing. -/
theorem changeDisk_eq_error {path : String} {op : Disk → Location → Except Refusal Disk} {h : Host}
    {f : Failure} (hf : ((changeDisk path op).on h).1 = .error f) :
    ((changeDisk path op).on h).2 = h := by
  rw [on_changeDisk] at hf ⊢
  revert hf
  rcases Invalid.forSystem? path with _ | why
  · rcases op h.disk h.workDir with r | d
    · exact fun _ => rfl
    · exact nofun
  · exact fun _ => rfl

theorem changeDisk_trace (path : String) (op : Disk → Location → Except Refusal Disk) (h : Host) :
    ((changeDisk path op).on h).2.trace = h.trace := by
  rw [on_changeDisk]
  split
  · rfl
  · split <;> rfl

end Act

end SecureStartup
