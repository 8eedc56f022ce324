import SecureStartup.Proofs.Host.Running

/-!
  How actions can fail.

  Program: `main` has words and an exit code for a failure of the system (`OSError`) and for a value that
  is wrong (`ValueError`), beside the issues of the set-up itself.  Whatever else is raised escapes it.

  A failure is PLAIN when it is the system's, or is about a value that is wrong.  `Act.FailsOnly p act h`
  says that the action, on this host, fails in no other way than `p`; it is followed through an action
  along its parts.  What is computed from settings needs no host, and its failures are looked at where it
  is computed (`failsOnly_ofExcept_bind`).
-/

namespace SecureStartup

/-- **A plain failure**: of the system, or a value that is wrong. -/
def Failure.Plain (f : Failure) : Prop := f.isSystem = true ∨ f.isInvalid = true

theorem Failure.plain_invalid (why : Invalid) : (Failure.invalid why).Plain := .inr rfl

theorem Failure.plain_refused (why : Refusal) (path : String) : (Failure.refused why path).Plain :=
  .inl rfl

namespace Act

variable {α β : Type} {p : Failure → Prop} {h : Host}

/-- On a host, an action fails in these ways only. -/
def FailsOnly (p : Failure → Prop) (act : Act α) (h : Host) : Prop :=
  ∀ f, (act.on h).1 = .error f → p f

theorem failsOnly_pure (a : α) : FailsOnly p (pure a : Act α) h := nofun

theorem failsOnly_throw {f : Failure} (hf : p f) : FailsOnly p (throw f : Act α) h := by
  intro g hg
  cases hg
  exact hf

theorem failsOnly_log (logger : String) (level : Int) (message : String)
    (fields : List (String × Value)) : FailsOnly p (log logger level message fields) h := nofun

/-- Part after part. -/
theorem failsOnly_bind {x : Act α} {k : α → Act β} (hx : FailsOnly p x h)
    (hk : ∀ a h', x.on h = (.ok a, h') → FailsOnly p (k a) h') : FailsOnly p (x >>= k) h := by
  intro f hf
  rw [on_bind] at hf
  rcases hr : x.on h with ⟨g | a, h'⟩ <;> rw [hr] at hf
  · have hgf : g = f := Except.error.inj hf
    exact hx f (by rw [hr, hgf])
  · exact hk a h' hr f hf

/-- What was computed fails as it did, and what follows runs on the same host. -/
theorem failsOnly_ofExcept_bind {r : Except Failure α} {k : α → Act β}
    (hr : ∀ f, r = .error f → p f) (hk : ∀ a, FailsOnly p (k a) h) :
    FailsOnly p (ofExcept r >>= k) h := by
  refine failsOnly_bind (fun f hf => hr f ?_) fun a h' ha => ?_
  · rw [on_ofExcept] at hf
    exact hf
  · rw [on_ofExcept] at ha
    cases ha
    exact hk a

/-- A path is refused as one that the system cannot be given. -/
theorem failsOnly_checkPath_of {path : String}
    (hpath : ∀ why, Invalid.forSystem? path = some why → p (.invalid why)) :
    FailsOnly p (checkPath path) h := by
  intro f hf
  rw [on_checkPath] at hf
  rcases hp : Invalid.forSystem? path with _ | why <;> rw [hp] at hf
  · exact nomatch hf
  · cases hf
    exact hpath why hp

/-- The system is asked about a path that it can be given, and may refuse. -/
theorem failsOnly_onDisk_of {path : String} (op : Disk → Location → Except Refusal α)
    (hpath : ∀ why, Invalid.forSystem? path = some why → p (.invalid why))
    (hrefused : ∀ why, p (.refused why path)) : FailsOnly p (onDisk path op) h := by
  intro f hf
  rw [on_onDisk] at hf
  rcases hp : Invalid.forSystem? path with _ | why <;> rw [hp] at hf
  · rcases ho : op h.disk h.workDir with r | a <;> rw [ho] at hf
    · cases hf
      exact hrefused r
    · exact nomatch hf
  · cases hf
    exact hpath why hp

theorem failsOnly_onDisk (path : String) (op : Disk → Location → Except Refusal α) :
    FailsOnly Failure.Plain (onDisk path op) h :=
  failsOnly_onDisk_of op (fun why _ => Failure.plain_invalid why)
    fun why => Failure.plain_refused why path

theorem failsOnly_changeDisk (path : String) (op : Disk → Location → Except Refusal Disk) :
    FailsOnly Failure.Plain (changeDisk path op) h :=
  failsOnly_bind (failsOnly_onDisk path op) fun _ _ _ => nofun

end Act

end SecureStartup
