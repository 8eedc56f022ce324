import Mathlib.Logic.Relation
import SecureStartup.Host.TempDir
import SecureStartup.Proofs.Host.LogFiles

/-!
  Actions that only ask.

  Program: `ConfigValidator.validate`, the identity providers and the search for a staging root ask the
  host about files, processes and users, and log what they find.  A start-up that only validates does
  nothing else.

  1. **Steps** — some events are QUESTIONS: what is asked changes nothing.  A host is consulted in single
     steps, each of which makes a log record, asks a question, uses up a prepared answer or keeps the
     directory for temporary files that was found (`ConsultStep`), and `Consulted` is any number of them.

  2. **Actions** — an action `Consults` when that is all it ever does, also where it fails; there is a rule
     for each way to build one.

  3. **What never happens** — what cannot happen in one step never happens: all new events are questions
     (`Consulted.questions`), and the disk is changed by log lines only (`Consulted.later`), not at all
     when these go nowhere (`Consulted.disk`).
-/

namespace SecureStartup

/-- **A question.**  All other events are requests.  Trying a directory is a question: the file that is
    made for it is deleted again. -/
def Event.isQuestion : Event → Bool
  | .lookUp | .which _ | .run _ | .probe _ => true
  | _ => false

namespace Host

/-- One step of a consultation. -/
inductive ConsultStep (h : Host) : Host → Prop where
  | log (r : Log.Record) : ConsultStep h (h.logRecord r)
  | ask (e : Event) (he : e.isQuestion = true) : ConsultStep h (h.note e)
  | answer (rest : List (Except Failure (Option String))) : ConsultStep h { h with answers := rest }
  | found (dir : String) : ConsultStep h { h with tempDir := some dir }

/-- **A host that was consulted.** -/
def Consulted : Host → Host → Prop := Relation.ReflTransGen ConsultStep

namespace Consulted

variable {h g k : Host}

theorem refl (h : Host) : Consulted h h := Relation.ReflTransGen.refl

theorem trans (a : Consulted h g) (b : Consulted g k) : Consulted h k := Relation.ReflTransGen.trans a b

theorem single (a : ConsultStep h g) : Consulted h g := Relation.ReflTransGen.single a

/-- **All new events are questions.** -/
theorem questions (a : Consulted h g) :
    ∃ es, g.events = h.events ++ es ∧ ∀ e ∈ es, e.isQuestion = true := by
  induction a with
  | refl => exact ⟨[], (List.append_nil _).symm, nofun⟩
  | @tail m _ _ step ih =>
    obtain ⟨es, hevents, hes⟩ := ih
    cases step with
    | log r =>
      obtain ⟨_, _, _, hr⟩ := m.logRecord_frame r
      rw [hr]
      exact ⟨es, hevents, hes⟩
    | ask e he =>
      have hnote : (m.note e).events = m.events ++ [e] := List.reverse_cons
      refine ⟨es ++ [e], by rw [hnote, hevents, List.append_assoc], fun e' he' => ?_⟩
      rcases List.mem_append.mp he' with hold | hnew
      · exact hes e' hold
      · rw [List.mem_singleton.mp hnew]
        exact he
    | answer rest => exact ⟨es, hevents, hes⟩
    | found dir => exact ⟨es, hevents, hes⟩

/-- **With log places**, nothing else of the disk is changed. -/
theorem later {logs : Set Location} (hl : h.LogsTo logs) (a : Consulted h g) : Later logs h g := by
  induction a with
  | refl => exact Later.refl logs h
  | @tail m _ _ step ih =>
    refine ih.trans ?_
    have hdisk := Disk.LogsOnly.refl logs m.disk
    cases step with
    | log r => exact Later.of_logged (ih.logsTo hl) ⟨[r], rfl⟩
    | ask e he => exact ⟨⟨_, _, _, _, _, _, _, rfl⟩, ⟨rfl, rfl, rfl⟩, hdisk⟩
    | answer rest => exact ⟨⟨_, _, _, _, _, _, _, rfl⟩, ⟨rfl, rfl, rfl⟩, hdisk⟩
    | found dir => exact ⟨⟨_, _, _, _, _, _, _, rfl⟩, ⟨rfl, rfl, rfl⟩, hdisk⟩

/-- **While records go nowhere**, nothing of the disk is changed. -/
theorem disk (hs : h.log.sinks = []) (a : Consulted h g) : g.disk = h.disk := by
  -- there have to be no sinks later on either
  have hboth : g.log.sinks = [] ∧ g.disk = h.disk := by
    induction a with
    | refl => exact ⟨hs, rfl⟩
    | @tail m _ _ step ih =>
      cases step with
      | log r =>
        obtain ⟨err, hr⟩ := Host.logRecord_quiet r (Host.quiet_of_no_sinks ih.1)
        rw [hr]
        exact ih
      | ask e he => exact ih
      | answer rest => exact ih
      | found dir => exact ih
  exact hboth.2

end Consulted

end Host

namespace Act

open Host

variable {α β : Type}

/-- **An action that only asks and logs**, on every host. -/
def Consults (x : Act α) : Prop := ∀ h, Consulted h (x.on h).2

section Rules

variable {x : Act α} {k : α → Act β}

theorem consults_pure (a : α) : Consults (pure a) := fun h => Consulted.refl h

theorem consults_throw (f : Failure) : Consults (throw f : Act α) := fun h => Consulted.refl h

theorem consults_ofExcept (r : Except Failure α) : Consults (ofExcept r) := by
  intro h
  rw [on_ofExcept]
  exact Consulted.refl h

/-- One after the other; when the first fails, there is no other. -/
theorem Consults.bind (a : Consults x) (hk : ∀ u, Consults (k u)) : Consults (x >>= k) := by
  intro h
  have hx := a h
  rw [on_bind]
  rcases hon : x.on h with ⟨f | u, g⟩ <;> rw [hon] at hx
  · exact hx
  · exact hx.trans (hk u g)

/-- Reading the host is not even a step. -/
theorem consults_get_bind {k : Host → Act α} (hk : ∀ h, Consults (k h)) : Consults (get >>= k) :=
  fun h => hk h h

theorem Consults.tryCatch {handle : Failure → Act α} (a : Consults x)
    (hh : ∀ f, Consults (handle f)) : Consults (MonadExcept.tryCatch x handle) := by
  intro h
  have hx := a h
  rw [on_tryCatch]
  rcases hon : x.on h with ⟨f | u, g⟩ <;> rw [hon] at hx
  · exact hx.trans (hh f g)
  · exact hx

theorem consults_log (logger : String) (level : Int) (message : String)
    (fields : List (String × Value)) : Consults (log logger level message fields) :=
  fun _ => Consulted.single (ConsultStep.log _)

theorem consults_note {e : Event} (he : e.isQuestion = true) : Consults (note e) :=
  fun _ => Consulted.single (ConsultStep.ask e he)

/-- **Looking for the directory for temporary files** is asking, whether it is found or not. -/
theorem consults_tempDir : Consults tempDir := by
  unfold tempDir
  refine consults_get_bind fun h => ?_
  split
  · exact consults_pure _
  · split
    · refine (consults_note rfl).bind fun _ => ?_
      have hfound : ∀ dir, Consults (modify fun h => { h with tempDir := some dir }) :=
        fun dir _ => Consulted.single (ConsultStep.found dir)
      exact (hfound _).bind fun _ => consults_pure _
    · exact consults_throw _

/-- Answers that were given are used up. -/
theorem consults_answers (rest : List (Except Failure (Option String))) :
    Consults (modify fun h => { h with answers := rest }) :=
  fun _ => Consulted.single (ConsultStep.answer rest)

end Rules

end Act

end SecureStartup
