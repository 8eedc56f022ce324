import Mathlib.Data.List.Induction
import SecureStartup.Config.Session
import SecureStartup.Proofs.Host.Running

/-!
  Which configuration the whole program shares.

  Program: `get_config` answers with the shared configuration and loads it when there is none;
  `set_config` replaces it, and `reset_config` forgets it.  What it shares is one variable of the module.

  The answers of a session are told from its history alone, the steps so far with what they answered:

  * `shared?` — the specification: since the last reset, the configuration that was set last, and if
    none was set, the one that was got first;
  * `shared?_concat` — what one more step does to it: a reset ends it, a replacement wins, and an answer
    only counts where there was nothing;
  * `stepFrom_held` — the invariant: what a session holds is what its history shares.  Each step keeps
    it, and so does a run (`heldAfter_eq`);
  * `session_answers_shared` — a question is answered with what the history shares, and with a new load
    where it shares nothing.

  Loads on the side, other environments and files are in the history, too; `shared?_filter` takes them
  out of it.  A load that fails is answered with its failure, and nothing is held.
-/

namespace SecureStartup.Config

/-! ## What a history shares -/

/-- A step and what it answered. -/
abbrev Happening := Step × Except Failure (Option AppConfig)

/-- The last reset ends what was shared before. -/
def Step.isReset : Step → Bool
  | .reset => true
  | _ => false

/-- A step around the shared configuration: a load on the side, another environment, another file. -/
def Step.isAround : Step → Bool
  | .load _ _ | .environment _ | .place _ => true
  | _ => false

/-- What has happened since the last reset. -/
def sinceReset (history : List Happening) : List Happening :=
  (history.reverse.takeWhile fun e => !e.1.isReset).reverse

/-- The configuration that was set. -/
def set? : Happening → Option AppConfig
  | (.set c, _) => some c
  | _ => none

/-- The configuration that was got. -/
def got? : Happening → Option AppConfig
  | (.get, .ok answer) => answer
  | _ => none

/-- **The shared configuration** of a history: since the last reset, the one that was set last, else the
    one that was got first. -/
def shared? (history : List Happening) : Option AppConfig :=
  let recent := sinceReset history
  (recent.reverse.findSome? set?).or (recent.findSome? got?)

theorem sinceReset_concat (history : List Happening) (e : Happening) :
    sinceReset (history ++ [e]) = if e.1.isReset then [] else sinceReset history ++ [e] := by
  unfold sinceReset
  rw [List.reverse_append, List.reverse_singleton, List.singleton_append, List.takeWhile_cons]
  cases e.1.isReset with
  | true => rfl
  | false => exact List.reverse_cons

/-- **One more step**: after a reset nothing is shared; else what was set now comes first, and what was
    got now comes last. -/
theorem shared?_concat (history : List Happening) (e : Happening) :
    shared? (history ++ [e]) =
      if e.1.isReset then none else (set? e).or ((shared? history).or (got? e)) := by
  unfold shared?
  rw [sinceReset_concat]
  cases e.1.isReset with
  | true => rfl
  | false =>
    simp only [Bool.false_eq_true, if_false]
    rw [List.reverse_append, List.reverse_singleton, List.singleton_append, List.findSome?_append,
      List.findSome?_singleton, List.findSome?_cons]
    cases set? e with
    | none => rw [Option.none_or, Option.or_assoc]
    | some c => rfl

/-- What happens around the shared configuration does not change it. -/
theorem shared?_concat_around (history : List Happening) {e : Happening}
    (he : e.1.isAround = true) : shared? (history ++ [e]) = shared? history := by
  rw [shared?_concat]
  obtain ⟨s, answer⟩ := e
  cases s with
  | load given overrides | environment env | place p =>
    show none.or ((shared? history).or none) = _
    rw [Option.none_or, Option.or_none]
  | get | set c | reset => exact nomatch he

/-- A question that fails does not change it. -/
theorem shared?_concat_failed (history : List Happening) (f : Failure) :
    shared? (history ++ [(.get, .error f)]) = shared? history := by
  rw [shared?_concat]
  show none.or ((shared? history).or none) = _
  rw [Option.none_or, Option.or_none]

/-- **Only sets, resets and questions count.**  By induction on the history, from its end. -/
theorem shared?_filter (history : List Happening) :
    shared? (history.filter fun e => !e.1.isAround) = shared? history := by
  induction history using List.reverseRecOn with
  | nil => rfl
  | append_singleton history e ih =>
    rw [List.filter_append]
    cases he : e.1.isAround with
    | true =>
      rw [List.filter_cons_of_neg (by simp [he]), List.filter_nil, List.append_nil, ih,
        shared?_concat_around history he]
    | false =>
      rw [List.filter_cons_of_pos (by simp [he]), List.filter_nil, shared?_concat, shared?_concat, ih]

/-! ## Sessions -/

/-- One step of a session, with the answer as an outcome: what was held stays after a failure. -/
def stepFrom (held : Option AppConfig) (s : Step) (h : Host) :
    Except Failure (Option AppConfig) × Option AppConfig × Host :=
  match (step held s).on h with
  | (.ok (answer, held), h) => (.ok answer, held, h)
  | (.error f, h) => (.error f, held, h)

theorem session_cons (held : Option AppConfig) (s : Step) (steps : List Step) (h : Host) :
    session held (s :: steps) h =
      let (answer, held, h) := stepFrom held s h
      (answer :: (session held steps h).1, (session held steps h).2) := by
  unfold stepFrom
  show (match (step held s).on h with
    | (.ok (answer, held), h) => _
    | (.error f, h) => _) = _
  rcases (step held s).on h with ⟨f | ⟨answer, held'⟩, h'⟩ <;> rfl

/-- What is held after a session. -/
def heldAfter : Option AppConfig → List Step → Host → Option AppConfig
  | held, [], _ => held
  | held, s :: steps, h =>
    let (_, held, h) := stepFrom held s h
    heldAfter held steps h

/-- **A session in two parts**: the second starts from what the first holds, on the host it left. -/
theorem session_append (held : Option AppConfig) (first second : List Step) (h : Host) :
    session held (first ++ second) h =
      let past := session held first h
      let rest := session (heldAfter held first h) second past.2
      (past.1 ++ rest.1, rest.2) := by
  induction first generalizing held h with
  | nil => rfl
  | cons s first ih =>
    rw [List.cons_append, session_cons, session_cons, heldAfter]
    simp only [ih, List.cons_append]

theorem length_session (held : Option AppConfig) (steps : List Step) (h : Host) :
    (session held steps h).1.length = steps.length := by
  induction steps generalizing held h with
  | nil => rfl
  | cons s steps ih =>
    rw [session_cons]
    exact congrArg Nat.succ (ih _ _)

/-- A question is answered with what is held; else it loads, and holds what it has loaded. -/
theorem stepFrom_get (held : Option AppConfig) (h : Host) :
    stepFrom held .get h = match held with
      | some c => (.ok (some c), some c, h)
      | none =>
        let (loaded, g) := (load .none .none).on h
        (loaded.map some, loaded.toOption, g) := by
  rcases held with _ | c
  · unfold stepFrom
    have hstep : (step none .get).on h =
        (load .none .none >>= fun c => pure (some c, some c)).on h := rfl
    rw [hstep, Act.on_bind_pure]
    rcases (load .none .none).on h with ⟨f | c, g⟩ <;> rfl
  · rfl

/-- What happens around the shared configuration leaves it as it is. -/
theorem stepFrom_around (held : Option AppConfig) {s : Step} (hs : s.isAround = true) (h : Host) :
    (stepFrom held s h).2.1 = held := by
  unfold stepFrom
  cases s with
  | load given overrides =>
    have hstep : (step held (.load given overrides)).on h =
        (load given overrides >>= fun c => pure (some c, held)).on h := rfl
    rw [hstep, Act.on_bind_pure]
    rcases (load given overrides).on h with ⟨f | c, g⟩ <;> rfl
  | environment env => rfl
  | place p =>
    have hstep : (step held (.place p)).on h =
        (Act.changeDisk "" (fun d cwd => d.place h.withheld cwd p) >>= fun _ =>
          pure (none, held)).on h := Act.on_bind_ok (Act.on_get h)
    rw [hstep, Act.on_bind_pure]
    rcases (Act.changeDisk "" fun d cwd => d.place h.withheld cwd p).on h with ⟨f | _, g⟩ <;> rfl
  | get | set c | reset => exact nomatch hs

/-- **One step keeps the invariant**: what was held is what the history shared, and so it is after the
    step. -/
theorem stepFrom_held (history : List Happening) (s : Step) (h : Host) :
    let next := stepFrom (shared? history) s h
    next.2.1 = shared? (history ++ [(s, next.1)]) := by
  intro next
  cases s with
  | get =>
    have hnext : next = stepFrom (shared? history) .get h := rfl
    rw [stepFrom_get] at hnext
    rw [shared?_concat, hnext]
    rcases shared? history with _ | c
    · rcases (load .none .none).on h with ⟨f | c, g⟩ <;> rfl
    · rfl
  | set c => rw [shared?_concat]; rfl
  | reset => rw [shared?_concat]; rfl
  | load given overrides | environment env | place p =>
    rw [shared?_concat_around history rfl]
    exact stepFrom_around _ rfl h

/-- **What a session holds** is what its history shares, whatever came before it.  By induction on the
    steps. -/
theorem heldAfter_eq (history : List Happening) (steps : List Step) (h : Host) :
    heldAfter (shared? history) steps h =
      shared? (history ++ steps.zip (session (shared? history) steps h).1) := by
  induction steps generalizing history h with
  | nil => rw [List.zip_nil_left, List.append_nil]; rfl
  | cons s steps ih =>
    have hheld := stepFrom_held history s h
    rw [heldAfter, session_cons]
    generalize stepFrom (shared? history) s h = next at hheld ⊢
    obtain ⟨answer, held, g⟩ := next
    have hnext : held = shared? (history ++ [(s, answer)]) := hheld
    show heldAfter held steps g = _
    rw [hnext, ih, List.zip_cons_cons, List.append_assoc, List.singleton_append]

/-! ## The answers -/

/-- **Questions are answered with what is shared.**  Wherever a question stands in a session, its answer
    is the configuration that the history before it shares, and where that shares none, a new load on
    the host as it is then.  A question that fails shares nothing, so the next one loads again; and
    loads on the side, other environments and other files do not count at all. -/
theorem session_answers_shared (before after : List Step) (h : Host) :
    let past := session none before h
    let history := before.zip past.1
    (session none (before ++ .get :: after) h).1[before.length]? =
      some (match shared? history with
        | some c => .ok (some c)
        | none => ((load .none .none).on past.2).1.map some) ∧
    (∀ f, shared? (history ++ [(.get, .error f)]) = shared? history) ∧
    shared? (history.filter fun e => !e.1.isAround) = shared? history := by
  intro past history
  refine ⟨?_, shared?_concat_failed history, shared?_filter history⟩
  have hheld : heldAfter none before h = shared? history := heldAfter_eq [] before h
  have hlength : past.1.length = before.length := length_session none before h
  rw [session_append]
  show (past.1 ++ (session (heldAfter none before h) (.get :: after) past.2).1)[before.length]? = _
  rw [List.getElem?_append_right (Nat.le_of_eq hlength), hlength, Nat.sub_self, hheld, session_cons,
    stepFrom_get]
  rcases shared? history with _ | c
  · rcases (load .none .none).on past.2 with ⟨f | c, g⟩ <;> rfl
  · rfl

end SecureStartup.Config
