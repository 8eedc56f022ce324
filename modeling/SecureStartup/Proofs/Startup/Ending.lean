import SecureStartup.Proofs.Host.Failing
import SecureStartup.Startup.Run

/-!
  How start-up ends.

  1. **Program** — `main` turns the outcome of `resolve_security` into an exit code: 0 when there is one;
     otherwise the code of the failure's category for an issue of the set-up (`exit_code_for`), that of
     input and output for a failure of the system, and that of a bad configuration for a wrong value.

  2. **Escaping** — a failure of any other family is not caught, and ESCAPES: the process ends as the
     runtime ends it, without a line in the log.

  3. **Endings** — `Ending.of` is the ending of an outcome, and `finish_exits` says that the program ends
     so.  Where it matters which of several failures comes first, endings of single steps are put side by
     side, and the first one counts (`Ending.of?`).
-/

namespace SecureStartup.Startup

/-- How start-up ends: with an exit code, or with a failure that is not reported. -/
inductive Ending where
  | exits (code : Nat)
  | escapes
  deriving DecidableEq, Repr

namespace Ending

/-- **The ending that an outcome leads to**, as the program maps it. -/
def of {α : Type} : Except Failure α → Ending
  | .ok _ => .exits 0
  | .error f => (codeOf? f).elim .escapes .exits

/-- The ending of a failure; what succeeds goes on. -/
def of? {α : Type} (r : Except Failure α) : Option Ending :=
  match r with
  | .error _ => some (of r)
  | .ok _ => none

theorem of_eq_of? {α : Type} (r : Except Failure α) : of r = (of? r).getD (.exits 0) := by
  rcases r with f | a <;> rfl

theorem ok_of_of? {r : Except Failure Unit} (h : of? r = none) : r = .ok () := by
  rcases r with f | u
  · exact nomatch h
  · rfl

variable {α : Type} {f : Failure}

/-! ## Family by family -/

theorem of_setup (issue : SetupIssue) (cause : Option Failure) :
    of (.error (.setup issue cause) : Except Failure α) =
      .exits issue.kind.category.exitCode := rfl

theorem of_system (hf : f.isSystem = true) : of (.error f : Except Failure α) = .exits 74 := by
  cases f with
  | refused _ _ | system _ _ | sameFile _ _ => rfl
  | setup _ _ | invalid _ | mismatch _ | malformed | endless | linkLoop _ | foreign _ _ _ _
  | unspoken _ _ _ _ | exit _ => exact nomatch hf

theorem isSystem_of_isInvalid (hf : f.isInvalid = true) : f.isSystem = false := by
  cases f with
  | invalid _ | foreign _ _ _ _ | unspoken _ _ _ _ => rfl
  | setup _ _ | refused _ _ | system _ _ | sameFile _ _ | mismatch _ | malformed | endless
  | linkLoop _ | exit _ => exact nomatch hf

theorem of_invalid (hf : f.isInvalid = true) : of (.error f : Except Failure α) = .exits 78 := by
  have hsetup : f.isSetup = false := by
    cases f with
    | setup _ _ => exact nomatch hf
    | _ => rfl
  have hcode : codeOf? f = some badConfiguration := by
    unfold codeOf?
    rw [hsetup, isSystem_of_isInvalid hf, if_neg nofun, if_pos hf]
  show (codeOf? f).elim escapes exits = _
  rw [hcode]
  rfl

/-- A plain failure is no issue of the set-up. -/
theorem isSetup_of_plain (hf : f.Plain) : f.isSetup = false := by
  cases f with
  | setup issue cause => exact absurd hf (by rintro (h | h) <;> exact nomatch h)
  | _ => rfl

/-- A plain failure: input and output, or a bad configuration. -/
theorem of_plain (hf : f.Plain) :
    of (.error f : Except Failure α) = .exits (if f.isSystem then 74 else 78) := by
  by_cases hs : f.isSystem = true
  · rw [if_pos hs, of_system hs]
  · rw [if_neg hs, of_invalid (hf.resolve_left hs)]

/-- Every failure but an issue of the set-up: one that is neither the system's nor about a value that
    is wrong is not reported. -/
theorem of_not_isSetup (hf : f.isSetup = false) :
    of (.error f : Except Failure α) =
      if f.isSystem then .exits 74 else if f.isInvalid then .exits 78 else .escapes := by
  by_cases hs : f.isSystem = true
  · rw [if_pos hs, of_system hs]
  · rw [if_neg hs]
    by_cases hi : f.isInvalid = true
    · rw [if_pos hi, of_invalid hi]
    · have hnone : codeOf? f = none := by
        unfold codeOf?
        rw [hf, Bool.eq_false_iff.mpr hs, if_neg nofun, if_neg hi]
      rw [if_neg hi]
      show (codeOf? f).elim escapes exits = _
      rw [hnone]
      rfl

theorem codeOf?_ne_zero (f : Failure) : codeOf? f ≠ some 0 := by
  have hcategory : ∀ c : Category, c.exitCode ≠ 0 := by
    intro c
    cases c <;> decide
  unfold codeOf?
  split
  · exact fun h => hcategory f.category (Option.some.inj h)
  · split
    · exact fun h => hcategory .badConfiguration (Option.some.inj h)
    · exact nofun

/-- **Nothing but success has the code 0.** -/
theorem of_eq_zero {r : Except Failure α} : of r = .exits 0 ↔ ∃ a, r = .ok a := by
  rcases r with f | a
  · refine ⟨fun h => ?_, nofun⟩
    change (codeOf? f).elim escapes exits = _ at h
    rcases hcode : codeOf? f with _ | code <;> rw [hcode] at h
    · exact nomatch h
    · cases h
      exact absurd hcode (codeOf?_ne_zero f)
  · exact ⟨fun _ => ⟨a, rfl⟩, fun _ => rfl⟩

end Ending

/-! ## The program ends so -/

theorem on_attempt {α : Type} (act : Act α) (h : Host) :
    (attempt act).on h = (.ok (act.on h).1, (act.on h).2) := by
  unfold attempt
  rw [Act.on_tryCatch, Act.on_map]
  rcases act.on h with ⟨f | a, h'⟩ <;> rfl

/-- **The exit code of the program** is the one that the outcome of resolving leads to, on the host on
    which logging was set up. -/
theorem finish_exits {r : Request} {c : AppConfig} {provider : Option IdentityProvider}
    {clients : Store.Clients} {h h' : Host} {n : Nat}
    (hf : (finish r c provider clients).on h = (.ok n, h')) :
    ∃ h₁, (setUpLogging r c).on h = (.ok ⟨⟩, h₁) ∧
      Ending.of ((resolve c (!r.validateOnly) (provider.elim (providerOf c) .ok) clients).on h₁).1 =
        .exits n := by
  unfold finish at hf
  obtain ⟨_, h₁, hset, hf⟩ := Act.on_bind_eq_ok hf
  refine ⟨h₁, hset, ?_⟩
  obtain ⟨result, h₂, hresult, hf⟩ := Act.on_bind_eq_ok hf
  rw [on_attempt] at hresult
  rw [Except.ok.inj (congrArg Prod.fst hresult)]
  rcases result with f | o
  · simp only at hf
    show (codeOf? f).elim Ending.escapes Ending.exits = _
    rcases hcode : codeOf? f with _ | code <;> rw [hcode] at hf
    · exact nomatch hf
    · obtain ⟨_, _, _, hf⟩ := Act.on_bind_eq_ok hf
      obtain ⟨_, _, _, hf⟩ := Act.on_bind_eq_ok hf
      cases hf
      rfl
  · obtain ⟨_, _, _, hf⟩ := Act.on_bind_eq_ok hf
    cases hf
    rfl

end SecureStartup.Startup
