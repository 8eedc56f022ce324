import SecureStartup.Failure.Basic

/-!
  The exit code of a failed start-up (`classify_exception`, `exit_code_for`).

  Each category of failures has one code, so that a supervisor can tell a wrong configuration (78)
  from a broken environment (70), failed staging (73) and failed input or output (74); what belongs to
  none of them has 1.

  `category` is about any failure, `ownCategory?` about the attribute that a failure itself may have:
  log lines show the latter (`categoryWord?`), and a failure of another program may have one that is no
  category of this one.
-/

namespace SecureStartup

/-- The process exit code of a category. -/
def Category.exitCode : Category → Nat
  | badConfiguration => 78
  | badState => 70
  | staging => 73
  | io => 74
  | unknown => 1

namespace Failure

/-- The category of a failure: its own for a set-up failure, input and output for the system's. -/
def category : Failure → Category
  | setup issue _ => issue.kind.category
  | f => if f.isSystem then .io else .unknown

/-- **The exit code** that start-up ends with. -/
def exitCode (f : Failure) : Nat := f.category.exitCode

/-- Whether changing the configuration mends the failure. -/
def isConfigurationError (f : Failure) : Bool := f.category == .badConfiguration

/-- The category that a failure itself carries, if it carries one. -/
def ownCategory? : Failure → Option Value
  | setup issue _ => some (.category issue.kind.category)
  | foreign _ _ category _ | unspoken _ _ category _ => category
  | _ => none

/-- The word for the category that a failure itself carries: a category's own word, or else the text of
    what stands in its place, if that can be written. -/
def categoryWord? (f : Failure) : Except Failure (Option String) :=
  match f.ownCategory? with
  | none => .ok none
  | some (.category c) => .ok (some c.word)
  | some v => some <$> v.written

end Failure

/-- Different categories have different codes. -/
theorem Category.exitCode_injective {a b : Category} (h : a.exitCode = b.exitCode) : a = b := by
  cases a <;> cases b <;> simp_all [Category.exitCode]

end SecureStartup
