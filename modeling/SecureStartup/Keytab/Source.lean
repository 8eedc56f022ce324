import SecureStartup.Config.Merge
import SecureStartup.Security.Keys

/-!
  Where a keytab comes from (`resolve_keytab_source`).

  There are exactly two ways: the keytab is a file on the host already (`LocalKeytab`), or it is fetched
  by name from the shared store (`RemoteKeytab`).  Settings have to choose one of them; neither and both
  are wrong, and are told apart in what is reported.  What is chosen is the TEXT of a setting: numbers
  and truth values have one too, but a whole number of too many digits has none, and is refused.
-/

namespace SecureStartup

open SecureStartup.Config SecureStartup.Security

/-- A way to a keytab. -/
inductive KeytabSource where
  /-- A file on the host. -/
  | onHost (path : String)
  /-- A keytab in the shared store. -/
  | shared (name : String)
  deriving DecidableEq, Inhabited, Repr

namespace KeytabSource

/-- The words an operator reads. -/
def describe : KeytabSource → String
  | onHost path => s!"host keytab {path}"
  | shared name => s!"shared keytab {name}"

/-- The name of the way. -/
def kind : KeytabSource → String
  | onHost _ => "LocalKeytab"
  | shared _ => "RemoteKeytab"

/-- The path or the name. -/
def value : KeytabSource → String
  | onHost path => path
  | shared name => name

/-- **The way that settings choose.** -/
def ofSettings (settings : Value) : Except Failure KeytabSource := do
  let path ← fieldOf settings localKeytabKey
  let name ← fieldOf settings sharedKeytabKey
  match isSet path, isSet name with
  | false, false => throw (.setup .noKeytab none)
  | true, true => throw (.setup .twoKeytabs none)
  | true, false => return .onHost (← path.written)
  | false, true => return .shared (← name.written)

end KeytabSource

end SecureStartup
