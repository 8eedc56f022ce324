import SecureStartup.Config.Load
import SecureStartup.Disk.Placement

/-!
  The configuration that the whole program shares (`get_config`, `set_config`, `reset_config`).

  It is loaded when it is first asked for and then stays, whatever happens to the file and the
  environment, until it is replaced or reset.  A load on the side does not touch it, and a load that
  fails leaves it as it was.

  `Step` has these three operations, the load on the side (`load_config`), and the two ways in which
  the world can change between them: another environment, and something put on the disk.  What is held
  is an argument and a result of `step`, so that a session is a recursion over its steps and what a
  step does to the shared configuration can be read off its type.
-/

namespace SecureStartup.Config

/-- What can happen to the shared configuration and around it. -/
inductive Step where
  /-- Ask for the shared configuration. -/
  | get
  /-- Load a configuration on the side. -/
  | load (given overrides : Value)
  /-- Replace the shared configuration. -/
  | set (c : AppConfig)
  /-- Forget the shared configuration. -/
  | reset
  /-- Replace the environment. -/
  | environment (env : List (String × String))
  /-- Put something on the disk. -/
  | place (p : Placement)

/-- One step from the shared configuration that is held, if any: the configuration that it answers,
    if any, and the one that is held afterwards. -/
def step (held : Option AppConfig) : Step → Act (Option AppConfig × Option AppConfig)
  | .get =>
    match held with
    | some c => return (some c, held)
    | none => do
      let c ← load .none .none
      return (some c, some c)
  | .load given overrides => do return (some (← load given overrides), held)
  | .set c => return (none, some c)
  | .reset => return (none, none)
  | .environment env => do
    modify fun h => { h with env := env }
    return (none, held)
  | .place p => do
    let h ← get
    Act.changeDisk "" fun d cwd => d.place h.withheld cwd p
    return (none, held)

/-- **A session**: the answers of its steps in order.  After a step that fails the session goes on
    with what was held before it. -/
def session : Option AppConfig → List Step → Host → List (Except Failure (Option AppConfig)) × Host
  | _, [], h => ([], h)
  | held, s :: steps, h =>
    match (step held s).on h with
    | (.ok (answer, held), h) =>
      let (answers, h) := session held steps h
      (.ok answer :: answers, h)
    | (.error f, h) =>
      let (answers, h) := session held steps h
      (.error f :: answers, h)

end SecureStartup.Config
