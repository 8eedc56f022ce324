import SecureStartup.CommandLine.Options
import SecureStartup.Host.Basic

/-!
  Reading a command line on a host: wrong arguments and requests for help end the program.

  Wrong arguments are complained about on the error stream, with the usage in front, and the exit code
  is 2; help is an output like any other, and the code is 0.
-/

namespace SecureStartup.CommandLine

/-- One line that says how a program is used. -/
def usageLine (program : String) (specs : List Spec) : String :=
  let shown := specs.map fun s =>
    let name := s.names.head?.getD ""
    if s.takes.hasValue then s!"[{name} VALUE]" else s!"[{name}]"
  s!"usage: {program} " ++ " ".intercalate shown

/-- The fields that a command line sets.  Help goes to standard output and ends the program well;
    wrong arguments are reported on the error stream. -/
def readOn (program : String) (specs : List Spec) (argv : List String) :
    Act (List (String × Value)) := do
  match read specs argv with
  | .ok fields => return fields
  | .error .help => do
    Act.printLine (usageLine program specs)
    throw (.exit 0)
  | .error .wrong => do
    Act.printErrorLine (usageLine program specs)
    Act.printErrorLine s!"{program}: error: wrong arguments"
    throw (.exit 2)

end SecureStartup.CommandLine
