import SecureStartup.EnvFile.Statement

/-!
  The variables of an environment file.

  A value may refer to variables, `${NAME}` or `${NAME:-default}`; those of the environment win over
  those of the file.  This is what the library that `main` calls for its `.env` file makes of a text
  (`dotenv_values`); what is done with the variables is said in `EnvFile.Apply`.

  A host has a reader of environment files (`Host.dotenv`), and this one is only its default: nothing
  that is proved about start-up depends on it.
-/

namespace SecureStartup.EnvFile

open SecureStartup.Text

/-- Variables with their values, in the order of the file. -/
abbrev Variables := List (String × Option String)

/-- Set a variable, in its old place if it has one. -/
def assign (vs : Variables) (name : String) (value : Option String) : Variables :=
  if vs.any fun v => v.1 == name then vs.map fun v => if v.1 == name then (name, value) else v
  else vs ++ [(name, value)]

/-- A reference at the beginning of a text: its name, its default, and what follows it. -/
def reference? : List Char → Option (List Char × List Char × List Char)
  | '$' :: '{' :: r =>
    let name := r.takeWhile fun c => c != '}' && c != ':'
    match r.drop name.length with
    | '}' :: rest => some (name, [], rest)
    | ':' :: '-' :: r' =>
      let fallback := r'.takeWhile (· != '}')
      match r'.drop fallback.length with
      | _ :: rest => some (name, fallback, rest)
      | [] => none
    | _ => none
  | _ => none

/-- A text with its references replaced, fuel being its length. -/
def interpolate (env : String → Option String) : Nat → List Char → List Char
  | 0, s => s
  | _ + 1, [] => []
  | fuel + 1, c :: r =>
    match reference? (c :: r) with
    | some (name, fallback, rest) =>
      let v := ((env (String.ofList name)).map String.toList).getD fallback
      v ++ interpolate env fuel rest
    | none => c :: interpolate env fuel r

/-- What a reference finds: the environment first, then the file so far. -/
def lookUp (env : String → Option String) (vs : Variables) (name : String) : Option String :=
  match env name with
  | some v => some v
  | none => (vs.find? fun v => v.1 == name).map fun v => v.2.getD ""

/-- The variables of a file. -/
def variablesOf (env : String → Option String) (sts : List Statement) : Variables :=
  sts.foldl (fun vs st =>
    match st with
    | .binding name value =>
      assign vs name (value.map fun s =>
        String.ofList (interpolate (lookUp env vs) (s.length + 1) s.toList))
    | _ => vs) []

/-- The line of a statement that is none. -/
def Statement.unreadable? : Statement → Option Nat
  | .unreadable line => some line
  | _ => none

/-- **What a text says**: the lines that are no statements, and the variables. -/
def readVariables (env : String → Option String) (text : String) : List Nat × Variables :=
  let sts := read text
  (sts.filterMap Statement.unreadable?, variablesOf env sts)

end SecureStartup.EnvFile
