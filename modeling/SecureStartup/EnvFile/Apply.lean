import SecureStartup.Config.Load

/-!
  Taking the variables of an environment file into the environment (`load_dotenv`).

  What the text of the file says is the host's reader's to say (`Host.dotenv`).  A variable that the
  environment has already is left as it is, so the file gives defaults and overrides nothing.  Lines that
  the reader could not read are warned of; a variable that the system cannot be given, in its name or in
  its value, ends the program (`obstacle?`).
-/

namespace SecureStartup.EnvFile

open SecureStartup.Text

/-- Add the variables that the environment does not have. -/
def addTo (env : List (String × String)) (vs : Variables) : List (String × String) :=
  vs.foldl (fun env v =>
    match v.2 with
    | some value => if env.any fun e => e.1 == v.1 then env else env ++ [(v.1, value)]
    | none => env) env

/-- Say which lines are no statements. -/
def warn (lines : List Nat) : Act Unit :=
  lines.forM fun line =>
    Act.log "dotenv.main" Log.warning
      s!"python-dotenv could not parse statement starting at line {line}" []

/-- Why a variable cannot be in an environment: a zero byte anywhere, or an equals sign in its name. -/
def obstacle? (v : String × Option String) : Option Invalid := do
  let value ← v.2
  if let some why := (Invalid.forSystem? v.1).orElse fun _ => Invalid.forSystem? value then return why
  if v.1.toList.contains '=' then return .other "illegal environment variable name"
  none

/-- **Take over the variables of the host's environment file**, if there is one. -/
def apply : Act Unit := do
  let h ← get
  let path := h.envFile
  if h.disk.isFile h.workDir path then
    let text ← Act.onDisk path fun d cwd => d.read cwd path
    let (unreadable, vs) := h.dotenv h.env? (String.ofList (Config.unifyBreaks text.toList))
    warn unreadable
    let known := fun (v : String × Option String) => (h.env? v.1).isSome
    let before := vs.takeWhile fun v => known v || (obstacle? v).isNone
    modify fun h => { h with env := addTo h.env before }
    if let some fault := (vs[before.length]?).bind obstacle? then throw (.invalid fault)

end SecureStartup.EnvFile
