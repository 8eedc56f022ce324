import SecureStartup.Failure.Basic
import SecureStartup.Path.Basic

/-!
  The layout of a shared store (`build_keytab_path`).

  The keytab of a cluster lies at `base/cluster/NAME/keytabs/KEYTAB`.  Both names are checked before
  they go into a path (`checkName`, which is `validate_keytab_name`): they are not empty, not absolute,
  and no part of them is `..`, so a name cannot address anything outside its cluster's directory.

  A name may have several parts.  Slashes and backslashes separate them for the check (`nameParts`), but
  the path is put together from the names as they are, and there a backslash is an ordinary character.
-/

namespace SecureStartup.Store

open SecureStartup.Text

/-- The parts of a name: slashes and backslashes separate them. -/
def nameParts (name : List Char) : List (List Char) :=
  splitWhere (fun c => c == '/' || c == '\\') name

/-- Check a name that is a text.  `what` is what the message calls it. -/
def checkText (what name : String) : Except Failure Unit :=
  if name == "" then .error (.invalid (.emptyName what))
  else if startsWith ['/'] name.toList then .error (.invalid (.absoluteName what name))
  else if (nameParts name.toList).contains ['.', '.'] then
    .error (.invalid (.climbingName what name))
  else .ok ()

/-- **Check a name**: nothing given is an empty name, and only texts can be names. -/
def checkName (what : String) (name : Value) : Except Failure Unit :=
  match name with
  | .str s => checkText what s
  | .bytes bs =>
    if bs.isEmpty then .error (.invalid (.emptyName what)) else .error (.mismatch .wrongType)
  | v => if v.truthy then .error (.mismatch .noPart) else .error (.invalid (.emptyName what))

/-- A base without the slashes at its end; nothing but slashes is the root. -/
def trimBase (base : List Char) : List Char :=
  match (base.reverse.dropWhile (· == '/')).reverse with
  | [] => ['/']
  | r => r

/-- The path of a keytab, for names that have been checked. -/
def layoutPath (base cluster keytab : List Char) : List Char :=
  [['c', 'l', 'u', 's', 't', 'e', 'r'], cluster, ['k', 'e', 'y', 't', 'a', 'b', 's'], keytab].foldl
    appendPath (trimBase base)

/-- **The path of a cluster's keytab** below a base. -/
def keytabPath (base cluster keytab : Value) : Except Failure String := do
  checkName "cluster name" cluster
  checkName "keytab name" keytab
  match base, cluster, keytab with
  | .str b, .str c, .str k => return String.ofList (layoutPath b.toList c.toList k.toList)
  | .bytes _, _, _ => throw (.mismatch .wrongType)
  | _, _, _ => throw (.mismatch .noPart)

end SecureStartup.Store
