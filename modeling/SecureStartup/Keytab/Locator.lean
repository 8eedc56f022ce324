import SecureStartup.Keytab.Source
import SecureStartup.Keytab.Stager

/-!
  Turning a keytab's source into a file on the host (`KeytabLocator.get_keytab_file`).

  A keytab on the host is answered by its path, without a look at the disk; a shared keytab is staged,
  and the answer is the staged copy.  Before either happens the log says which way is taken.
-/

namespace SecureStartup

/-- **The keytab file of a source**: a file on the host as it is, a shared keytab staged.  The
    principal only goes into the log. -/
def KeytabSource.file (source : KeytabSource) (stager : KeytabStager) (store : SharedStore)
    (cluster : Value) (principal : String) : Act String := do
  match source with
  | .onHost path =>
    Act.log KeytabStager.logger Log.info
      s!"Leveraging host keytab file {path} to login principal {principal}"
      [("keytab_source", .str "local"), ("keytab_path", .str path), ("principal", .str principal)]
    return normalPath path
  | .shared name =>
    Act.log KeytabStager.logger Log.info
      (s!"No host keytab file path specified. Downloading keytab {name} from the shared "
        ++ s!"filesystem to login principal {principal}")
      [("keytab_source", .str "remote"), ("keytab_name", .str name), ("principal", .str principal)]
    stager.fetch store (.str name) cluster

end SecureStartup
