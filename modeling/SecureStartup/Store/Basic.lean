import SecureStartup.Host.Basic

/-!
  Shared stores (`SharedFileSystem`).

  A shared store can say where the keytab of a cluster lies in it (`build_keytab_path`), and copy what
  lies there to a path on the host (`copy_to_local`).  Everything that fetches a keytab uses these two
  operations only, and so a statement about staging can be made for every pair of them.
-/

namespace SecureStartup

/-- A shared store. -/
structure SharedStore where
  /-- The path of a cluster's keytab inside the store. -/
  build : (keytab cluster : Value) → Act String
  /-- Copy what a path of the store holds to a path of the host; the source may be removed then. -/
  copy : (remote target : String) → (deleteSource : Bool) → Act Unit

/-- Where there is no store, nothing can be asked of it. -/
def SharedStore.absent : SharedStore where
  build _ _ := throw (.mismatch .noPart)
  copy _ _ _ := throw (.mismatch .noPart)

end SecureStartup
