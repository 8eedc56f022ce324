import SecureStartup.Store.Hdfs

/-!
  Stores whose answers are prepared.

  They stand in for stores that are out of reach: every request is recorded as an event, and then
  answered as it was prepared, by a failure or by a file of known content.  A test of the program has
  the same two stand-ins, for a whole store and for a client of HDFS under a store.
-/

namespace SecureStartup.Store

/-- What a prepared store does. -/
structure Prepared where
  base : String := "/shared"
  /-- The path to answer with, instead of one in the usual layout. -/
  path : Option String := none
  content : String := "keytab"
  buildFailure : Option Failure := none
  copyFailure : Option Failure := none
  /-- Whether a copy leaves no file behind. -/
  writesNothing : Bool := false

/-- Write a file on the host. -/
def writeFile (path content : String) : Act Unit := do
  let h ← get
  Act.changeDisk path fun d cwd => d.write (h.granted 0o666) cwd path content

/-- Fail if a failure is prepared. -/
def failIf (f : Option Failure) : Act Unit :=
  match f with
  | some f => throw f
  | none => return ()

/-- A prepared store by its two operations. -/
def Prepared.shared (s : Prepared) : SharedStore where
  build keytab cluster := do
    Act.note (.build keytab cluster)
    failIf s.buildFailure
    return s.path.getD s!"{s.base}/cluster/{cluster.text}/keytabs/{keytab.text}"
  copy remote target deleteSource := do
    Act.note (.copy remote target deleteSource)
    failIf s.copyFailure
    if !s.writesNothing then writeFile target s.content

/-- A client of HDFS with prepared answers. -/
def preparedClient (content : String) (downloadFailure deleteFailure : Option Failure) :
    HdfsClient where
  name := "FakeHdfs"
  download remote target := do
    Act.note (.download remote target false)
    failIf downloadFailure
    writeFile target content
  delete remote := do
    Act.note (.delete remote)
    failIf deleteFailure

end SecureStartup.Store
