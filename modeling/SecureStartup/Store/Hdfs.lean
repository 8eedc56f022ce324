import SecureStartup.Identity.Basic
import SecureStartup.Store.Basic
import SecureStartup.Store.Layout

/-!
  A shared store in HDFS, reached over WebHDFS (`WebHdfsFileSystem`).

  The store is a thin layer over a client that downloads and deletes.  What the client itself
  reports as an HDFS failure becomes a system failure (`reported`), so that callers treat every store
  alike; anything else passes through.  The message names the URL as it was given, with whatever stands
  in it.

  The client is not part of this library: what it does, and how one is made (`Clients`), is handed in
  from outside, so that everything that is said of the store holds for any client.  Making one can fail
  too, and that failure is nobody's: the constructor does not look at it.
-/

namespace SecureStartup.Store

/-- A client of HDFS: its name and what it can do. -/
structure HdfsClient where
  name : String
  /-- Download a file to a path of the host, never over one that is there. -/
  download : (remote target : String) → Act Unit
  delete : (remote : String) → Act Unit

/-- A store in HDFS. -/
structure HdfsStore where
  url : Value
  user : Value
  base : Value
  client : HdfsClient

/-- The root of the keytabs in the user's home directory. -/
def defaultBase : String := ".amsecurity"

/-- Whether a failure is the client's own. -/
def isClientFailure : Failure → Bool
  | .foreign "HdfsError" _ _ _ | .unspoken "HdfsError" _ _ _ => true
  | _ => false

/-- Report a failure of the client as a system failure. -/
def reported (what remote : String) (url : Value) (act : Act Unit) : Act Unit :=
  tryCatch act fun f => do
    if isClientFailure f then
      let place ← Act.ofExcept url.written
      let why ← Act.ofExcept (f.text (← get).words)
      throw (.systemText "OSError" s!"Unable to {what} {remote} from {place}: {why}")
    else throw f

/-- How clients are made, for a service and the user that they act as. -/
abbrev Clients := (url user : Value) → Act HdfsClient

namespace HdfsStore

/-- How a store is shown. -/
def shown (s : HdfsStore) : String :=
  s!"WebHdfsFileSystem(url={s.url.shown}, user={s.user.shown}, base_path={s.base.shown})"

/-- **Copy a file of the store** to a path of the host. -/
def copy (s : HdfsStore) (remote target : String) (deleteSource : Bool) : Act Unit := do
  reported "copy" remote s.url (s.client.download remote target)
  Act.log "core.storage.webhdfs" Log.debug "Downloaded file from WebHDFS"
    [("remote_path", .str remote), ("keytab_path", .str target), ("shared_fs", .str "webhdfs"),
     ("shared_fs_url", s.url)]
  if deleteSource then
    reported "delete" remote s.url (s.client.delete remote)

/-- The store by its two operations. -/
def shared (s : HdfsStore) : SharedStore where
  build keytab cluster := Act.ofExcept (keytabPath s.base cluster keytab)
  copy := s.copy

end HdfsStore

end SecureStartup.Store
