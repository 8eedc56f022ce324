import SecureStartup.Store.Hdfs

/-!
  The clients of HDFS that the command line makes.

  There is no service within reach of this library, so its client can be made but reaches nothing.  The
  rest of the library does not use these definitions; it takes any way of making clients.
-/

namespace SecureStartup.Store

/-- The client that talks to a real service.  There is none within reach here, which the system
    reports. -/
def realClient : HdfsClient where
  name := "InsecureClient"
  download _ _ := throw (.system "ConnectionError" [])
  delete _ := throw (.system "ConnectionError" [])

/-- Make a client for a service: the user that it acts as has to be known. -/
def connect : Clients := fun url user => do
  if !user.truthy then
    match loginUser (← get) with
    | .ok _ => pure ()
    | .error _ => throw (.mismatch (.noKey (.str "getpwuid(): uid not found: 1234")))
  match url with
  | .str _ => return realClient
  | .bytes _ => throw (.mismatch .wrongType)
  | _ => throw (.mismatch .noPart)

end SecureStartup.Store
