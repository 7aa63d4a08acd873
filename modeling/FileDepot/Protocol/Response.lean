import FileDepot.Bytes
import FileDepot.Error

/-!
# Responses

A response carries a status, the path that it is about, and content.  One
request may be answered by several responses.
-/

namespace FileDepot

structure Response where
  status : Status
  path : String := ""
  body : Bytes := []
  deriving DecidableEq, Repr

/-- The response that tells a client of an error about `path`. -/
def Response.ofError (error : Error) (path : String) : Response where
  status := error.status
  path := path

end FileDepot
