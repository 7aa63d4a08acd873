/-!
# Status codes

The ten outcomes that a response can carry, with their codes and phrases.
-/

namespace FileDepot

/-- How a request, or a wait for a lock, ended. -/
inductive Status
  | success
  | internalError
  | badRequest
  | notFound
  | unauthorized
  | missingBody
  | fileTooBig
  | filesExpelled
  | fileExists
  | lockPending
  deriving DecidableEq, Repr

namespace Status

/-- Every status, in the order of the codes. -/
def all : List Status :=
  [success, internalError, badRequest, notFound, unauthorized, missingBody,
    fileTooBig, filesExpelled, fileExists, lockPending]

/-- The code of a status in a frame. -/
def code : Status → UInt32
  | success => 0
  | internalError => 1
  | badRequest => 2
  | notFound => 3
  | unauthorized => 4
  | missingBody => 5
  | fileTooBig => 6
  | filesExpelled => 7
  | fileExists => 8
  | lockPending => 9

def ofCode? (code : UInt32) : Option Status :=
  all.find? fun status => status.code == code

/-- The phrase that accompanies a status. -/
def message : Status → String
  | success => "success"
  | internalError => "internal server error"
  | badRequest => "bad request"
  | notFound => "file not found"
  | unauthorized => "unauthorized"
  | missingBody => "missing body"
  | fileTooBig => "file too big"
  | filesExpelled => "files expelled"
  | fileExists => "file already exists"
  | lockPending => "lock pending"

/-- Whether the request did what was asked. -/
def isSuccess : Status → Bool
  | success => true
  | _ => false

theorem ofCode?_code (status : Status) :
    ofCode? status.code = some status := by
  cases status <;> decide

theorem code_of_ofCode? {code : UInt32} {status : Status}
    (found : ofCode? code = some status) : status.code = code := by
  simpa using List.find?_some found

end Status

end FileDepot
