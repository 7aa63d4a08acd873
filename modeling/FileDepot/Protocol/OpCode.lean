/-!
# Operation codes

The ten operations that a client can ask for, and the numbers by which a
request frame names them.
-/

namespace FileDepot

inductive OpCode
  | openConnection
  | closeConnection
  | openFile
  | closeFile
  | writeFile
  | readFile
  | readNFiles
  | removeFile
  | lockFile
  | unlockFile
  deriving DecidableEq, Repr

namespace OpCode

/-- Every operation, in the order of the codes. -/
def all : List OpCode :=
  [openConnection, closeConnection, openFile, closeFile, writeFile,
    readFile, readNFiles, removeFile, lockFile, unlockFile]

/-- The code of an operation in a frame. -/
def code : OpCode → UInt32
  | openConnection => 1
  | closeConnection => 2
  | openFile => 3
  | closeFile => 4
  | writeFile => 5
  | readFile => 6
  | readNFiles => 7
  | removeFile => 8
  | lockFile => 9
  | unlockFile => 10

/-- The operation with the given code. -/
def ofCode? (code : UInt32) : Option OpCode :=
  all.find? fun operation => operation.code == code

/-- The name under which an operation is reported. -/
def name : OpCode → String
  | openConnection => "OPEN_CONNECTION"
  | closeConnection => "CLOSE_CONNECTION"
  | openFile => "OPEN_FILE"
  | closeFile => "CLOSE_FILE"
  | writeFile => "WRITE_FILE"
  | readFile => "READ_FILE"
  | readNFiles => "READ_N_FILES"
  | removeFile => "REMOVE_FILE"
  | lockFile => "LOCK_FILE"
  | unlockFile => "UNLOCK_FILE"

/-- Whether the path of the request names a file. -/
def targetsFile : OpCode → Bool
  | openConnection | closeConnection | readNFiles => false
  | _ => true

theorem ofCode?_code (operation : OpCode) :
    ofCode? operation.code = some operation := by
  cases operation <;> decide

theorem code_of_ofCode? {code : UInt32} {operation : OpCode}
    (found : ofCode? code = some operation) : operation.code = code := by
  simpa using List.find?_some found

end OpCode

end FileDepot
