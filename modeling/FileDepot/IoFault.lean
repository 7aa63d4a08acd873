/-!
# Faults of the operating system

The reasons for which reading, writing or naming a file can fail.  A fault is
either one of the numbered faults of the system or a report of its own kind
and text.
-/

namespace FileDepot

/-- The class of a fault, by which callers tell faults apart. -/
inductive IoKind
  | notFound
  | alreadyExists
  | wouldBlock
  | interrupted
  | connectionReset
  | brokenPipe
  | addressInUse
  | notADirectory
  | isADirectory
  | invalidFilename
  | invalidInput
  | invalidData
  | unexpectedEnd
  | writeZero
  | uncategorized
  | other
  deriving DecidableEq, Repr

/-- The name of a kind in a diagnostic. -/
def IoKind.name : IoKind → String
  | notFound => "NotFound"
  | alreadyExists => "AlreadyExists"
  | wouldBlock => "WouldBlock"
  | interrupted => "Interrupted"
  | connectionReset => "ConnectionReset"
  | brokenPipe => "BrokenPipe"
  | addressInUse => "AddrInUse"
  | notADirectory => "NotADirectory"
  | isADirectory => "IsADirectory"
  | invalidFilename => "InvalidFilename"
  | invalidInput => "InvalidInput"
  | invalidData => "InvalidData"
  | unexpectedEnd => "UnexpectedEof"
  | writeZero => "WriteZero"
  | uncategorized => "Uncategorized"
  | other => "Other"

/-- A numbered fault of the system. -/
inductive SystemFault
  | noEntry
  | noDevice
  | tryAgain
  | entryExists
  | notADirectory
  | isADirectory
  | brokenPipe
  | nameTooLong
  | addressInUse
  | connectionReset
  deriving DecidableEq, Repr

namespace SystemFault

def number : SystemFault → Nat
  | noEntry => 2
  | noDevice => 6
  | tryAgain => 11
  | entryExists => 17
  | notADirectory => 20
  | isADirectory => 21
  | brokenPipe => 32
  | nameTooLong => 36
  | addressInUse => 98
  | connectionReset => 104

/-- What the system says about a fault. -/
def description : SystemFault → String
  | noEntry => "No such file or directory"
  | noDevice => "No such device or address"
  | tryAgain => "Resource temporarily unavailable"
  | entryExists => "File exists"
  | notADirectory => "Not a directory"
  | isADirectory => "Is a directory"
  | brokenPipe => "Broken pipe"
  | nameTooLong => "File name too long"
  | addressInUse => "Address already in use"
  | connectionReset => "Connection reset by peer"

def kind : SystemFault → IoKind
  | noEntry => .notFound
  | noDevice => .uncategorized
  | tryAgain => .wouldBlock
  | entryExists => .alreadyExists
  | notADirectory => .notADirectory
  | isADirectory => .isADirectory
  | brokenPipe => .brokenPipe
  | nameTooLong => .invalidFilename
  | addressInUse => .addressInUse
  | connectionReset => .connectionReset

end SystemFault

/-- Why an input or output operation failed. -/
inductive IoFault
  /-- A numbered fault of the system. -/
  | system (fault : SystemFault)
  /-- A fault found without asking the system, with its own text. -/
  | reported (kind : IoKind) (text : String)
  deriving DecidableEq, Repr

namespace IoFault

def kind : IoFault → IoKind
  | system fault => fault.kind
  | reported kind _ => kind

def message : IoFault → String
  | system fault => s!"{fault.description} (os error {fault.number})"
  | reported _ text => text

/-- The form of a fault in a diagnostic. -/
def inspect : IoFault → String
  | system fault =>
      s!"Os \x7b code: {fault.number}, kind: {fault.kind.name}, "
        ++ s!"message: \"{fault.description}\" \x7d"
  | reported kind text =>
      s!"Error \x7b kind: {kind.name}, message: \"{text}\" \x7d"

/-- A path with a NUL in it names no file. -/
def nulInName : IoFault :=
  reported .invalidInput "file name contained an unexpected NUL byte"

/-- A socket address with a NUL in it is no path. -/
def nulInAddress : IoFault :=
  reported .invalidInput "paths must not contain interior null bytes"

/-- A socket address holds fewer than 108 bytes. -/
def addressTooLong : IoFault :=
  reported .invalidInput "path must be shorter than SUN_LEN"

/-- A file that should hold text does not. -/
def notText : IoFault :=
  reported .invalidData "stream did not contain valid UTF-8"

/-- A writer was offered bytes and took none. -/
def nothingWritten : IoFault :=
  reported .writeZero "failed to write whole buffer"

end IoFault

end FileDepot
