import FileDepot.Store.Limits
import FileDepot.Text.Terminal

/-!
# The command line

The options of the server, in a long form and some in a short one, each with a
value.  A value can be attached to its option or be the next argument; in the
latter case it is looked at only when the next option comes or the arguments
end, so that an argument nobody expects is complained of first.
-/

namespace FileDepot

inductive Flag
  | config
  | socket
  | workers
  | maxFiles
  | maxBytes
  | evictOn
  deriving DecidableEq, Repr

namespace Flag

def all : List Flag := [config, socket, workers, maxFiles, maxBytes, evictOn]

/-- The long form of an option, without the dashes. -/
def long : Flag → String
  | config => "config"
  | socket => "socket"
  | workers => "workers"
  | maxFiles => "max-files"
  | maxBytes => "max-bytes"
  | evictOn => "evict-on"

/-- The short form of an option, if it has one. -/
def short? : Flag → Option Char
  | config => some 'c'
  | socket => some 's'
  | workers => some 'w'
  | _ => none

def placeholder : Flag → String
  | config => "CONFIG"
  | socket => "SOCKET"
  | workers => "WORKERS"
  | maxFiles => "MAX_FILES"
  | maxBytes => "MAX_BYTES"
  | evictOn => "EVICT_ON"

/-- An option with its value, as messages name it. -/
def usage (flag : Flag) : String :=
  s!"--{flag.long} <{flag.placeholder}>"

def purpose : Flag → String
  | config => "TOML config file; command-line flags override its values"
  | socket => "Path of the listening socket"
  | workers => "Number of worker threads"
  | maxFiles => "Maximum number of stored files"
  | maxBytes => "Maximum total size of stored files, in bytes"
  | evictOn => "Which limit evicts: file_count, byte_size or both"

end Flag

/-- What is wrong with a command line. -/
inductive UsageError
  /-- An argument that nobody expects. -/
  | unexpected (argument : String)
  /-- A value for the option that asks for help. -/
  | helpWithValue (value : String)
  | missingValue (flag : Flag)
  | repeated (flag : Flag)
  | invalidValue (flag : Flag) (value reason : String)
  deriving DecidableEq, Repr

namespace UsageError

/-- The wording of what is wrong with a command line.  What the user wrote is
highlighted. -/
def message : UsageError → String
  | unexpected argument =>
      s!"unexpected argument '{Text.highlighted argument}' found"
  | helpWithValue value =>
      s!"unexpected value '{Text.highlighted value}' for '--help' found; "
        ++ "no more were expected"
  | missingValue flag =>
      s!"a value is required for '{flag.usage}' but none was supplied"
  | repeated flag =>
      s!"the argument '{flag.usage}' cannot be used multiple times"
  | invalidValue flag value reason =>
      s!"invalid value '{Text.highlighted value}' for '{flag.usage}': {reason}"

/-- What the user is told of a wrong command line. -/
def report (error : UsageError) : String :=
  Text.plain ("error: " ++ error.message
    ++ "\n\nFor more information, try '" ++ Text.highlighted "--help" ++ "'.\n")

end UsageError

structure CommandLine where
  config : Option String := none
  socket : Option String := none
  workers : Option Nat := none
  maxFiles : Option Nat := none
  maxBytes : Option Nat := none
  evictOn : Option EvictionPolicy := none
  deriving DecidableEq, Repr

inductive Invocation
  | help
  | serve (line : CommandLine)
  deriving DecidableEq, Repr

namespace CommandLine

/-- Reads the digits of a count from the left, or says why they are none.  A
count fits 64 bits. -/
def readDigits : List Char → Nat → Except String Nat
  | [], number => .ok number
  | char :: rest, number =>
      if ¬ char.isDigit then .error "invalid digit found in string"
      else
        let next := 10 * number + (char.toNat - '0'.toNat)
        if UInt64.size ≤ next then
          .error "number too large to fit in target type"
        else
          readDigits rest next

/-- Reads a count, which can have a plus sign. -/
def readCount (value : String) : Except String Nat :=
  match value.toList with
  | [] => .error "cannot parse integer from empty string"
  | '+' :: first :: rest => readDigits (first :: rest) 0
  | chars => readDigits chars 0

def readPolicy (value : String) : Except String EvictionPolicy :=
  match EvictionPolicy.ofKeyword? value with
  | some policy => .ok policy
  | none => .error (EvictionPolicy.unknownKeyword value)

/-- Whether an option has its value already. -/
def has (line : CommandLine) : Flag → Bool
  | .config => line.config.isSome
  | .socket => line.socket.isSome
  | .workers => line.workers.isSome
  | .maxFiles => line.maxFiles.isSome
  | .maxBytes => line.maxBytes.isSome
  | .evictOn => line.evictOn.isSome

/-- Reads the value of an option and takes it over. -/
def set (line : CommandLine) (flag : Flag) (value : String) :
    Except UsageError CommandLine :=
  if line.has flag then
    .error (.repeated flag)
  else
    let path : Except UsageError String :=
      if value.isEmpty then .error (.missingValue flag) else .ok value
    let invalid := UsageError.invalidValue flag value
    let count := (readCount value).mapError invalid
    match flag with
    | .config => path.map fun config => { line with config }
    | .socket => path.map fun socket => { line with socket }
    | .workers => count.map fun workers => { line with workers }
    | .maxFiles => count.map fun maxFiles => { line with maxFiles }
    | .maxBytes => count.map fun maxBytes => { line with maxBytes }
    | .evictOn =>
        ((readPolicy value).mapError invalid).map fun evictOn =>
          { line with evictOn }

/-- What an argument is by its form. -/
inductive Argument
  | option (flag : Flag) (attached : Option String)
  | help (attached : Option String)
  /-- It looks like an option and is none. -/
  | unknown (shown : String)
  /-- Two dashes: no option follows. -/
  | separator
  | word (text : String)
  deriving DecidableEq, Repr

/-- Classifies what follows two dashes. -/
def longArgument (chars : List Char) : Argument :=
  let name := String.ofList (chars.takeWhile (· ≠ '='))
  let attached := match chars.dropWhile (· ≠ '=') with
    | [] => none
    | _ :: value => some (String.ofList value)
  if name = "help" then .help attached
  else
    match Flag.all.find? fun flag => flag.long == name with
    | some flag => .option flag attached
    | none => .unknown s!"--{name}"

/-- Classifies what follows one dash, of which there is some. -/
def shortArgument (letter : Char) (rest : List Char) : Argument :=
  if letter = 'h' then .help none
  else
    match Flag.all.find? fun flag => flag.short? == some letter with
    | none => .unknown s!"-{letter}"
    | some flag =>
        .option flag <| match rest with
          | [] => none
          | '=' :: value => some (String.ofList value)
          | value => some (String.ofList value)

def classify (argument : String) : Argument :=
  match argument.toList with
  | ['-', '-'] => .separator
  | '-' :: '-' :: chars => longArgument chars
  | '-' :: letter :: rest => shortArgument letter rest
  | _ => .word argument

/-- An option that came without an attached value, and the value that came
after it. -/
structure Pending where
  flag : Flag
  value : Option String := none

/-- Settles an option whose value was not looked at yet. -/
def settle (line : CommandLine) : Option Pending →
    Except UsageError CommandLine
  | none => .ok line
  | some { flag, value := some value } => line.set flag value
  | some { flag, value := none } => .error (.missingValue flag)

def read (line : CommandLine) :
    Option Pending → List String → Except UsageError Invocation
  | pending, [] => do return .serve (← line.settle pending)
  | pending, argument :: rest =>
      match classify argument with
      | .unknown shown => .error (.unexpected shown)
      | .separator =>
          match rest with
          | [] => do return .serve (← line.settle pending)
          | word :: _ => .error (.unexpected word)
      | .help (some value) => .error (.helpWithValue value)
      | .help none => do
          discard (line.settle pending)
          return .help
      | .option flag (some value) => do
          read (← (← line.settle pending).set flag value) none rest
      | .option flag none => do
          read (← line.settle pending) (some { flag }) rest
      | .word text =>
          match pending with
          | some { flag, value := none } =>
              read line (some { flag, value := some text }) rest
          | _ => .error (.unexpected text)

def ofArguments (arguments : List String) : Except UsageError Invocation :=
  read {} none arguments

/-- The forms of an option, as the help text shows them. -/
def forms (short : Option Char) (usage : String) : String :=
  match short with
  | some letter => s!"-{letter}, {usage}"
  | none => s!"    {usage}"

/-- The options with their purposes, as the help text lists them. -/
def helpEntries : List (String × String) :=
  (Flag.all.map fun flag => (forms flag.short? flag.usage, flag.purpose))
    ++ [(forms (some 'h') "--help", "Print help")]

/-- The help text: purposes begin in one column. -/
def help : String :=
  let width := (helpEntries.map fun entry => entry.1.length).foldl max 0
  let line (entry : String × String) : String :=
    let gap := String.ofList (List.replicate (width - entry.1.length) ' ')
    s!"  {entry.1}{gap}  {entry.2}\n"
  "In-memory file store served over a Unix socket\n\n"
    ++ "Usage: fifostore-server [OPTIONS]\n\nOptions:\n"
    ++ String.join (helpEntries.map line)

end CommandLine

end FileDepot
