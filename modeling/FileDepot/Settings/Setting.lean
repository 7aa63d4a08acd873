import FileDepot.Settings

/-!
# Settings in a document

Each setting has a key in the root table of a document and takes values of one
kind.  A document with a key of no setting, or with a value of another kind,
is refused.
-/

namespace FileDepot

/-- A setting that a document can give. -/
inductive Setting
  | socketPath
  | workers
  | maxFiles
  | maxBytes
  | policy
  | lockScanInterval
  | statsInterval
  deriving DecidableEq, Repr

namespace Setting

def all : List Setting :=
  [socketPath, workers, maxFiles, maxBytes, policy, lockScanInterval,
    statsInterval]

def key : Setting → String
  | socketPath => "socket_path"
  | workers => "workers"
  | maxFiles => "max_files"
  | maxBytes => "max_bytes"
  | policy => "evict_on"
  | lockScanInterval => "lock_scan_interval_ms"
  | statsInterval => "stats_interval_secs"

def ofKey? (key : String) : Option Setting :=
  all.find? fun setting => setting.key == key

/-- What a setting is said to expect. -/
def expectation : Setting → String
  | socketPath => "path string"
  | workers | maxFiles | maxBytes => "usize"
  | policy => "policy"
  | lockScanInterval | statsInterval => "u64"

end Setting

/-- Why a document gives no settings. -/
inductive Refusal
  /-- The text is no document. -/
  | malformed
  | unknownKey (key : String)
  | unknownPolicy (word : String)
  /-- An eviction policy is neither a text nor a table with one key. -/
  | noPolicy
  /-- A number of the wrong sign. -/
  | negative (number : Int) (setting : Setting)
  /-- A value of the wrong kind. -/
  | mistyped (found : String) (setting : Setting)
  deriving DecidableEq, Repr

namespace Refusal

/-- Words between backquotes, after another. -/
def oneOf (words : List String) : String :=
  "one of " ++ String.intercalate ", " (words.map fun word => s!"`{word}`")

def reason : Refusal → String
  | malformed => "not a document"
  | unknownKey key =>
      s!"unknown field `{key}`, expected {oneOf (Setting.all.map Setting.key)}"
  | unknownPolicy word =>
      s!"unknown variant `{word}`, expected "
        ++ oneOf (EvictionPolicy.all.map EvictionPolicy.keyword)
  | noPolicy => "wanted string or table"
  | negative number setting =>
      s!"invalid value: integer `{number}`, expected {setting.expectation}"
  | mistyped found setting =>
      s!"invalid type: {found}, expected {setting.expectation}"

/-- The error with which a document is refused. -/
def error (refusal : Refusal) : Error :=
  .invalidConfig s!"TOML parse error\n{refusal.reason}\n"

end Refusal

end FileDepot
