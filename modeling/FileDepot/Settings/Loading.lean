import FileDepot.Bytes
import FileDepot.Settings.Setting
import FileDepot.Text.Quoted
import FileDepot.Toml.Document

/-!
# Loading settings

Settings are read from the root table of a document, entry by entry.
-/

namespace FileDepot

namespace Toml.Value

/-- The kind of a value, with the value itself if it is short. -/
def describe : Value → String
  | text content => "string " ++ Text.quoted content
  | integer number => s!"integer `{number}`"
  | real number => s!"floating point `{number.text}`"
  | boolean truth => s!"boolean `{truth}`"
  | array _ | tables _ _ => "sequence"
  | moment | table _ _ => "map"

def isBare : Value → Bool
  | array [] | table _ [] => true
  | _ => false

end Toml.Value

namespace Settings

open Toml

def numberOf (setting : Setting) : Value → Except Refusal Nat
  | .integer number =>
      if 0 ≤ number then .ok number.toNat else .error (.negative number setting)
  | other => .error (.mistyped other.describe setting)

def textOf (setting : Setting) : Value → Except Refusal String
  | .text content => .ok content
  | other => .error (.mistyped other.describe setting)

/-- The eviction policy in a document: a word, or a table with the word as its
only key and nothing in it. -/
def policyOf : Value → Except Refusal EvictionPolicy
  | .text word =>
      match EvictionPolicy.ofKeyword? word with
      | some policy => .ok policy
      | none => .error (.unknownPolicy word)
  | .table _ [(word, content)] =>
      match EvictionPolicy.ofKeyword? word with
      | some policy => if content.isBare then .ok policy else .error .noPolicy
      | none => .error (.unknownPolicy word)
  | _ => .error .noPolicy

def assign (settings : Settings) (entry : String × Value) :
    Except Refusal Settings := do
  let (key, value) := entry
  let some setting := Setting.ofKey? key | .error (.unknownKey key)
  let limits := settings.limits
  match setting with
  | .socketPath =>
      return { settings with socketPath := ← textOf setting value }
  | .workers => return { settings with workers := ← numberOf setting value }
  | .maxFiles =>
      let maxFiles ← numberOf setting value
      return { settings with limits := { limits with maxFiles } }
  | .maxBytes =>
      let maxBytes ← numberOf setting value
      return { settings with limits := { limits with maxBytes } }
  | .policy =>
      let policy ← policyOf value
      return { settings with limits := { limits with policy } }
  | .lockScanInterval =>
      return { settings with lockScanInterval := ← numberOf setting value }
  | .statsInterval =>
      return { settings with statsInterval := ← numberOf setting value }

/-- The settings that a document gives; the others keep their defaults.  Of
several mistakes the first one counts. -/
def ofToml (text : String) : Except Refusal Settings :=
  match document? text with
  | none => .error .malformed
  | some entries => entries.foldlM assign {}

/-- The settings in a file with the given content. -/
def ofFile (path : String) (content : Except IoFault Bytes) :
    Except Error Settings :=
  match content.map Bytes.text? with
  | .error fault => .error (.io fault)
  | .ok none => .error (.io .notText)
  | .ok (some text) =>
      (ofToml text).mapError fun refusal =>
        .invalidConfig s!"{path}: {refusal.error.message}"

end Settings

end FileDepot
