import FileDepot.Binary64

/-!
# Values and tables

A table keeps its entries in the order of the document.  How a table came
about decides how the rest of the document may still add to it: a header opens
a table that no header has opened yet, and a dotted key adds only to tables
that dotted keys have made.
-/

namespace FileDepot.Toml

/-- How a table came about. -/
inductive Origin
  /-- By a header of its own. -/
  | header
  /-- By the header of a table below it. -/
  | implied
  /-- By the dots in a key. -/
  | dotted
  /-- Between braces, where it is complete. -/
  | inline
  deriving DecidableEq, Repr

inductive Value
  | text (content : String)
  | integer (number : Int)
  | real (number : Binary64)
  | boolean (truth : Bool)
  /-- A date, a time, or both. -/
  | moment
  | array (items : List Value)
  | table (origin : Origin) (entries : List (String × Value))
  /-- The tables that headers in double brackets opened, but for the last, and
  the last. -/
  | tables (earlier : List (List (String × Value)))
      (last : List (String × Value))

abbrev Entries := List (String × Value)

/-- A key with dots: the tables that it goes through, and its last part. -/
structure DottedKey where
  above : List String
  last : String
  deriving DecidableEq, Repr

namespace Entries

/-- Puts a value in the place of the one that a key has. -/
def replace (entries : Entries) (key : String) (value : Value) : Entries :=
  entries.map fun entry => if entry.1 = key then (key, value) else entry

def remove (entries : Entries) (key : String) : Entries :=
  entries.filter fun entry => entry.1 ≠ key

/-- Adds a value with a key that is new, below tables that dotted keys have
made or make now.  Tables that headers imply and the last of several tables
can be passed through. -/
def add (value : Value) (last : String) :
    (above : List String) → Entries → Option Entries
  | [], entries =>
      match entries.lookup last with
      | none => some (entries ++ [(last, value)])
      | some _ => none
  | name :: above, entries =>
      match entries.lookup name with
      | none =>
          (add value last above []).map fun inner =>
            entries ++ [(name, .table .dotted inner)]
      | some (.table .dotted inner) =>
          (add value last above inner).map fun grown =>
            entries.replace name (.table .dotted grown)
      | some (.table .implied inner) =>
          if above.isEmpty then none
          else
            (add value last above inner).map fun grown =>
              entries.replace name (.table .implied grown)
      | some (.tables earlier inner) =>
          if above.isEmpty then none
          else
            (add value last above inner).map fun grown =>
              entries.replace name (.tables earlier grown)
      | some _ => none

/-- Changes the table at the path of a header.  Missing tables are implied,
and several tables stand for the last of them. -/
def amend (change : Entries → Option Entries) :
    (path : List String) → Entries → Option Entries
  | [], entries => change entries
  | name :: path, entries =>
      match entries.lookup name with
      | none =>
          (amend change path []).map fun inner =>
            entries ++ [(name, .table .implied inner)]
      | some (.table .inline _) => none
      | some (.table origin inner) =>
          (amend change path inner).map fun grown =>
            entries.replace name (.table origin grown)
      | some (.tables earlier inner) =>
          (amend change path inner).map fun grown =>
            entries.replace name (.tables earlier grown)
      | some _ => none

/-- Opens a table that is new or was only implied; it goes to the end. -/
def openTable (key : String) (entries : Entries) : Option Entries :=
  match entries.lookup key with
  | none => some (entries ++ [(key, .table .header [])])
  | some (.table .implied inner) =>
      some (entries.remove key ++ [(key, .table .header inner)])
  | some _ => none

/-- Opens one more of several tables. -/
def openElement (key : String) (entries : Entries) : Option Entries :=
  match entries.lookup key with
  | none => some (entries ++ [(key, .tables [] [])])
  | some (.tables earlier last) =>
      some (entries.replace key (.tables (earlier ++ [last]) []))
  | some _ => none

/-- The entries that pairs between braces make. -/
def ofPairs? (pairs : List (DottedKey × Value)) : Option Entries :=
  pairs.foldlM (fun entries (key, value) => add value key.last key.above entries) []

end Entries

end FileDepot.Toml
