/-!
# Readers

A reader takes characters from the front of a text, or fails and takes none.
Readers are made of smaller ones by sequence and by choice, and a repetition
ends where its reader fails.
-/

namespace FileDepot.Toml

/-- Reads something from the front of a text. -/
abbrev Reader := StateT (List Char) Option

namespace Reader

variable {Value : Type}

def one (belongs : Char → Bool) : Reader Char
  | [] => none
  | char :: rest => if belongs char then some (char, rest) else none

/-- The longest run of characters of a class. -/
def run (belongs : Char → Bool) : Reader (List Char) :=
  fun chars => some (chars.span belongs)

def exactly (expected : String) : Reader Unit := fun chars =>
  if expected.toList.isPrefixOf chars then
    some ((), chars.drop expected.length)
  else
    none

def atEnd : Reader Unit
  | [] => some ((), [])
  | _ => none

/-- What a reader reads as often as it takes characters and does not fail. -/
def many (reader : Reader Value) (chars : List Char) :
    Option (List Value × List Char) :=
  match reader chars with
  | none => some ([], chars)
  | some (value, rest) =>
      if rest.length < chars.length then
        (many reader rest).map fun (values, left) => (value :: values, left)
      else
        some ([], chars)
  termination_by chars.length

/-- Reads a whole text. -/
def whole? (reader : Reader Value) (text : String) : Option Value :=
  (StateT.run (reader <* atEnd) text.toList).map Prod.fst

end Reader

end FileDepot.Toml
