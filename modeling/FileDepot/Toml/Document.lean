import FileDepot.Toml.Text

/-!
# Documents

A document is a list of statements, each on a line of its own.  A header says
which table the statements after it add to.
-/

namespace FileDepot.Toml

open Reader

/-- A value without values in it. -/
def scalar : Reader Value :=
  .text <$> (longText '"' <|> longText '\'' <|> shortText '"' <|> shortText '\'')
    <|> (exactly "true" *> pure (.boolean true))
    <|> (exactly "false" *> pure (.boolean false))
    <|> moment <|> number

/-- Values between brackets, on as many lines as it takes. -/
def array (item : Reader Value) : Reader Value := do
  exactly "["
  spread
  let items ← optional do
    let first ← item <* spread
    let rest ← many (exactly "," *> spread *> item <* spread)
    discard (optional (exactly "," *> spread))
    return first :: rest
  exactly "]"
  return .array (items.getD [])

/-- A key, and what comes after the equals sign. -/
def pair (item : Reader Value) : Reader (DottedKey × Value) := do
  let key ← dottedKey
  exactly "="
  blanks
  return (key, ← item)

/-- Keys and values between braces, on one line. -/
def inlineTable (item : Reader Value) : Reader Value := do
  exactly "\x7b"
  blanks
  let pairs ← optional do
    let first ← pair item <* blanks
    let rest ← many (exactly "," *> pair item <* blanks)
    return first :: rest
  exactly "\x7d"
  return .table .inline (← Entries.ofPairs? (pairs.getD []))

/-- A value that has no deeper values in it than the given depth. -/
def value : (depth : Nat) → Reader Value
  | 0 => scalar
  | depth + 1 => scalar <|> array (value depth) <|> inlineTable (value depth)

/-- How deep values can lie in values. -/
def maxDepth : Nat := 79

/-- A line of a document, with what it does. -/
inductive Statement
  | nothing
  | openTable (key : DottedKey)
  | openElement (key : DottedKey)
  | assign (key : DottedKey) (value : Value)

def statement : Reader Statement := do
  blanks
  let spoken :=
    (do exactly "[["; let key ← dottedKey; exactly "]]"; return .openElement key)
      <|> (do exactly "["; let key ← dottedKey; exactly "]"; return .openTable key)
      <|> (do let (key, value) ← pair (value maxDepth); return .assign key value)
      <|> pure .nothing
  spoken <* lineEnd

/-- A document that is being put together. -/
structure Draft where
  root : Entries := []
  /-- The path of the table that assignments add to. -/
  current : List String := []

def Draft.perform (draft : Draft) : Statement → Option Draft
  | .nothing => some draft
  | .openTable key =>
      (draft.root.amend (Entries.openTable key.last) key.above).map fun root =>
        { root, current := key.above ++ [key.last] }
  | .openElement key =>
      (draft.root.amend (Entries.openElement key.last) key.above).map fun root =>
        { root, current := key.above ++ [key.last] }
  | .assign key value =>
      (draft.root.amend (Entries.add value key.last key.above) draft.current).map
        fun root => { draft with root }

/-- The root table of a document, if it is one. -/
def document? (text : String) : Option Entries := do
  let statements ← (optional (exactly "\ufeff") *> many statement).whole? text
  let draft ← statements.foldlM Draft.perform {}
  return draft.root

end FileDepot.Toml
