import FileDepot.Toml.Blank
import FileDepot.Toml.Number

/-!
# Texts

A text stands between quotation marks, on one line, or between three of them,
on several lines.  Between double quotation marks a backslash begins an
escape; between apostrophes every character stands for itself.
-/

namespace FileDepot.Toml

open Reader

/-- The character with a code in hexadecimal digits, if there is one. -/
def character (width : Nat) : Reader Char := do
  let code := ofDigits 16 (← (List.replicate width ()).mapM fun _ => digit 16)
  guard code.isValidChar
  return Char.ofNat code

/-- What follows a backslash. -/
def escaped : Reader Char := do
  match ← one fun _ => true with
  | 'b' => return Char.ofNat 8
  | 't' => return '\t'
  | 'n' => return '\n'
  | 'f' => return Char.ofNat 12
  | 'r' => return '\r'
  | '"' => return '"'
  | '\\' => return '\\'
  | 'u' => character 4
  | 'U' => character 8
  | _ => failure

/-- A character of a text between quotation marks of the given kind. -/
def textChar (mark : Char) : Reader Char :=
  if mark = '"' then
    one (fun char => isPlain char && char ≠ '"' && char ≠ '\\')
      <|> (exactly "\\" *> escaped)
  else
    one fun char => isPlain char && char ≠ mark

def shortText (mark : Char) : Reader String := do
  exactly mark.toString
  let content ← many (textChar mark)
  exactly mark.toString
  return String.ofList content

/-- A backslash at the end of a line, and all blanks and line ends after it,
stand for nothing. -/
def continuation : Reader (List Char) := do
  exactly "\\"
  blanks
  newline
  discard (many (discard (one isBlank) <|> newline))
  return []

/-- One or two quotation marks, which do not end a text. -/
def fewMarks (mark : Char) : Reader (List Char) := do
  let marks ← run (· = mark)
  guard (marks.length < 3)
  return marks

/-- A piece of a text on several lines. -/
def longPiece (mark : Char) : Reader (List Char) :=
  (if mark = '"' then continuation else failure)
    <|> (fun char => [char]) <$> textChar mark
    <|> newline *> pure ['\n']
    <|> fewMarks mark

/-- A text on several lines.  A line end right at the beginning is dropped,
and one or two quotation marks can stand right before the end. -/
def longText (mark : Char) : Reader String := do
  exactly (String.ofList [mark, mark, mark])
  discard (optional newline)
  let pieces ← many (longPiece mark)
  let marks ← run (· = mark)
  guard (3 ≤ marks.length ∧ marks.length ≤ 5)
  return String.ofList (pieces.flatten ++ marks.drop 3)

/-- Whether a character can stand in a key without quotation marks. -/
def isKeyChar (char : Char) : Bool :=
  char.isAlphanum || char = '_' || char = '-'

def keyPart : Reader String :=
  shortText '"' <|> shortText '\'' <|> do
    let chars ← run isKeyChar
    guard (¬ chars.isEmpty)
    return String.ofList chars

/-- The number of parts that a key must not reach. -/
def maxKeyParts : Nat := 80

/-- A key with its dots. -/
def dottedKey : Reader DottedKey := do
  blanks
  let first ← keyPart
  let rest ← many (blanks *> exactly "." *> blanks *> keyPart)
  blanks
  guard (rest.length + 1 < maxKeyParts)
  let parts := first :: rest
  return { above := parts.dropLast, last := parts.getLastD first }

end FileDepot.Toml
