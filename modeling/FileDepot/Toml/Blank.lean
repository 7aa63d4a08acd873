import FileDepot.Toml.Reader

/-!
# Blanks, comments and line ends

What may stand between the tokens of a document.
-/

namespace FileDepot.Toml

open Reader

/-- Whether a character separates tokens on a line. -/
def isBlank (char : Char) : Bool :=
  char = ' ' || char = '\t'

/-- Whether a character can stand in a comment: any but the controls. -/
def isPlain (char : Char) : Bool :=
  isBlank char || (' ' < char && char.toNat ≠ 0x7f)

/-- Blanks, if there are any. -/
def blanks : Reader Unit := discard (run isBlank)

def newline : Reader Unit :=
  exactly "\n" <|> exactly "\r\n"

/-- A comment up to the end of its line. -/
def comment : Reader Unit := do
  exactly "#"
  discard (run isPlain)

/-- What may follow a statement on its line. -/
def lineEnd : Reader Unit := do
  blanks
  discard (optional comment)
  newline <|> atEnd

/-- Blanks, comments and line ends, if there are any. -/
def spread : Reader Unit :=
  discard (many (discard (one isBlank) <|> newline <|> comment))

end FileDepot.Toml
