import FileDepot.Text.Unprintable

/-!
# Quoted text

The form of a text in a diagnostic: between double quotes, on one line, with
an escape for every character that would not show.
-/

namespace FileDepot.Text

/-- The form of a character between double quotes. -/
def escape (char : Char) : String :=
  if char = '\t' then "\\t"
  else if char = '\r' then "\\r"
  else if char = '\n' then "\\n"
  else if char = '"' then "\\\""
  else if char = '\\' then "\\\\"
  else if char.toNat = 0 then "\\0"
  else if isUnprintable char then
    "\\u\x7b" ++ String.ofList (Nat.toDigits 16 char.toNat) ++ "\x7d"
  else char.toString

def quoted (text : String) : String :=
  "\"" ++ String.join (text.toList.map escape) ++ "\""

end FileDepot.Text
