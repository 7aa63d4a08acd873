import FileDepot.Bytes

/-!
# Text for a terminal

A text for a terminal has control sequences beside its characters, such as the
two that `highlighted` puts around a text.  Where there is no terminal,
`plain` leaves them out, and with them all control characters but white space.

A control sequence that a line break or a tab interrupts is not given up: the
text from there on is shown, and the next character that is not shown goes on
with the sequence.
-/

namespace FileDepot.Text

/-- A text in a colour of its own. -/
def highlighted (text : String) : String :=
  "\x1b[33m" ++ text ++ "\x1b[0m"

/-- What the last characters have begun. -/
inductive Stage
  /-- Nothing: a text. -/
  | ground
  /-- An escape character. -/
  | escape
  /-- An escape character with marks. -/
  | escapeMarks
  /-- A control function, which ends with a letter. -/
  | control
  /-- A request to a device, before its numbers. -/
  | device
  /-- The numbers of a request to a device. -/
  | deviceNumbers
  /-- The marks of a request to a device. -/
  | deviceMarks
  /-- A request to the system, which ends with a bell. -/
  | command
  /-- A string, which ends with its own terminator. -/
  | string
  deriving DecidableEq, Repr

namespace Stage

/-- What a byte makes of a stage.  An escape character begins anew, and the
characters that cancel and substitute end everything. -/
def next (stage : Stage) (byte : UInt8) : Stage :=
  let code := byte.toNat
  let isMark := 0x20 ≤ code && code ≤ 0x2f
  let isFinal := 0x30 ≤ code && code ≤ 0x7e
  let isLetter := 0x40 ≤ code && code ≤ 0x7e
  if code = 0x1b then .escape
  else if code = 0x18 ∨ code = 0x1a then .ground
  else
    match stage with
    | .ground => .ground
    | .escape =>
        if isMark then .escapeMarks
        else if code = '['.toNat then .control
        else if code = ']'.toNat then .command
        else if code = 'P'.toNat then .device
        else if code ∈ ['X'.toNat, '^'.toNat, '_'.toNat] then .string
        else if isFinal then .ground
        else .escape
    | .escapeMarks => if isFinal then .ground else .escapeMarks
    | .control => if isLetter then .ground else .control
    | .device =>
        if isMark then .deviceMarks
        else if isLetter then .string
        else if isFinal then .deviceNumbers
        else .device
    | .deviceNumbers =>
        if isMark then .deviceMarks
        else if isFinal && ';'.toNat < code then .string
        else .deviceNumbers
    | .deviceMarks => if isFinal then .string else .deviceMarks
    | .command => if code = 0x07 then .ground else .command
    | .string => if code = 0x9c then .ground else .string

/-- What a character makes of a stage, byte by byte. -/
def after (stage : Stage) (char : Char) : Stage :=
  (Bytes.ofText char.toString).foldl next stage

/-- Whether a character is shown at a stage: on the ground, if it is no control
character; white space interrupts a sequence, too, but not a string or a
request. -/
def shows (stage : Stage) (char : Char) : Bool :=
  if char ∈ ['\t', '\n', '\x0c', '\r'] then
    stage ∈ [ground, escape, escapeMarks, control]
  else
    stage = ground && 0x20 ≤ char.toNat && char.toNat ≠ 0x7f

end Stage

/-- The characters that are shown, given whether the one before them was.
After a character that was shown, any but a control character is shown, and
one outside ASCII ends what was begun before. -/
def shown (afterShown : Bool) (stage : Stage) : List Char → List Char
  | [] => []
  | char :: rest =>
      if (if afterShown then Stage.ground else stage).shows char then
        char :: shown true (if char.toNat < 0x80 then stage else .ground) rest
      else
        shown false (stage.after char) rest

/-- A text without control sequences and control characters. -/
def plain (text : String) : String :=
  String.ofList (shown false .ground text.toList)

end FileDepot.Text
