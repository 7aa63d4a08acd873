/-!
# Bytes

Byte strings are lists of bytes.  This file gives the two readings of them
that the wire format needs: little-endian numbers of a fixed width, and text
in UTF-8.  `Bytes.ofNat` and `Bytes.value` are inverse up to the width, and
`Bytes.text?` accepts exactly the byte strings that `Bytes.ofText` writes.
-/

namespace FileDepot

abbrev Bytes := List UInt8

namespace Bytes

/-- The number whose base-256 digits, lowest first, are the given bytes. -/
def value : Bytes → Nat
  | [] => 0
  | byte :: rest => byte.toNat + 256 * value rest

/-- The lowest `width` base-256 digits of a number, lowest first. -/
def ofNat : (width number : Nat) → Bytes
  | 0, _ => []
  | width + 1, number => UInt8.ofNat number :: ofNat width (number / 256)

@[simp] theorem length_ofNat (width number : Nat) :
    (ofNat width number).length = width := by
  induction width generalizing number with
  | zero => rfl
  | succ width ih => simp [ofNat, ih]

/-- The number of byte strings of a length. -/
def capacity : (width : Nat) → Nat
  | 0 => 1
  | width + 1 => 256 * capacity width

theorem value_ofNat (width number : Nat) :
    value (ofNat width number) = number % capacity width := by
  induction width generalizing number with
  | zero => simp [ofNat, value, capacity, Nat.mod_one]
  | succ width ih =>
      have lowest : (UInt8.ofNat number).toNat = number % 256 := by simp
      rw [ofNat, value, ih, lowest, capacity, Nat.mod_mul]

theorem value_lt (bytes : Bytes) : value bytes < capacity bytes.length := by
  induction bytes with
  | nil => simp [value, capacity]
  | cons byte rest ih =>
      have byteBound := byte.toNat_lt
      simp only [value, List.length_cons, capacity]
      omega

/-- The two's complement reading of eight bytes. -/
def signed (bytes : Bytes) : Int :=
  Int.bmod (value bytes) (capacity bytes.length)

/-- The two's complement digits of an integer, lowest first. -/
def ofInt (width : Nat) (number : Int) : Bytes :=
  ofNat width (number % (capacity width : Int)).toNat

def ofText (text : String) : Bytes :=
  text.toByteArray.data.toList

/-- The text that a byte string is the UTF-8 form of, if it is one. -/
def text? (bytes : Bytes) : Option String :=
  String.fromUTF8? ⟨bytes.toArray⟩

theorem text?_ofText (text : String) : text? (ofText text) = some text := by
  have restored : (⟨(ofText text).toArray⟩ : ByteArray) = text.toByteArray := by
    simp [ofText]
  rw [text?, restored, String.fromUTF8?, dif_pos text.isValidUTF8]
  rfl

theorem eq_ofText_of_text? {bytes : Bytes} {text : String}
    (accepted : text? bytes = some text) : bytes = ofText text := by
  simp only [text?, String.fromUTF8?] at accepted
  split at accepted
  · cases accepted
    rfl
  · cases accepted

/-- The hexadecimal form of a byte string, two lower-case digits a byte. -/
def hex (bytes : Bytes) : String :=
  String.ofList (bytes.flatMap fun byte =>
    [Nat.digitChar (byte.toNat / 16), Nat.digitChar (byte.toNat % 16)])

/-- The number that a hexadecimal digit stands for. -/
def hexDigit? (digit : Char) : Option Nat :=
  if '0' ≤ digit ∧ digit ≤ '9' then some (digit.toNat - '0'.toNat)
  else if 'a' ≤ digit ∧ digit ≤ 'f' then some (digit.toNat - 'a'.toNat + 10)
  else if 'A' ≤ digit ∧ digit ≤ 'F' then some (digit.toNat - 'A'.toNat + 10)
  else none

/-- Reads pairs of hexadecimal digits. -/
def ofHex? : List Char → Option Bytes
  | [] => some []
  | high :: low :: rest => do
      let upper ← hexDigit? high
      let lower ← hexDigit? low
      let others ← ofHex? rest
      return UInt8.ofNat (16 * upper + lower) :: others
  | [_] => none

end Bytes

end FileDepot
