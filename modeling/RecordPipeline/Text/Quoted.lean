import RecordPipeline.Bytes
import RecordPipeline.Unicode.Property

/-!
Quoted forms. A byte string is quoted with a leading letter and shows only printable ASCII as
itself. A text is quoted so that every character which cannot be seen is written as its code point.
-/

namespace RecordPipeline.Text

def hexDigit (n : Nat) : Char := Nat.digitChar n

def hexText (n : Nat) : String := String.ofList (Nat.toDigits 16 n)

/-- The two hexadecimal digits of a byte. -/
def hexByte (b : UInt8) : String :=
  String.ofList [hexDigit (b.toNat / 16), hexDigit (b.toNat % 16)]

def quotedByte (b : UInt8) : String :=
  if b = 10 then "\\n"
  else if b = 13 then "\\r"
  else if b = 9 then "\\t"
  else if b = 92 then "\\\\"
  else if b = 34 then "\\\""
  else if b = 0 then "\\0"
  else if 0x20 ≤ b ∧ b ≤ 0x7E then String.singleton (Char.ofNat b.toNat)
  else "\\x" ++ hexByte b

def quotedBytes (bs : Bytes) : String :=
  "b\"" ++ String.join (bs.map quotedByte) ++ "\""

def quotedChar (c : Char) : String :=
  if c = '\n' then "\\n"
  else if c = '\r' then "\\r"
  else if c = '\t' then "\\t"
  else if c = '\\' then "\\\\"
  else if c = '"' then "\\\""
  else if c = '\x00' then "\\0"
  else if Unicode.Property.graphemeExtend.mem c.toNat || !Unicode.Property.isPrintable c then
    "\\u\x7b" ++ hexText c.toNat ++ "\x7d"
  else String.singleton c

def quoted (s : String) : String := "\"" ++ String.join (s.toList.map quotedChar) ++ "\""

/-- Items in brackets, with a comma and a space between them. -/
def bracketed (items : List String) : String := "[" ++ String.intercalate ", " items ++ "]"

/-- A record of named parts: its name, then each part after its own name. -/
def labelled (name : String) (parts : List (String × String)) : String :=
  name ++ " \x7b " ++ String.intercalate ", " (parts.map fun p => p.1 ++ ": " ++ p.2) ++ " \x7d"

end RecordPipeline.Text
