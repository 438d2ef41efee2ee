import RecordPipeline.Decimal.Shortest
import RecordPipeline.Text.Quoted

/-!
JSON values and their two written forms, on one line without blanks and indented by two blanks.
-/

namespace RecordPipeline

inductive Json where
  | null
  | bool (value : Bool)
  | integer (value : Int)
  | float (value : Float)
  | text (value : String)
  | array (items : List Json)
  | object (members : List (String × Json))
deriving Inhabited

namespace Json

def escaped (c : Char) : String :=
  if c = '"' then "\\\""
  else if c = '\\' then "\\\\"
  else if c = '\n' then "\\n"
  else if c = '\r' then "\\r"
  else if c = '\t' then "\\t"
  else if c = '\x08' then "\\b"
  else if c = '\x0c' then "\\f"
  else if c.toNat < 0x20 then "\\u00" ++ Text.hexByte (UInt8.ofNat c.toNat)
  else String.singleton c

def quoted (s : String) : String := "\"" ++ String.join (s.toList.map escaped) ++ "\""

/-- Numbers are written out up to sixteen places before the point and four zeros behind it. -/
def numberLayout : Decimal.NumberLayout := ⟨16, -5, "+"⟩

/-- A double as a JSON number; what is not finite is written as null. -/
def floatText (x : Float) : String :=
  match Decimal.parts x with
  | .nan | .infinite _ => "null"
  | .finite negative mantissa exponent =>
    let text := if mantissa = 0 then "0.0"
      else Decimal.spread numberLayout (Decimal.shortest mantissa exponent)
    if negative then "-" ++ text else text

mutual

def compact : Json → String
  | .null => "null"
  | .bool b => if b then "true" else "false"
  | .integer n => toString n
  | .float x => floatText x
  | .text s => quoted s
  | .array items => "[" ++ String.intercalate "," (compactItems items) ++ "]"
  | .object members => "\x7b" ++ String.intercalate "," (compactMembers members) ++ "\x7d"

def compactItems : List Json → List String
  | [] => []
  | item :: rest => item.compact :: compactItems rest

def compactMembers : List (String × Json) → List String
  | [] => []
  | (key, value) :: rest => (quoted key ++ ":" ++ value.compact) :: compactMembers rest

end

def indent (depth : Nat) : String := "\n" ++ String.ofList (List.replicate (2 * depth) ' ')

/-- Parts between brackets, each on a line of its own one step further in. -/
def block (left right : String) (depth : Nat) (parts : List String) : String :=
  if parts.isEmpty then left ++ right
  else left ++ indent (depth + 1) ++ String.intercalate ("," ++ indent (depth + 1)) parts
    ++ indent depth ++ right

mutual

def prettyAt (depth : Nat) : Json → String
  | .array items => block "[" "]" depth (prettyItems (depth + 1) items)
  | .object members => block "\x7b" "\x7d" depth (prettyMembers (depth + 1) members)
  | value => value.compact

def prettyItems (depth : Nat) : List Json → List String
  | [] => []
  | item :: rest => prettyAt depth item :: prettyItems depth rest

def prettyMembers (depth : Nat) : List (String × Json) → List String
  | [] => []
  | (key, value) :: rest =>
    (quoted key ++ ": " ++ prettyAt depth value) :: prettyMembers depth rest

end

def pretty (j : Json) : String := prettyAt 0 j

end Json

end RecordPipeline
