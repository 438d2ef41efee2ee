import RecordPipeline.Decimal.Reading
import RecordPipeline.Filter.Error
import RecordPipeline.Pattern.Matcher
import RecordPipeline.Pattern.Parser
import RecordPipeline.Record.Basic
import RecordPipeline.Text

/-!
Conditions on a field of a record. Most compare the field with a value, as bytes or as numbers; one
looks for a pattern, and one asks whether the field is empty.
-/

namespace RecordPipeline

inductive Operator where
  | eq
  | ne
  | contains
  | startsWith
  | endsWith
  | empty
  /-- The bytes that a pattern, once it is read, matches. -/
  | pattern (matching : Bytes → Bool)
  | gt
  | lt
  | gte
  | lte

namespace Operator

/-- The operator of a name. The value of a pattern is read here. -/
def parse (name : String) (value : Option String) : Except OperatorError Operator :=
  match name with
  | "eq" => .ok .eq
  | "ne" => .ok .ne
  | "contains" => .ok .contains
  | "starts_with" => .ok .startsWith
  | "ends_with" => .ok .endsWith
  | "empty" => .ok .empty
  | "gt" => .ok .gt
  | "lt" => .ok .lt
  | "gte" => .ok .gte
  | "lte" => .ok .lte
  | "regex" =>
    match value with
    | none => .error .patternMissing
    | some text =>
      match Pattern.parse? text with
      | some p => .ok (.pattern p.isMatch)
      | none => .error (.invalidPattern text)
  | other => .error (.unknown other)

def needsValue : Operator → Bool
  | .empty => false
  | _ => true

def debug : Operator → String
  | .eq => "Eq"
  | .ne => "Ne"
  | .contains => "Contains"
  | .startsWith => "StartsWith"
  | .endsWith => "EndsWith"
  | .empty => "Empty"
  | .pattern _ => "Regex"
  | .gt => "Gt"
  | .lt => "Lt"
  | .gte => "Gte"
  | .lte => "Lte"

/-- The number that a field holds, between optional blanks. -/
def number? (bs : Bytes) : Option Float :=
  bs.toString?.bind fun s => Decimal.read? (Text.trim s.toList)

/-- Whether both are numbers that compare as asked. -/
def compareNumbers (holds : Float → Float → Bool) (field value : Bytes) : Bool :=
  match number? field, number? value with
  | some a, some b => holds a b
  | _, _ => false

def holds (op : Operator) (value field : Bytes) : Bool :=
  match op with
  | .eq => field == value
  | .ne => field != value
  | .contains => Bytes.contains value field
  | .startsWith => value.isPrefixOf field
  | .endsWith => value.isSuffixOf field
  | .empty => field.isEmpty
  | .pattern matching => matching field
  | .gt => compareNumbers (fun a b => decide (b < a)) field value
  | .lt => compareNumbers (fun a b => decide (a < b)) field value
  | .gte => compareNumbers (fun a b => decide (b ≤ a)) field value
  | .lte => compareNumbers (fun a b => decide (a ≤ b)) field value

end Operator

structure Condition where
  field : Nat
  operator : Operator
  value : Bytes

def Condition.holds (c : Condition) (r : Record) : Bool :=
  c.operator.holds c.value (r.get c.field)

end RecordPipeline
