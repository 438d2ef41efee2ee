import RecordPipeline.Table
import RecordPipeline.Toml.DateTime

/-!
Values of configuration files. A table keeps its entries in the order in which they were written.
-/

namespace RecordPipeline

inductive Toml where
  | string (value : String)
  | integer (value : Int)
  | float (value : Float)
  | boolean (value : Bool)
  | datetime (value : Toml.DateTime)
  | array (items : List Toml)
  | table (entries : List (String × Toml))

namespace Toml

instance : Inhabited Toml := ⟨.table []⟩

def string? : Toml → Option String
  | .string s => some s
  | _ => none

def boolean? : Toml → Option Bool
  | .boolean b => some b
  | _ => none

def integer? : Toml → Option Int
  | .integer n => some n
  | _ => none

def array? : Toml → Option (List Toml)
  | .array items => some items
  | _ => none

def table? : Toml → Option (Table String Toml)
  | .table entries => some entries
  | _ => none

end Toml

end RecordPipeline
