import RecordPipeline.Filter.Basic
import RecordPipeline.Filter.Condition

/-!
The filter that keeps records back by conditions on their fields: those that match, or those that
do not.
-/

namespace RecordPipeline

inductive DropAction where
  | drop
  | keep
deriving DecidableEq

inductive MatchMode where
  | all
  | any
deriving DecidableEq

/-- Which records are kept back. There is at least one condition. -/
structure DropRule where
  action : DropAction := .drop
  mode : MatchMode := .all
  conditions : List Condition
  nonempty : conditions ≠ []

namespace DropRule

def make (action : DropAction) (mode : MatchMode) (conditions : List Condition) :
    Except FilterFault DropRule :=
  if h : conditions = [] then .error .noCondition
  else .ok { action, mode, conditions, nonempty := h }

/-- Whether a record meets the conditions. -/
def isMatch (f : DropRule) (r : Record) : Bool :=
  match f.mode with
  | .all => f.conditions.all fun c => c.holds r
  | .any => f.conditions.any fun c => c.holds r

def keeps (f : DropRule) (r : Record) : Bool :=
  match f.action with
  | .drop => !f.isMatch r
  | .keep => f.isMatch r

def process (f : DropRule) (r : Record) : Activity :=
  let noted := if f.isMatch r then [("matched", 1)] else []
  if f.keeps r then .pass r noted else .done r (.error .drop) noted ()

end DropRule

end RecordPipeline
