/-!
What a sink asks of the uploader.
-/

namespace RecordPipeline

/-- A finished file and the number of records in it. -/
structure UploadRequest where
  path : String
  records : Nat
deriving DecidableEq

end RecordPipeline
