import RecordPipeline.Table

/-!
Where a batch came from. Every record of a batch carries the same entries, and only reads them.
-/

namespace RecordPipeline

abbrev Metadata := Table String String

namespace Metadata

/-- The key under which a source that reads a file keeps the file's path. -/
def sourcePath : String := "source.path"

/-- The key under which a source that reads a file keeps the time of the file's last change, in
seconds. -/
def sourceTime : String := "source.mtime"

end Metadata

end RecordPipeline
