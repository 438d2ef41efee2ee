import RecordPipeline.Proofs.Upload.Accepting

/-!
The uploader that moves files, over a whole run. No request replaces or loses a file, whatever
requests came before it, and what a run counts are its requests.
-/

namespace RecordPipeline.MoveUploader

open FileSystem

variable {u u' : MoveUploader} {fs fs' : FileSystem} {request : UploadRequest} {turn : MoveTurn}
  {own name path source target : String} {content : Bytes} {modified : Option Nat} {e : IoError}

/-- The uploader and the files after requests, one after the other. -/
def served (u : MoveUploader) (fs : FileSystem) (requests : List (UploadRequest × MoveTurn)) :
    MoveUploader × FileSystem :=
  requests.foldl (fun (u, fs) (request, turn) => u.accept fs request turn) (u, fs)

/-- What becomes of a request. One for nothing is refused. One for a file moves it to the first free
name as far as the system lets it, unless the destination cannot be reached or the name is too long;
then it is refused. -/
structure Settled (u : MoveUploader) (fs : FileSystem) (request : UploadRequest)
    (turn : MoveTurn) (u' : MoveUploader) (fs' : FileSystem) : Prop where
  search : ∀ own, Path.fileName? request.path = some own →
    IsFirstFree fs u.destination own (freePath fs u.destination own)
  missing : (Path.fileName? request.path = none ∨ ∀ node, fs.find request.path ≠ .ok node) →
    Refused u fs u' fs'
  file : ∀ content modified, fs.find request.path = .ok (.file content modified) →
    ∃ own name, Path.fileName? request.path = some own ∧ Path.IsName name ∧
      IsFirstFree fs u.destination own (Path.join u.destination name) ∧
      (u.IsReady fs ∧ name.utf8ByteSize ≤ nameLimit →
        Arrives u fs request turn (placeOf u.destination ++ [name]) content modified u' fs') ∧
      (¬(u.IsReady fs ∧ name.utf8ByteSize ≤ nameLimit) → Refused u fs u' fs')

/-- Two files of one name, one of which is in the destination already. -/
def twins (name : String) : FileSystem :=
  [(["dest"], .directory), (["dest", name], .file [49] none), (["src"], .directory),
    (["src", name], .file [50] none)]

end RecordPipeline.MoveUploader
