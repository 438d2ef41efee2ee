import RecordPipeline.Unicode.Property

/-!
Text: the blank space around a text, and numbers written with leading zeros.
-/

namespace RecordPipeline.Text

/-- The text without the blank characters at both ends. -/
def trim (s : List Char) : List Char :=
  ((s.dropWhile Unicode.Property.isWhiteSpace).reverse.dropWhile
    Unicode.Property.isWhiteSpace).reverse

/-- The number with at least the given number of digits. -/
def padded (width n : Nat) : String :=
  let digits := toString n
  String.ofList (List.replicate (width - digits.length) '0') ++ digits

end RecordPipeline.Text
