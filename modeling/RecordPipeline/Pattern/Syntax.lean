import RecordPipeline.Unicode.CodeSet

/-!
Patterns: regular expressions over byte strings. A character pattern stands for one character in
UTF-8, a byte pattern for one byte; the looks are conditions on a place between two bytes.
-/

namespace RecordPipeline

/-- Conditions on a place. Line ends are line feeds, or with `crlf` also carriage returns and the
two together; words are made of Unicode's word characters, or with `ascii` of those of ASCII. -/
inductive Pattern.Look where
  | textStart
  | textEnd
  | lineStart (crlf : Bool)
  | lineEnd (crlf : Bool)
  | wordEdge (ascii : Bool)
  | notWordEdge (ascii : Bool)
  | wordStart (ascii : Bool)
  | wordEnd (ascii : Bool)
  | wordStartHalf (ascii : Bool)
  | wordEndHalf (ascii : Bool)
deriving DecidableEq

inductive Pattern where
  | empty
  | character (s : Unicode.CodeSet)
  | byte (s : Unicode.CodeSet)
  | look (l : Pattern.Look)
  | seq (first second : Pattern)
  | alt (first second : Pattern)
  /-- At least `low` times, and at most `high` times if that is given. -/
  | repeats (low : Nat) (high : Option Nat) (p : Pattern)

end RecordPipeline
