import RecordPipeline.Decimal.Reading
import RecordPipeline.Toml.Value
import RecordPipeline.Unicode.CodeSet

/-!
Reading the parts of a line of a configuration file: blanks and comments, keys, strings, numbers
and times. A reader takes characters from the front of the text or fails.
-/

namespace RecordPipeline.Toml

abbrev Scan := StateT (List Char) Option

namespace Scan

def next? : Scan (Option Char) := fun s => some (s.head?, s)

def one (p : Char → Bool) : Scan Char := fun s =>
  match s with
  | c :: rest => if p c then some (c, rest) else none
  | [] => none

def char (c : Char) : Scan Unit := do let _ ← one (· = c)

def span (p : Char → Bool) : Scan (List Char) := fun s => some (s.takeWhile p, s.dropWhile p)

def span1 (p : Char → Bool) : Scan (List Char) := do
  let cs ← span p
  if cs.isEmpty then failure else return cs

/-- The text itself. -/
def exactly (text : String) : Scan Unit := fun s =>
  if text.toList.isPrefixOf s then some ((), s.drop text.length) else none

def atEnd : Scan Unit := fun s => if s.isEmpty then some ((), s) else none

/-- The items that a reader takes one after the other until it fails, as far as the fuel goes. -/
def many {α : Type} (p : Scan α) : Nat → Scan (List α)
  | 0 => pure []
  | fuel + 1 => do
    match ← optional p with
    | some a => return a :: (← many p fuel)
    | none => return []

end Scan

open Scan

def isBlank (c : Char) : Bool := c = ' ' || c = '\t'

/-- Whether a character may stand in comments and, quotes and backslashes apart, in strings on one
line. -/
def isVisible (c : Char) : Bool := c = '\t' || (0x20 ≤ c.toNat && c.toNat ≠ 0x7F)

def blanks : Scan Unit := do let _ ← span isBlank

def lineFeed : Scan Unit := exactly "\n" <|> exactly "\r\n"

def comment : Scan Unit := do
  char '#'
  let _ ← span isVisible

/-- The rest of a line behind its content. -/
def lineEnd : Scan Unit := do
  blanks
  let _ ← optional comment
  lineFeed <|> atEnd

/-- Blanks, comments and line feeds between the parts of an array. -/
def gap : Scan Unit := fun s =>
  ((many ((do let _ ← span1 isBlank) <|> lineFeed <|> (do comment; lineFeed)) s.length).run s).map
    fun p => ((), p.2)

/-! Strings -/

/-- The character with the code that hexadecimal digits give, if there is one. -/
def codeChar? (digits : List Char) : Option Char :=
  if digits.all (fun c => (Unicode.hexValue? c).isSome) then
    let n := Unicode.hexNumber digits
    if n.isValidChar then some (Char.ofNat n) else none
  else none

def hexDigits (count : Nat) : Scan (List Char) := fun s =>
  if s.length < count then none else some (s.take count, s.drop count)

/-- What stands for an escape, behind the backslash. -/
def escape : Scan Char := do
  match ← one fun _ => true with
  | 'b' => return '\x08'
  | 't' => return '\t'
  | 'n' => return '\n'
  | 'f' => return '\x0c'
  | 'r' => return '\r'
  | '"' => return '"'
  | '\\' => return '\\'
  | 'u' => StateT.lift (codeChar? (← hexDigits 4))
  | 'U' => StateT.lift (codeChar? (← hexDigits 8))
  | _ => failure

def basicChar : Scan Char :=
  (do char '\\'; escape) <|> one fun c => isVisible c && c ≠ '"' && c ≠ '\\'

def input : Scan (List Char) := fun s => some (s, s)

def basicString : Scan String := do
  char '"'
  let cs ← many basicChar (← input).length
  char '"'
  return String.ofList cs

def literalString : Scan String := do
  char '\''
  let cs ← span fun c => isVisible c && c ≠ '\''
  char '\''
  return String.ofList cs

/-- A backslash at the end of a line, with the blanks and line feeds behind it. -/
def joinedLines : Scan Unit := do
  char '\\'
  blanks
  lineFeed
  let _ ← many ((do let _ ← span1 isBlank) <|> lineFeed) (← input).length

/-- One or two quotes inside of a text that three quotes end. -/
def innerQuotes (quote : Char) : Scan (List Char) := do
  let run ← span1 (· = quote)
  if run.length < 3 then return run else failure

/-- The quotes that end a text: three, with up to two before them that belong to the text. -/
def closingQuotes (quote : Char) : Scan (List Char) := fun s =>
  let run := (s.takeWhile (· = quote)).length
  if run < 3 then none
  else
    let extra := min (run - 3) 2
    some (List.replicate extra quote, s.drop (extra + 3))

def longBasicPart : Scan (List Char) :=
  (do lineFeed; return ['\n'])
    <|> (do joinedLines; return [])
    <|> (do return [← basicChar])
    <|> innerQuotes '"'

def longLiteralPart : Scan (List Char) :=
  (do lineFeed; return ['\n'])
    <|> span1 (fun c => isVisible c && c ≠ '\'')
    <|> innerQuotes '\''

/-- A text over several lines. The line feed behind the opening quotes does not belong to it. -/
def longString (quote : Char) (part : Scan (List Char)) : Scan String := do
  exactly (String.ofList [quote, quote, quote])
  let _ ← optional lineFeed
  let parts ← many part (← input).length
  let last ← closingQuotes quote
  return String.ofList (parts.flatten ++ last)

def stringValue : Scan String :=
  longString '"' longBasicPart <|> basicString
    <|> longString '\'' longLiteralPart <|> literalString

/-! Keys -/

def isBareKey (c : Char) : Bool := c.isAlphanum || c = '-' || c = '_'

def simpleKey : Scan String := do
  match ← next? with
  | some '"' => basicString
  | some '\'' => literalString
  | _ => return String.ofList (← span1 isBareKey)

/-- How deep keys and values may be nested. -/
def depthLimit : Nat := 80

def spacedKey : Scan String := do
  blanks
  let key ← simpleKey
  blanks
  return key

/-- The parts of a key with points between them. -/
def keyPath : Scan (List String) := do
  let first ← spacedKey
  let more ← many (do char '.'; spacedKey) (← input).length
  if more.length + 1 < depthLimit then return first :: more else failure

/-! Numbers and times -/

def sign : Scan (List Char) := do return (← optional (one fun c => c = '+' || c = '-')).toList

/-- Digits, with single underscores between them. -/
def digitRun (p : Char → Bool) : Scan (List Char) := do
  let first ← one p
  let more ← many ((one p) <|> (do char '_'; one p)) (← input).length
  return first :: more

/-- A whole number without leading zeros. -/
def decimalDigits : Scan (List Char) :=
  (do
    let s ← input
    match s with
    | '0' :: _ => failure
    | _ => digitRun Char.isDigit)
  <|> (do return [← one (· = '0')])

def inWordRange (n : Int) : Bool := Int64.minValue.toInt ≤ n && n ≤ Int64.maxValue.toInt

def wordInteger (n : Int) : Scan Toml := if inWordRange n then return .integer n else failure

def radixInteger (mark : String) (base : Nat) (p : Char → Bool) : Scan Toml := do
  exactly mark
  let ds ← digitRun p
  wordInteger (ds.foldl (fun n c => base * n + (Unicode.hexValue? c).getD 0) 0)

def integerValue : Scan Toml :=
  radixInteger "0x" 16 (fun c => (Unicode.hexValue? c).isSome)
    <|> radixInteger "0o" 8 (fun c => '0' ≤ c && c ≤ '7')
    <|> radixInteger "0b" 2 (fun c => c = '0' || c = '1')
    <|> (do
      let s ← sign
      let n := Decimal.digitsValue (← decimalDigits)
      wordInteger (if s = ['-'] then -(n : Int) else n))

def exponentText : Scan (List Char) := do
  let e ← one fun c => c = 'e' || c = 'E'
  let s ← sign
  return e :: s ++ (← digitRun Char.isDigit)

def fractionText : Scan (List Char) := do
  char '.'
  return '.' :: (← digitRun Char.isDigit)

/-- A number with a fraction or an exponent. One that is too large is refused, unless it is
negative. -/
def pointFloat : Scan Toml := do
  let s ← sign
  let whole ← decimalDigits
  let rest ← exponentText <|> (do
    let fraction ← fractionText
    return fraction ++ (← optional exponentText).getD [])
  match Decimal.read? (s ++ whole ++ rest) with
  | some x => if x.isInf && x > 0.0 then failure else return .float x
  | none => failure

def namedFloat : Scan Toml := do
  let s ← sign
  let x : Float ← (do exactly "inf"; return 1.0 / 0.0) <|> (do exactly "nan"; return 0.0 / 0.0)
  return .float (if s = ['-'] then -x else x)

def fixedDigits (count : Nat) : Scan Nat := do
  let ds ← many (one Char.isDigit) count
  if ds.length = count then return Decimal.digitsValue ds else failure

def dateValue : Scan Date := do
  let year ← fixedDigits 4
  char '-'
  let month ← fixedDigits 2
  char '-'
  let day ← fixedDigits 2
  let date : Date := ⟨year, month, day⟩
  if date.isValid then return date else failure

/-- The first nine digits of the fraction of a second count. -/
def fractionNanoseconds (digits : List Char) : Nat :=
  Decimal.digitsValue ((digits ++ List.replicate 9 '0').take 9)

def timeValue : Scan Time := do
  let hour ← fixedDigits 2
  char ':'
  let minute ← fixedDigits 2
  char ':'
  let second ← fixedDigits 2
  let fraction ← optional (do char '.'; span1 Char.isDigit)
  if hour < 24 ∧ minute < 60 ∧ second ≤ 60 then
    return ⟨hour, minute, second, fractionNanoseconds (fraction.getD [])⟩
  else failure

def offsetValue : Scan Offset :=
  (do let _ ← one fun c => c = 'Z' || c = 'z'; return .universal)
    <|> (do
      let s ← one fun c => c = '+' || c = '-'
      let hour ← fixedDigits 2
      char ':'
      let minute ← fixedDigits 2
      if hour < 24 ∧ minute < 60 then
        let n : Int := hour * 60 + minute
        return .minutes (if s = '-' then -n else n)
      else failure)

def dateTimeValue : Scan DateTime :=
  (do
    let date ← dateValue
    let rest ← optional (do
      let _ ← one fun c => c = 'T' || c = 't' || c = ' '
      let time ← timeValue
      return (time, ← optional offsetValue))
    match rest with
    | some (time, offset) => return ⟨some date, some time, offset⟩
    | none => return { date := some date })
  <|> (do return { time := some (← timeValue) })

def numberValue : Scan Toml :=
  (do return .datetime (← dateTimeValue)) <|> pointFloat <|> namedFloat <|> integerValue

end RecordPipeline.Toml
