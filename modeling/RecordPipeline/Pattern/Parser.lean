import RecordPipeline.Pattern.Syntax
import RecordPipeline.Text
import RecordPipeline.Unicode.CaseFolding
import RecordPipeline.Unicode.Named

/-!
Reading patterns. A pattern is a choice of sequences of items with repetitions; flags change how
the rest of a group is read. How deep a pattern is nested and how large the machine for it would be
are found on the way, and patterns beyond the limits are refused.
-/

namespace RecordPipeline.Pattern

open Unicode

structure Flags where
  ignoreCase : Bool := false
  multiLine : Bool := false
  dotAll : Bool := false
  unicode : Bool := true
  crlf : Bool := false
  /-- Blanks and comments between items mean nothing. -/
  spaced : Bool := false

/-- A pattern with its depth of nesting and the bytes that a machine for it takes. -/
structure Measured where
  pattern : Pattern
  depth : Nat := 0
  size : Nat := 0

def depthLimit : Nat := 250

def sizeLimit : Nat := 10 * 1024 * 1024

structure ReaderState where
  rest : List Char
  flags : Flags := {}
  names : List String := []

abbrev Read := StateT ReaderState Option

namespace Read

def peek? : Read (Option Char) := do return (← get).rest.head?

def skip : Read Unit := modify fun s => { s with rest := s.rest.tail }

def next : Read Char := do
  match (← get).rest with
  | c :: rest => modify fun s => { s with rest }; return c
  | [] => failure

def atEnd : Read Bool := do return (← get).rest.isEmpty

def flags : Read Flags := do return (← get).flags

/-- Takes a text if it comes next. -/
def take (text : String) : Read Bool := do
  let s ← get
  if text.toList.isPrefixOf s.rest then
    set { s with rest := s.rest.drop text.length }
    return true
  else return false

/-- The text without the blanks and comments in front. -/
def dropSpace : Nat → List Char → List Char
  | 0, s => s
  | fuel + 1, s =>
    match s.dropWhile Property.isWhiteSpace with
    | '#' :: rest => dropSpace fuel ((rest.dropWhile (· ≠ '\n')).drop 1)
    | rest => rest

/-- Passes over blanks and comments where they mean nothing. -/
def space : Read Unit := modify fun s =>
  if s.flags.spaced then { s with rest := dropSpace (s.rest.length + 1) s.rest } else s

/-- The character behind the next one, over blanks that mean nothing. -/
def peekSecond? : Read (Option Char) := do
  let s ← get
  let rest := s.rest.tail
  return (if s.flags.spaced then dropSpace (rest.length + 1) rest else rest).head?

/-- The next character, which must be there, after the one in front is passed. -/
def bump : Read Unit := do
  skip
  space
  if ← atEnd then failure

end Read

open Read

/-! Sets of characters -/

/-- How many bytes a character has in UTF-8. -/
def utf8Length (n : Nat) : Nat :=
  if n < 0x80 then 1 else if n < 0x800 then 2 else if n < 0x10000 then 3 else 4

def setSize (s : CodeSet) : Nat :=
  s.foldl (fun n r => n + if r.2 < 0x80 then 8 else 30 * utf8Length r.2) 32

/-- One item that stands for the members of a set: characters, or bytes without Unicode. -/
def ofSet (f : Flags) (s : CodeSet) : Measured :=
  if f.unicode then { pattern := .character s, size := setSize s }
  else { pattern := .byte s, size := 32 + 8 * s.length }

def foldCase (f : Flags) (s : CodeSet) : CodeSet :=
  if !f.ignoreCase then s
  else if f.unicode then CaseFolding.close s else CaseFolding.closeAscii s

def negate (f : Flags) (s : CodeSet) : CodeSet :=
  if f.unicode then CodeSet.complement s else CodeSet.complementUpTo 255 s

def letters : CodeSet := [(0x41, 0x5A), (0x61, 0x7A)]

def digits : CodeSet := [(0x30, 0x39)]

def asciiWord : CodeSet := [(0x30, 0x39), (0x41, 0x5A), (0x5F, 0x5F), (0x61, 0x7A)]

def asciiSpace : CodeSet := [(0x9, 0xD), (0x20, 0x20)]

def asciiClasses : List (String × CodeSet) := [
  ("alnum", digits ++ letters), ("alpha", letters), ("ascii", [(0, 0x7F)]),
  ("blank", [(0x9, 0x9), (0x20, 0x20)]), ("cntrl", [(0, 0x1F), (0x7F, 0x7F)]),
  ("digit", digits), ("graph", [(0x21, 0x7E)]), ("lower", [(0x61, 0x7A)]),
  ("print", [(0x20, 0x7E)]), ("punct", [(0x21, 0x2F), (0x3A, 0x40), (0x5B, 0x60), (0x7B, 0x7E)]),
  ("space", asciiSpace), ("upper", [(0x41, 0x5A)]), ("word", asciiWord),
  ("xdigit", [(0x30, 0x39), (0x41, 0x46), (0x61, 0x66)])]

/-- The set of a letter behind a backslash: digits, blanks or words. -/
def letterSet (f : Flags) (c : Char) : CodeSet :=
  match c.toLower, f.unicode with
  | 'd', true => Property.decimalDigit
  | 's', true => Property.whiteSpace
  | 'w', true => Property.word
  | 'd', false => digits
  | 's', false => asciiSpace
  | _, _ => asciiWord

/-! Escapes -/

inductive Escape where
  | literal (n : Nat) (isByte : Bool)
  | set (s : CodeSet)
  | look (l : Look)

def isMeta (c : Char) : Bool := "\\.+*?()|[]\x7b\x7d^$#&-~".toList.contains c

/-- Whether a backslash may stand before a character that needs none. -/
def isEscapable (c : Char) : Bool :=
  isMeta c || (c.toNat < 0x80 && !c.isAlphanum && c ≠ '<' && c ≠ '>')

/-- The number that hexadecimal digits give, if it is a scalar value. -/
def scalar? (ds : List Char) : Read Nat := do
  if ds.isEmpty || !ds.all fun c => (hexValue? c).isSome then failure
  let n := hexNumber ds
  if n.isValidChar then return n else failure

/-- Characters up to a closing brace, which is passed. -/
def upToBrace : Nat → List Char → Read (List Char)
  | 0, _ => failure
  | fuel + 1, taken => do
    space
    match ← peek? with
    | none => failure
    | some '\x7d' => skip; return taken.reverse
    | some c => skip; upToBrace fuel (c :: taken)

def braced : Read (List Char) := do upToBrace ((← get).rest.length + 1) []

/-- A fixed number of digits, over blanks that mean nothing. -/
def fixedDigits : Nat → Read (List Char)
  | 0 => return []
  | n + 1 => do
    let c ← next
    if n ≠ 0 then space
    return c :: (← fixedDigits n)

def hexEscape (mark : Char) : Read Escape := do
  space
  if ← take "\x7b" then return .literal (← scalar? (← braced)) false
  else
    let count := if mark = 'x' then 2 else if mark = 'u' then 4 else 8
    let n ← scalar? (← fixedDigits count)
    return .literal n (mark = 'x')

/-- A set of characters by name: one letter, a name, or a property and its value. -/
def namedSet (mark : Char) : Read Escape := do
  let f ← flags
  if !f.unicode then failure
  space
  let (found, unequal) ← (do
    if ← take "\x7b" then
      let name := String.ofList (← braced)
      match name.splitOn "!=", name.splitOn ":", name.splitOn "=" with
      | property :: value :: rest, _, _ =>
        return (Named.findValue? property (String.intercalate "!=" (value :: rest)), true)
      | _, property :: value :: rest, _ =>
        return (Named.findValue? property (String.intercalate ":" (value :: rest)), false)
      | _, _, property :: value :: rest =>
        return (Named.findValue? property (String.intercalate "=" (value :: rest)), false)
      | _, _, _ => return (Named.find? name, false)
    else
      let c ← next
      if c = '\\' then failure
      return (Named.find? (String.singleton c), false) : Read (Option CodeSet × Bool))
  match found with
  | none => failure
  | some s =>
    let s := foldCase f s
    return .set (if (mark = 'P') != unequal then negate f s else s)

/-- What stands in braces behind the edge of a word. Other braces are left for a repetition. -/
def edge (ascii : Bool) : Read Escape := do
  let before ← get
  if !(← take "\x7b") then return .look (.wordEdge ascii)
  space
  match ← peek? with
  | none => failure
  | some c =>
    if !(c.isAlpha || c = '-') then
      set before
      return .look (.wordEdge ascii)
    else
      match String.ofList (← braced) with
      | "start" => return .look (.wordStart ascii)
      | "end" => return .look (.wordEnd ascii)
      | "start-half" => return .look (.wordStartHalf ascii)
      | "end-half" => return .look (.wordEndHalf ascii)
      | _ => failure

/-- What stands behind a backslash. -/
def escape : Read Escape := do
  let c ← next
  let f ← flags
  let ascii := !f.unicode
  let code (n : Nat) : Read Escape := return .literal n false
  match c with
  | 'x' | 'u' | 'U' => hexEscape c
  | 'p' | 'P' => namedSet c
  | 'd' | 's' | 'w' => return .set (letterSet f c)
  | 'D' | 'S' | 'W' => return .set (negate f (letterSet f c))
  | 'a' => code 0x07
  | 'f' => code 0x0C
  | 't' => code 0x09
  | 'n' => code 0x0A
  | 'r' => code 0x0D
  | 'v' => code 0x0B
  | 'A' => return .look .textStart
  | 'z' => return .look .textEnd
  | 'b' => edge ascii
  | 'B' => return .look (.notWordEdge ascii)
  | '<' => return .look (.wordStart ascii)
  | '>' => return .look (.wordEnd ascii)
  | _ => if isEscapable c then code c.toNat else failure

/-! Sets in brackets -/

inductive SetItem where
  | code (n : Nat)
  | members (s : CodeSet)

/-- The code of a literal in brackets. Without Unicode only bytes may be written, those above 127
by their two digits. -/
def setCode (f : Flags) (n : Nat) (isByte : Bool) : Read Nat :=
  if f.unicode || n < 0x80 || (isByte && n < 0x100) then return n else failure

def setItem : Read SetItem := do
  let f ← flags
  match ← next with
  | '\\' =>
    match ← escape with
    | .literal n isByte => return .code (← setCode f n isByte)
    | .set s => return .members s
    | .look _ => failure
  | c => return .code (← setCode f c.toNat false)

/-- A class of ASCII by its name between colons, if one comes next. -/
def asciiClass? : Read (Option CodeSet) := do
  let before ← get
  if !(← take "[:") then return none
  let isNegated ← take "^"
  let s ← get
  let name := String.ofList (s.rest.takeWhile (· ≠ ':'))
  match asciiClasses.lookup name, s.rest.drop name.length with
  | some found, ':' :: ']' :: rest =>
    set { s with rest }
    let found := CodeSet.normal found
    return some (if isNegated then negate s.flags found else found)
  | _, _ =>
    set before
    return none

/-- One item or range. A hyphen before the closing bracket or another hyphen makes no range. -/
def setRange : Read CodeSet := do
  let first ← setItem
  space
  if ← atEnd then failure
  let second ← peekSecond?
  let isRange := (← peek?) = some '-' && second ≠ some ']' && second ≠ some '-'
  match first, isRange with
  | .members s, false => return s
  | .code n, false => return [(n, n)]
  | .members _, true => failure
  | .code low, true =>
    bump
    match ← setItem with
    | .code high => if low ≤ high then return [(low, high)] else failure
    | .members _ => failure

inductive SetOperator where
  | inter
  | diff
  | symmDiff

def SetOperator.apply : SetOperator → CodeSet → CodeSet → CodeSet
  | .inter, a, b => CodeSet.inter a b
  | .diff, a, b => CodeSet.diff a b
  | .symmDiff, a, b => CodeSet.symmDiff a b

/-- The members that come before what is read next, and the depth of brackets in them. -/
structure SetSoFar where
  before : Option (CodeSet × SetOperator) := none
  members : CodeSet := []
  count : Nat := 0
  depth : Nat := 0
  levels : Nat := 0

namespace SetSoFar

def add (p : SetSoFar) (s : CodeSet) (depth : Nat) : SetSoFar :=
  { p with members := p.members ++ s, count := p.count + 1, depth := max p.depth depth }

/-- The set with its last operator applied. -/
def value (f : Flags) (p : SetSoFar) : CodeSet :=
  match p.before with
  | none => CodeSet.normal p.members
  | some (left, op) => op.apply (foldCase f left) (foldCase f (CodeSet.normal p.members))

def itemDepth (p : SetSoFar) : Nat := if 2 ≤ p.count then p.depth + 1 else p.depth

def totalDepth (p : SetSoFar) : Nat := max p.itemDepth p.levels + (if p.before.isSome then 1 else 0)

def operate (f : Flags) (p : SetSoFar) (op : SetOperator) : SetSoFar :=
  { before := some (p.value f, op), levels := p.totalDepth }

end SetSoFar

/-- Hyphens, or else one closing bracket, at the front of a set stand for themselves. -/
def leadingLiterals : Nat → SetSoFar → Read SetSoFar
  | 0, p => return p
  | fuel + 1, p => do
    match ← peek? with
    | some '-' => bump; leadingLiterals fuel (p.add [(0x2D, 0x2D)] 0)
    | some ']' => if p.count = 0 then do bump; return p.add [(0x5D, 0x5D)] 0 else return p
    | _ => return p

mutual

/-- The rest of a set up to its closing bracket. -/
def setRest : Nat → Bool → SetSoFar → Read (CodeSet × Nat)
  | 0, _, _ => failure
  | fuel + 1, isNegated, p => do
    space
    let f ← flags
    match ← peek? with
    | none => failure
    | some '[' =>
      match ← asciiClass? with
      | some s => setRest fuel isNegated (p.add s 0)
      | none =>
        let (s, depth) ← bracketed fuel
        setRest fuel isNegated (p.add s depth)
    | some ']' =>
      skip
      let s := foldCase f (p.value f)
      return (if isNegated then negate f s else s, p.totalDepth + 1)
    | some _ =>
      if ← take "&&" then setRest fuel isNegated (p.operate f .inter)
      else if ← take "--" then setRest fuel isNegated (p.operate f .diff)
      else if ← take "~~" then setRest fuel isNegated (p.operate f .symmDiff)
      else setRest fuel isNegated (p.add (← setRange) 0)

/-- A set in brackets, with its depth. -/
def bracketed : Nat → Read (CodeSet × Nat)
  | 0 => failure
  | fuel + 1 => do
    bump
    let isNegated := (← peek?) = some '^'
    if isNegated then bump
    let p ← leadingLiterals ((← get).rest.length + 1) {}
    setRest fuel isNegated p

end

/-! Groups and repetitions -/

def isNameStart (c : Char) : Bool := c = '_' || Property.alphabetic.mem c.toNat

def isNamePart (c : Char) : Bool :=
  isNameStart c || c = '.' || c = '[' || c = ']'
    || (Category.of c.toNat).group = 'N'

/-- The name of a group up to its closing bracket. No two groups have one name. -/
def groupName : Read Unit := do
  let s ← get
  let name := s.rest.takeWhile (· ≠ '>')
  match name, s.rest.drop name.length with
  | first :: more, '>' :: rest =>
    let text := String.ofList name
    if isNameStart first && more.all isNamePart && !s.names.contains text then
      set { s with rest, names := text :: s.names }
    else failure
  | _, _ => failure

def setFlag (f : Flags) (c : Char) (on : Bool) : Option Flags :=
  match c with
  | 'i' => some { f with ignoreCase := on }
  | 'm' => some { f with multiLine := on }
  | 's' => some { f with dotAll := on }
  | 'u' => some { f with unicode := on }
  | 'R' => some { f with crlf := on }
  | 'x' => some { f with spaced := on }
  | 'U' => some f
  | _ => none

/-- Flags up to a colon or a closing parenthesis, which is returned. No flag stands twice, and
those behind a hyphen, of which there is at least one, are turned off. -/
def groupFlags : Nat → List Char → Flags → Read (Flags × Char × Bool)
  | 0, _, _ => failure
  | fuel + 1, seen, f => do
    let c ← next
    if c = ':' ∨ c = ')' then
      if seen.head? = some '-' then failure else return (f, c, seen.isEmpty)
    else if seen.contains c then failure
    else if c = '-' then groupFlags fuel (c :: seen) f
    else
      let f ← StateT.lift (setFlag f c (!seen.contains '-'))
      groupFlags fuel (c :: seen) f

def isBlankChar (c : Char) : Bool := Property.isWhiteSpace c

def skipBlanks : Read Unit := modify fun s => { s with rest := s.rest.dropWhile isBlankChar }

/-- A number between optional blanks, if there are digits. -/
def decimal? : Read (Option Nat) := do
  skipBlanks
  let s ← get
  let ds := s.rest.takeWhile Char.isDigit
  set { s with rest := s.rest.drop ds.length }
  space
  skipBlanks
  if ds.isEmpty then return none
  let n := ds.foldl (fun n c => 10 * n + (c.toNat - '0'.toNat)) 0
  if n < UInt32.size then return some n else failure

/-- The bounds of a repetition in braces, behind the opening one. -/
def bounds : Read (Nat × Option Nat) := do
  space
  let low ← decimal?
  let range ← (do
    if ← take "," then
      space
      if (← peek?) = some '\x7d' then return (low, none)
      else
        match ← decimal? with
        | some high => return (low, some high)
        | none => failure
    else return (low, low) : Read (Option Nat × Option Nat))
  if !(← take "\x7d") then failure
  match range with
  | (none, _) => failure
  | (some low, high) =>
    match high with
    | some h => if low ≤ h then return (low, high) else failure
    | none => return (low, high)

/-- A repeated item. Each copy that the bounds ask for takes room in the machine. -/
def repeated (m : Measured) (low : Nat) (high : Option Nat) : Read Measured := do
  let copies := match high with
    | some h => h
    | none => low + 1
  let size := copies * (m.size + 8) + 40
  if sizeLimit < size then failure
  return { pattern := .repeats low high m.pattern, depth := m.depth + 1, size }

def literal (f : Flags) (n : Nat) : Measured :=
  let folded := foldCase f [(n, n)]
  if f.unicode || 0x80 ≤ n then
    { pattern := .character folded, size := if folded.length = 1 then 32 * utf8Length n
        else setSize folded }
  else { pattern := .byte folded, size := 40 }

def lookItem (l : Look) : Measured := { pattern := .look l, size := 32 }

def escapeItem : Read Measured := do
  let f ← flags
  match ← escape with
  | .literal n isByte =>
    if !f.unicode && isByte && 0x80 ≤ n then return { pattern := .byte [(n, n)], size := 32 }
    else return literal f n
  | .set s => return ofSet f s
  | .look l => return lookItem l

def dotSet (f : Flags) : CodeSet :=
  let excluded : CodeSet := if f.dotAll then [] else if f.crlf then [(0xA, 0xA), (0xD, 0xD)]
    else [(0xA, 0xA)]
  negate f excluded

/-- One character that is no operator. -/
def primitive (c : Char) : Read Measured := do
  skip
  let f ← flags
  match c with
  | '\\' => escapeItem
  | '.' => return ofSet f (dotSet f)
  | '^' => return lookItem (if f.multiLine then .lineStart f.crlf else .textStart)
  | '$' => return lookItem (if f.multiLine then .lineEnd f.crlf else .textEnd)
  | _ => return literal f c.toNat

/-- Items in a row; an item that only sets flags is none. -/
def sequence (items : List (Option Measured)) : Read Measured := do
  let size := items.foldl (fun n m => n + (m.map (·.size)).getD 0) 0
  let depth := (items.map fun m => (m.map (·.depth)).getD 0).foldl max 0
  if sizeLimit < size then failure
  return {
    pattern := match (items.filterMap id).map (·.pattern) with
      | [] => .empty
      | first :: rest => rest.foldl .seq first
    depth := if items.length ≤ 1 then depth else depth + 1
    size }

def choice (first : Measured) (others : List Measured) : Read Measured := do
  if others.isEmpty then return first
  let all := first :: others
  let size := all.foldl (fun n m => n + m.size + 8) 32
  if sizeLimit < size then failure
  return {
    pattern := others.foldl (fun p m => .alt p m.pattern) first.pattern
    depth := (all.map (·.depth)).foldl max 0 + 1
    size }

mutual

/-- The sequences of a group, between bars. -/
def choices : Nat → Read Measured
  | 0 => failure
  | fuel + 1 => do
    let first ← items fuel []
    let others ← moreChoices fuel
    choice first others

def moreChoices : Nat → Read (List Measured)
  | 0 => failure
  | fuel + 1 => do
    if ← take "|" then
      let m ← items fuel []
      return m :: (← moreChoices fuel)
    else return []

/-- The items up to a bar, a closing parenthesis or the end. Items read so far stand in reverse. -/
def items : Nat → List (Option Measured) → Read Measured
  | 0, _ => failure
  | fuel + 1, done => do
    space
    match ← peek? with
    | none | some '|' | some ')' => sequence done.reverse
    | some '(' =>
      let m ← group fuel
      items fuel (m :: done)
    | some '[' =>
      let f ← flags
      let (s, depth) ← bracketed ((← get).rest.length + 1)
      items fuel (some { ofSet f s with depth } :: done)
    | some c =>
      if c = '*' ∨ c = '+' ∨ c = '?' ∨ c = '\x7b' then
        match done with
        | some m :: done =>
          skip
          let (low, high) ← match c with
            | '*' => pure (0, none)
            | '+' => pure (1, none)
            | '?' => pure (0, some 1)
            | _ => bounds
          if c = '\x7b' then space
          let _ ← take "?"
          items fuel (some (← repeated m low high) :: done)
        | _ => failure
      else
        let m ← primitive c
        items fuel (some m :: done)

/-- A group in parentheses, or flags for the rest of the group around it. -/
def group : Nat → Read (Option Measured)
  | 0 => failure
  | fuel + 1 => do
    skip
    let before ← flags
    space
    if ← take "?" then
      let isName ← (do if ← take "P<" then return true else take "<" : Read Bool)
      if isName then
        match ← peek? with
        | some '=' | some '!' => failure
        | _ => groupName
      else
        let (f, mark, isBare) ← groupFlags ((← get).rest.length + 1) [] before
        if mark = ')' then
          if isBare then failure
          modify fun s => { s with flags := f }
          return none
        modify fun s => { s with flags := f }
    let m ← choices fuel
    if !(← take ")") then failure
    modify fun s => { s with flags := before }
    return some { m with depth := m.depth + 1, size := m.size + 64 }

end

/-- The pattern that a text describes, if it does. -/
def parse? (text : String) : Option Pattern := do
  let chars := text.toList
  let (m, s) ← (choices (2 * chars.length + 4)).run { rest := chars }
  if s.rest.isEmpty && m.depth ≤ depthLimit && m.size ≤ sizeLimit then some m.pattern else none

end RecordPipeline.Pattern
