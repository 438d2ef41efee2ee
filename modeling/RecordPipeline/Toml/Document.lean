import RecordPipeline.Toml.Scan

/-!
Configuration files as values. A file is a sequence of entries and headers; headers open tables
that later entries fill. A table is defined once: a header may open a table that so far exists only
because of the tables in it, and dotted keys may only extend tables that dotted keys made.
-/

namespace RecordPipeline.Toml

open Scan

/-- A part of a file under construction. A table is implicit when only tables inside of it were
named, and dotted when a dotted key made it. -/
inductive Item where
  | value (v : Toml)
  | table (isImplicit dotted : Bool) (items : List (String × Item))
  | tables (all : List (List (String × Item)))

abbrev Items := Table String Item

/-- The table at the end of a path, given to an edit together with whether it is dotted. Tables on
the way are made when they are not there; of a list of tables the last one is meant. -/
def edit (byDots : Bool) (f : Bool → Items → Option Items) :
    List String → Bool → Items → Option Items
  | [], dotted, items => f dotted items
  | key :: path, _, items =>
    match items.get? key with
    | none =>
      (edit byDots f path byDots []).map fun sub => items.put key (.table true byDots sub)
    | some (.value _) => none
    | some (.tables all) =>
      match all.getLast? with
      | none => none
      | some last =>
        (edit byDots f path false last).map fun sub =>
          items.put key (.tables (all.dropLast ++ [sub]))
    | some (.table isImplicit dotted sub) =>
      if byDots && !isImplicit then none
      else (edit byDots f path dotted sub).map fun sub =>
        items.put key (.table isImplicit dotted sub)

/-- Adds the entry of a key path. -/
def addEntry (path : List String) (v : Toml) (items : Items) : Option Items :=
  let parents := path.dropLast
  let key := path.getLast?.getD ""
  edit (!parents.isEmpty) (fun dotted sub =>
    if dotted = parents.isEmpty || sub.has key then none
    else some (sub.put key (.value v))) parents false items

mutual

def Item.toToml : Item → Toml
  | .value v => v
  | .table _ _ items => .table (entriesOf items)
  | .tables all => .array (tablesOf all)

def entriesOf : List (String × Item) → List (String × Toml)
  | [] => []
  | (key, item) :: rest => (key, item.toToml) :: entriesOf rest

def tablesOf : List (List (String × Item)) → List Toml
  | [] => []
  | items :: rest => .table (entriesOf items) :: tablesOf rest

end

/-- Entries between commas, each read in turn, up to the closing mark. -/
def separated {α : Type} (entry : Scan α) (fuel : Nat) : Scan (List α) := do
  match ← optional entry with
  | none => return []
  | some first => return first :: (← many (do char ','; entry) fuel)

/-- A value at some depth of nesting, as far as the fuel goes. -/
def value : Nat → Nat → Scan Toml
  | 0, _ => failure
  | fuel + 1, depth => do
    match ← next? with
    | some '"' | some '\'' => return .string (← stringValue)
    | some '[' =>
      if depth + 1 < depthLimit then
        char '['
        let items ← separated (do gap; let v ← value fuel (depth + 1); gap; return v)
          (← input).length
        let _ ← if items.isEmpty then pure none else optional (char ',')
        gap
        char ']'
        return .array items
      else failure
    | some '{' =>
      if depth + 1 < depthLimit then
        char '{'
        let entries ← separated (do
          let path ← keyPath
          char '='
          blanks
          let v ← value fuel (depth + 1)
          blanks
          return (path, v)) (← input).length
        blanks
        char '}'
        let items ← StateT.lift (entries.foldlM (fun items e => addEntry e.1 e.2 items) [])
        return .table (entriesOf items)
      else failure
    | some 't' => exactly "true"; return .boolean true
    | some 'f' => exactly "false"; return .boolean false
    | _ => numberValue

/-- A file that is being read: the tables that are finished, and the one that entries go to. -/
structure Draft where
  root : Items := []
  current : Items := []
  path : List String := []
  inList : Bool := false

namespace Draft

/-- Puts the current table into its place. -/
def finish (d : Draft) : Option Items :=
  match d.path.getLast? with
  | none => some d.current
  | some key =>
    edit false (fun _ parent =>
      if d.inList then
        match parent.get? key with
        | none => some (parent.put key (.tables [d.current]))
        | some (.tables all) => some (parent.put key (.tables (all ++ [d.current])))
        | some _ => none
      else some (parent.put key (.table false false d.current))) d.path.dropLast false d.root

/-- Opens the table of a header. One that exists must be implicit; it is taken out of its place
until it is finished. -/
def openTable (d : Draft) (path : List String) : Option Draft := do
  let root ← d.finish
  let key := path.getLast?.getD ""
  let parents := path.dropLast
  let found ← edit false (fun _ parent =>
    match parent.get? key with
    | none => some parent
    | some (.table true false _) => some parent
    | some _ => none) parents false root
  let before := lookup found parents key
  let root ← edit false (fun _ parent => some (parent.erase key)) parents false found
  return { root, current := before, path, inList := false }
where
  /-- The entries of an existing table at the end of a path. -/
  lookup (items : Items) (parents : List String) (key : String) : Items :=
    match parents with
    | [] => match items.get? key with
      | some (.table _ _ sub) => sub
      | _ => []
    | p :: rest => match items.get? p with
      | some (.table _ _ sub) => lookup sub rest key
      | some (.tables all) => lookup (all.getLast?.getD []) rest key
      | _ => []

/-- Opens the next table of a list of tables. -/
def openListed (d : Draft) (path : List String) : Option Draft := do
  let root ← d.finish
  let key := path.getLast?.getD ""
  let root ← edit false (fun _ parent =>
    match parent.get? key with
    | none => some (parent.put key (.tables []))
    | some (.tables _) => some parent
    | some _ => none) path.dropLast false root
  return { root, current := [], path, inList := true }

end Draft

/-- One header, entry, comment or empty line. -/
def statement (d : Draft) : Scan Draft := do
  match ← next? with
  | some '#' => comment; lineFeed <|> atEnd; return d
  | some '\n' | some '\r' => lineFeed; return d
  | some '[' =>
    (do
      exactly "[["
      let path ← keyPath
      exactly "]]"
      lineEnd
      StateT.lift (d.openListed path))
    <|> (do
      char '['
      let path ← keyPath
      char ']'
      lineEnd
      StateT.lift (d.openTable path))
  | _ =>
    let path ← keyPath
    char '='
    blanks
    let v ← value (2 * (← input).length + 2) 0
    lineEnd
    let current ← StateT.lift (addEntry path v d.current)
    return { d with current }

def statements : Nat → Draft → Scan Draft
  | 0, d => return d
  | fuel + 1, d => do
    blanks
    if (← input).isEmpty then return d
    statements fuel (← statement d)

/-- The top table of a file. One byte order mark in front is skipped. -/
def parse? (text : String) : Option (Table String Toml) := do
  let chars := match text.toList with
    | '\uFEFF' :: rest => rest
    | all => all
  let (draft, _) ← (statements (chars.length + 1) {}).run chars
  return entriesOf (← draft.finish)

end RecordPipeline.Toml
