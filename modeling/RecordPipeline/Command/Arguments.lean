import RecordPipeline.Command.Help

/-!
The arguments of the command line. The file of the configuration and the level of the log can be
given before and after the name of a command; each of the two places takes them once, and the later
place wins.
-/

namespace RecordPipeline.Command

inductive Action where
  | run (noStats : Bool)
  | check (asJson : Bool)
deriving DecidableEq

structure Arguments where
  action : Action := .run false
  config : Option String := none
  logLevel : Option String := none
deriving DecidableEq

/-- Why arguments are not carried out. Asking for help is no mistake. -/
inductive ArgumentStop where
  | help (topic : HelpTopic)
  | version
  | mistake
deriving DecidableEq

/-- What was given in one place. -/
structure Given where
  config : Option String := none
  logLevel : Option String := none
  flag : Bool := false

abbrev Parsed (α : Type) := Except ArgumentStop α

namespace Given

def setConfig (g : Given) (value : String) : Parsed Given :=
  if g.config.isSome || value = "" then .error .mistake else .ok { g with config := some value }

def setLogLevel (g : Given) (value : String) : Parsed Given :=
  if g.logLevel.isSome then .error .mistake else .ok { g with logLevel := some value }

def setFlag (g : Given) : Parsed Given :=
  if g.flag then .error .mistake else .ok { g with flag := true }

end Given

/-- The text behind a beginning. -/
def behind? (start text : String) : Option String :=
  if start.toList.isPrefixOf text.toList then
    some (String.ofList (text.toList.drop start.length))
  else none

/-- Whether an argument can be the value of an option: it does not look like an option itself. -/
def isValue (text : String) : Bool := text = "-" || (behind? "-" text).isNone

/-- The options at the front, up to the first argument that is none. A flag that only a command has
is named where one stands. Two dashes end the options; nothing may stand behind them. -/
def options (topic : HelpTopic) (flagName : Option String) :
    List String → Given → Parsed (Given × List String)
  | [], g => .ok (g, [])
  | arg :: rest, g =>
    if isValue arg then .ok (g, arg :: rest)
    else if arg = "--" then if rest.isEmpty then .ok (g, []) else .error .mistake
    else if arg = "--help" then .error (.help topic)
    else if arg = "--version" ∧ flagName = none then .error .version
    else if flagName = some arg then do options topic flagName rest (← g.setFlag)
    else match behind? "--config=" arg, behind? "--log-level=" arg with
      | some value, _ => do options topic flagName rest (← g.setConfig value)
      | none, some value => do options topic flagName rest (← g.setLogLevel value)
      | none, none =>
        if arg = "--config" ∨ arg = "-c" then
          match rest with
          | value :: rest =>
            if isValue value then do options topic flagName rest (← g.setConfig value)
            else .error .mistake
          | [] => .error .mistake
        else if arg = "--log-level" ∨ arg = "-l" then
          match rest with
          | value :: rest =>
            if isValue value then do options topic flagName rest (← g.setLogLevel value)
            else .error .mistake
          | [] => .error .mistake
        else if (behind? "--" arg).isSome then .error .mistake
        else
          let attached (text : String) : String := (behind? "=" text).getD text
          match behind? "-c" arg, behind? "-l" arg, behind? "-h" arg, behind? "-V" arg with
          | some value, _, _, _ => do options topic flagName rest (← g.setConfig (attached value))
          | _, some value, _, _ => do options topic flagName rest (← g.setLogLevel (attached value))
          | _, _, some _, _ => .error (.help topic)
          | _, _, _, some _ => if flagName = none then .error .version else .error .mistake
          | _, _, _, _ => .error .mistake

/-- What help is asked for by name. A name behind another is none, because no command has commands
of its own. -/
def helpTopic : List String → Parsed HelpTopic
  | [] => .ok .program
  | ["run"] => .ok .run
  | ["check"] => .ok .check
  | ["help"] => .ok .help
  | _ => .error .mistake

/-- What the arguments ask for. -/
def parseArguments (args : List String) : Parsed Arguments := do
  let (before, rest) ← options .program none args {}
  match rest with
  | [] => return { config := before.config, logLevel := before.logLevel }
  | command :: rest =>
    let (topic, flagName) ← match command with
      | "run" => pure (HelpTopic.run, "--no-stats")
      | "check" => pure (HelpTopic.check, "--json")
      | "help" => throw (.help (← helpTopic rest))
      | _ => throw .mistake
    let (after, left) ← options topic (some flagName) rest {}
    if !left.isEmpty then throw .mistake
    return {
      action := if command = "run" then .run after.flag else .check after.flag
      config := after.config.orElse fun _ => before.config
      logLevel := after.logLevel.orElse fun _ => before.logLevel }

end RecordPipeline.Command
