import RecordPipeline.Command.Arguments
import RecordPipeline.Command.Check
import RecordPipeline.Command.Run

/-!
Carrying out a command line: the configuration is loaded, and a command runs with it.
-/

namespace RecordPipeline.Command

structure Outcome where
  code : Nat
  /-- The text of an error that ended the command. -/
  errorText : String := ""
  environment : Environment
  report : List String := []

/-- The files that are looked for, in order, when no file is named. -/
def standardPaths : List String := ["sluice.toml", "configs/sluice.toml"]

def versionText : String := "sluice 0.1.0\n"

/-- The configuration in a file. -/
def readConfig (files : FileSystem) (path : String) : Except ConfigError Config :=
  match files.read path with
  | .error e => .error (.io path e)
  | .ok content =>
    match content.toString? with
    | none => .error (.io path .notText)
    | some text => Config.ofText text

/-- The configuration in the named file, else in the first file that is there, else the one that
holds where nothing is said. -/
def loadConfig (files : FileSystem) (path : Option String) : Except CommandError Config :=
  let load (path : String) : Except CommandError Config :=
    (readConfig files path).mapError fun e =>
      ⟨s!"failed to load configuration from {path}", e.causes⟩
  match path with
  | some path =>
    if files.has path then load path else .error ⟨s!"config file not found: {path}", []⟩
  | none =>
    match standardPaths.find? files.has with
    | some path => load path
    | none => .ok {}

/-- The files in which the configuration can be. -/
def configPaths (args : List String) : List String :=
  match parseArguments args with
  | .ok a => a.config.elim standardPaths fun path => [path]
  | .error _ => []

/-- The file that the source reads, and the directories of the sink and of the uploader. -/
def touchedPaths (c : Config) : List String :=
  (match c.source with | .file path _ => [path] | .stdin _ => [])
    ++ (match c.sink with | .file sink => [sink.dir] | _ => [])
    ++ (match c.uploader with | some (.move destination) => [destination] | none => [])

/-- What the arguments make the program touch, as far as its configuration can be read. -/
def reach (args : List String) (files : FileSystem) : List String :=
  match parseArguments args with
  | .ok a => ((loadConfig files a.config).toOption.map touchedPaths).getD []
  | .error _ => []

/-- Whether the arguments make the program read its standard input. -/
def readsInput (args : List String) (files : FileSystem) : Bool :=
  match parseArguments args with
  | .ok { action := .run _, config, .. } =>
    match loadConfig files config with
    | .ok { source := .stdin _, .. } => true
    | _ => false
  | _ => false

/-- Prints a text, as far as it can be printed. -/
def printed (environment : Environment) (text : String) : Environment :=
  (environment.print (Bytes.ofString text)).2

def execute (args : List String) (available : Nat) (environment : Environment) : Outcome :=
  let failed (environment : Environment) (report : List String) (e : CommandError) : Outcome :=
    { code := 1, errorText := e.report, environment, report }
  match parseArguments args with
  | .error .mistake => { code := 2, environment }
  | .error (.help topic) => { code := 0, environment := printed environment topic.text }
  | .error .version => { code := 0, environment := printed environment versionText }
  | .ok a =>
    match loadConfig environment.files a.config with
    | .error e => failed environment [] e
    | .ok c =>
      match a.action with
      | .check asJson =>
        match check c asJson available with
        | .error e => failed environment [] e
        | .ok text => { code := 0, environment := printed environment text }
      | .run noStats =>
        let o := run c noStats available environment
        match o.result with
        | .error e => failed o.environment o.report e
        | .ok () => { code := 0, environment := o.environment, report := o.report }

end RecordPipeline.Command
