/-!
The help texts of the command line: what a command does, how it is called, and its commands,
arguments and options in columns.
-/

namespace RecordPipeline.Command

/-- What help is about. -/
inductive HelpTopic where
  | program
  | run
  | check
  | help
deriving DecidableEq

/-- A heading with entries below it, each with its explanation. -/
structure HelpSection where
  heading : String
  entries : List (String × String)

namespace HelpSection

/-- How far the explanations stand behind the start of the entries. -/
def width (s : HelpSection) : Nat :=
  (s.entries.map fun entry => entry.1.length).foldl max 0 + 2

def text (s : HelpSection) : String :=
  s.heading ++ ":\n" ++ String.join (s.entries.map fun (label, meaning) =>
    "  " ++ String.ofList (label.toList.rightpad s.width ' ') ++ meaning ++ "\n")

end HelpSection

namespace HelpTopic

def configEntry : String × String :=
  ("-c, --config <CONFIG>", "Path to configuration file (error if specified but not found)")

def logLevelEntry : String × String :=
  ("-l, --log-level <LOG_LEVEL>",
    "Log level (trace, debug, info, warn, error). Overrides config file")

def helpEntry : String × String := ("-h, --help", "Print help")

def purpose : HelpTopic → String
  | .program => "Record pipeline CLI: source, filter chain, sharded sinks and uploader"
  | .run => "Run the pipeline until the source ends or Ctrl-C"
  | .check => "Validate the configuration and print the resolved topology"
  | .help => "Print this message or the help of the given subcommand(s)"

def usage : HelpTopic → String
  | .program => "sluice [OPTIONS] [COMMAND]"
  | .run => "sluice run [OPTIONS]"
  | .check => "sluice check [OPTIONS]"
  | .help => "sluice help [COMMAND]..."

def sections : HelpTopic → List HelpSection
  | .program => [
      ⟨"Commands", [("run", purpose .run), ("check", purpose .check), ("help", purpose .help)]⟩,
      ⟨"Options", [configEntry, logLevelEntry, helpEntry, ("-V, --version", "Print version")]⟩]
  | .run => [⟨"Options", [configEntry, ("    --no-stats", "Disable the periodic stats report"),
      logLevelEntry, helpEntry]⟩]
  | .check => [⟨"Options", [configEntry, ("    --json", "Print the resolved topology as JSON"),
      logLevelEntry, helpEntry]⟩]
  | .help => [⟨"Arguments", [("[COMMAND]...", "Print help for the subcommand(s)")]⟩]

def text (topic : HelpTopic) : String :=
  topic.purpose ++ "\n\nUsage: " ++ topic.usage ++ "\n\n"
    ++ String.intercalate "\n" (topic.sections.map HelpSection.text)

end HelpTopic

end RecordPipeline.Command
