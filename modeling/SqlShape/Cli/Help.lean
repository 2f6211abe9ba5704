import SqlShape.Cli.Arguments

/-!
# Help and version

The texts that the command line prints about itself.
-/

namespace SqlShape.Cli

/-- The name and version of the program. -/
def versionText : String :=
  "relq 0.1.0\n"

/-- What every help text starts with. -/
def usageLine : String :=
  "Usage: relq [OPTIONS] <QUERY>"

/-- The help in short. -/
def shortHelp : List String := [
  "relq - compile relational query shapes to parameterized SQL",
  "",
  usageLine,
  "",
  "Arguments:",
  "  <QUERY>  Query shape (JSON)",
  "",
  "Options:",
  "  -p, --params <PARAMS>      Parameter values as a JSON object of name to plain JSON value",
  "  -C, --config <CONFIG>      Config file path (TOML)",
  "      --provider <PROVIDER>  Target provider (sqlserver, sqlite); overrides the config file",
  "      --relational-nulls     Use plain SQL equality for nullable operands",
  "  -f, --format <FORMAT>      Output format [default: text] [possible values: text, json]",
  "  -v, --verbose              Enable verbose logging",
  "  -h, --help                 Print help (see more with '--help')",
  "  -V, --version              Print version"]

/-- The help at length. -/
def longHelp : List String := [
  "relq - compile relational query shapes to parameterized SQL",
  "",
  usageLine,
  "",
  "Arguments:",
  "  <QUERY>",
  "          Query shape (JSON)",
  "",
  "Options:",
  "  -p, --params <PARAMS>",
  "          Parameter values as a JSON object of name to plain JSON value",
  "",
  "  -C, --config <CONFIG>",
  "          Config file path (TOML)",
  "",
  "      --provider <PROVIDER>",
  "          Target provider (sqlserver, sqlite); overrides the config file",
  "",
  "      --relational-nulls",
  "          Use plain SQL equality for nullable operands",
  "",
  "  -f, --format <FORMAT>",
  "          Output format",
  "",
  "          Possible values:",
  "          - text: Command text followed by a parameter table",
  "          - json: Single JSON document",
  "          ",
  "          [default: text]",
  "",
  "  -v, --verbose",
  "          Enable verbose logging",
  "",
  "  -h, --help",
  "          Print help (see a summary with '-h')",
  "",
  "  -V, --version",
  "          Print version"]

/-- The help text. -/
def helpText (long : Bool) : String :=
  "\n".intercalate (if long then longHelp else shortHelp) ++ "\n"

/-- The text for faulty arguments. -/
def usageText (fault : UsageFault) : String :=
  "error: " ++ fault.message ++ "\n\n" ++ usageLine ++ "\n\nFor more information, try '--help'.\n"

end SqlShape.Cli
