import Gateway.CommandLine.Arguments

namespace Gateway.CommandLine

def programHelp : List String := [
  "Audit API gateway configurations against best practices",
  "",
  "Usage: gateway-audit <COMMAND>",
  "",
  "Commands:",
  "  audit   Report best-practice recommendations for a configuration",
  "  encode  Write the compact snapshot of a configuration",
  "  decode  Print a compact snapshot as JSON",
  "  help    Print this message or the help of the given subcommand(s)",
  "",
  "Options:",
  "  -h, --help  Print help"]

def verbHelp : Verb → List String
  | .audit => [
      "Report best-practice recommendations for a configuration",
      "",
      "Usage: gateway-audit audit [OPTIONS] <CONFIG>",
      "",
      "Arguments:",
      "  <CONFIG>  Configuration file (.json or .toml)",
      "",
      "Options:",
      "  -e, --exclude <EXCLUDE>    Rule ID to skip; repeatable",
      "  -s, --severity <SEVERITY>  Severity to report; repeatable, all when omitted",
      "      --settings <SETTINGS>  TOML file with `exclude` and `severities`",
      "      --json                 Print the full result as JSON",
      "  -h, --help                 Print help"]
  | .encode => [
      "Write the compact snapshot of a configuration",
      "",
      "Usage: gateway-audit encode --output <OUTPUT> <CONFIG>",
      "",
      "Arguments:",
      "  <CONFIG>  ",
      "",
      "Options:",
      "  -o, --output <OUTPUT>  ",
      "  -h, --help             Print help"]
  | .decode => [
      "Print a compact snapshot as JSON",
      "",
      "Usage: gateway-audit decode <INPUT>",
      "",
      "Arguments:",
      "  <INPUT>  ",
      "",
      "Options:",
      "  -h, --help  Print help"]

def helpVerbHelp : List String := [
  "Print this message or the help of the given subcommand(s)",
  "",
  "Usage: gateway-audit help [COMMAND]...",
  "",
  "Arguments:",
  "  [COMMAND]...  Print help for the subcommand(s)"]

end Gateway.CommandLine
