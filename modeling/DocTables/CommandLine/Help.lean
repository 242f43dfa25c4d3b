import DocTables.CommandLine.Basic

/-!
# Help texts
-/

namespace DocTables.CommandLine

/-- The number of the version. -/
def versionNumber : String := "0.1.0"

/-- What a command does, in one line. -/
def Command.summary : Command → String
  | .ddl => "Print the CREATE TABLE and CREATE INDEX statements of schema files"
  | .plan => "Show the steps needed to bring each table in line, without applying them"
  | .alter => "Migrate each table to its schema file"

/-- What the help command does, in one line. -/
def helpSummary : String := "Print this message or the help of the given subcommand(s)"

/-- The lines of the help about the program of a name. -/
def programHelp (program : String) : List String :=
  ["Non-destructive SQLite table migrations driven by property schemas",
    "",
    "Usage: " ++ program ++ " [OPTIONS] <COMMAND>",
    "",
    "Commands:",
    "  ddl    " ++ Command.ddl.summary,
    "  plan   " ++ Command.plan.summary,
    "  alter  " ++ Command.alter.summary,
    "  help   " ++ helpSummary,
    "",
    "Options:",
    "  -d, --database <DATABASE>            Database URL (SQLite path or connection string) " ++
      "[env: DATABASE_URL=] [default: sqlite:db.sqlite3]",
    "  -v, --verbose                        Enable verbose output",
    "      --shadow-suffix <SHADOW_SUFFIX>  Suffix of the shadow table used when a table is " ++
      "rebuilt [default: _shadow]",
    "      --no-indexes                     Skip creating indexes",
    "  -h, --help                           Print help",
    "  -V, --version                        Print version"]

/-- The lines of the help about a command. -/
def commandHelp (program : String) (command : Command) : List String :=
  [command.summary,
    "",
    "Usage: " ++ program ++ " " ++ command.word ++ " <FILES>...",
    "",
    "Arguments:",
    "  <FILES>...  Schema files",
    "",
    "Options:",
    "  -h, --help  Print help"]

/-- The lines of the help about help. -/
def helpHelp (program : String) : List String :=
  [helpSummary,
    "",
    "Usage: " ++ program ++ " help [COMMAND]...",
    "",
    "Arguments:",
    "  [COMMAND]...  Print help for the subcommand(s)"]

/-- The help text about a topic. -/
def helpText (program : String) (topic : Topic) : String :=
  let lines := match topic with
    | .program => programHelp program
    | .command command => commandHelp program command
    | .help => helpHelp program
  String.join (lines.map (· ++ "\n"))

/-- The text with the version. -/
def versionText (program : String) : String := program ++ " " ++ versionNumber ++ "\n"

end DocTables.CommandLine
