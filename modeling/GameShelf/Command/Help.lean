import GameShelf.Command.Basic

namespace GameShelf

def joinLines (ls : List String) : String := "\n".intercalate ls

def helpOption : List String := ["", "Options:", "  -h, --help  Print help"]

def selectorText (summary usage : String) (long : Bool) : String :=
  if long then
    joinLines [summary, "",
      "Unquoted words are joined with single spaces; quote a name to keep its spacing exact.", "",
      usage, "", "Arguments:", "  <SELECTOR>...", "          ", "", "Options:", "  -h, --help",
      "          Print help (see a summary with '-h')"]
  else
    joinLines [summary, "", usage, "", "Arguments:", "  <SELECTOR>...  ", "", "Options:",
      "  -h, --help  Print help (see more with '--help')"]

def helpText (usage : String) : String :=
  joinLines ["Print this message or the help of the given subcommand(s)", "", usage, "",
    "Arguments:", "  [COMMAND]...  Print help for the subcommand(s)"]

def shellText : String :=
  joinLines (["Filter a board game catalog and keep a list of picks", "",
    "Usage: meeple <COMMAND>", "", "Commands:",
    "  filter  Narrow the current results and sort them",
    "  reset   Drop every filter and start again from the full catalog",
    "  list    Show or change the game list", "  exit    Leave the shell",
    "  help    Print this message or the help of the given subcommand(s)"] ++ helpOption)

def filterText : String :=
  joinLines ["Narrow the current results and sort them", "",
    "Usage: filter [OPTIONS] [EXPR]...", "", "Arguments:",
    "  [EXPR]...  Conditions, e.g. \x60minPlayers>2, rating>=7\x60; quote them to keep " ++
      "repeated spaces",
    "", "Options:", "  -s, --sort <SORT>  Column to sort on [default: name]",
    "  -d, --desc         Sort in descending order", "  -h, --help         Print help"]

def listText : String :=
  joinLines (["Show or change the game list", "", "Usage: list [COMMAND]", "", "Commands:",
    "  show    Print the list",
    "  add     Add games from the last results: all, N, A-B or a name",
    "  remove  Remove games from the list: all, N, A-B or a name", "  clear   Empty the list",
    "  count   Print how many games are listed",
    "  save    Write the list to a file, one name per line",
    "  help    Print this message or the help of the given subcommand(s)"] ++ helpOption)

def bareText (summary usage : String) : String := joinLines ([summary, "", usage] ++ helpOption)

def inColumn (indent : Nat) (text : String) : String :=
  String.ofList (text.toList.flatMap fun c =>
    if c = '\n' then '\n' :: List.replicate indent ' ' else [c])

/-- What the help tells of the catalog that the environment names, and the space behind it up to the
next option. A control sequence in the name goes on through that space. -/
def environmentText (catalog : String) (indent : Nat) (space : String) : String :=
  shownText ("[env: MEEPLE_CATALOG=" ++ inColumn indent catalog ++ "]" ++ space)

def programText (catalog : String) (long : Bool) : String :=
  if long then
    joinLines ["Filter a board game catalog and keep a list of picks.", "",
      "Reads one command per line from stdin; type \x60help\x60 for the commands.", "",
      "Usage: meeple [OPTIONS] --catalog <CATALOG>", "", "Options:", "      --catalog <CATALOG>",
      "          CSV catalog to load", "          ",
      "          " ++ environmentText catalog 10 "\n\n      " ++ "--log-level <LOG_LEVEL>",
      "          Log filter directive (defaults to RUST_LOG, then \"warn\")", "", "      --json",
      "          Print filter results as JSON", "", "  -h, --help",
      "          Print help (see a summary with '-h')", "", "  -V, --version",
      "          Print version"]
  else
    joinLines ["Filter a board game catalog and keep a list of picks", "",
      "Usage: meeple [OPTIONS] --catalog <CATALOG>", "", "Options:",
      "      --catalog <CATALOG>      CSV catalog to load " ++
        environmentText catalog 31 "\n      " ++
        "--log-level <LOG_LEVEL>  Log filter directive (defaults to RUST_LOG, then \"warn\")",
      "      --json                   Print filter results as JSON",
      "  -h, --help                   Print help (see more with '--help')",
      "  -V, --version                Print version"]

def programVersion : String := "meeple 0.1.0"

def Topic.text (topic : Topic) (long : Bool) : String :=
  match topic with
  | .program => programText "" long
  | .shell => shellText
  | .filter => filterText
  | .reset =>
    bareText "Drop every filter and start again from the full catalog" "Usage: reset"
  | .list => listText
  | .exit => bareText "Leave the shell" "Usage: exit"
  | .help => helpText "Usage: help [COMMAND]..."
  | .listPrint => bareText "Print the list" "Usage: list show"
  | .listAdd =>
    selectorText "Add games from the last results: all, N, A-B or a name"
      "Usage: list add <SELECTOR>..." long
  | .listRemove =>
    selectorText "Remove games from the list: all, N, A-B or a name"
      "Usage: list remove <SELECTOR>..." long
  | .listClear => bareText "Empty the list" "Usage: list clear"
  | .listCount => bareText "Print how many games are listed" "Usage: list count"
  | .listSave =>
    joinLines (["Write the list to a file, one name per line", "", "Usage: list save <PATH>", "",
      "Arguments:", "  <PATH>  "] ++ helpOption)
  | .listHelp => helpText "Usage: list help [COMMAND]..."

def Refusal.message : Refusal → String
  | .misuse e => e.message
  | .noCommand => Topic.shell.text true
  | .help topic long => topic.text long
  | .version => programVersion

end GameShelf
