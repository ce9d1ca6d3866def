import LojbanTree.View.Letter

/-!
# What the program says about itself
-/

namespace LojbanTree

namespace CommandLine

/-- The name and the version of the program. -/
def versionText : String := "camxes-postproc 0.1.0\n"

/-- How the program is called. -/
def usageLine : String := "Usage: camxes-postproc [OPTIONS] [path]"

/-- What the arguments mean. -/
def helpText : String :=
  "\n".intercalate
    [ "Trim, flatten and pretty print camxes parse trees",
      "",
      usageLine,
      "",
      "Arguments:",
      "  [path]  Path to a JSON parse tree ('-' or nothing reads stdin)",
      "",
      "Options:",
      "  -m, --mode <mode>            Mode letters (e.g. 'CTN') or a legacy " ++
        "numeric code; 'L' loops over stdin",
      "  -f, --format <format>        Output format: auto, json or text",
      "  -c, --config <config>        TOML configuration file layered over " ++
        "the defaults",
      "      --max-depth <max-depth>  Deepest tree nesting accepted",
      "      --loop                   Read one parse tree per stdin line " ++
        "until end of input",
      "      --list-options           List the mode letters and exit",
      "  -h, --help                   Print help",
      "  -V, --version                Print version",
      "" ]

/-- The letters of a mode with their meanings. -/
def lettersText : String :=
  "\n".intercalate
    (["Available mode letters:", ""] ++
      Letter.all.map (fun letter => s!"  {letter.char}  {letter.description}") ++
      ["", "Legacy numeric modes 0-31 are accepted as well.", ""])

end CommandLine

end LojbanTree
