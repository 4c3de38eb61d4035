/-!
# Help texts

What the command line prints when it is asked for help, at length and in short.
-/

namespace RuneGrid

namespace CommandLine

/-- The home page of the language. -/
def languageUrl : String := "https://esolangs.org/wiki/ᚱᚢᚾᛅᛦ"

def usage : String :=
  "Usage: runar [OPTIONS] <FILE>\n"

/-- A stanza on reading runes, with its poet. -/
def stanza : List String :=
  ["  Skalat maðr Rúnaʀ rísta,",
    "  nema ráða vel kunni;",
    "  þat verðr mǫrgum manni,",
    "  es of myrkan staf villisk;",
    "  sák á telgðu tálkni",
    "  tíu launstafi ristna,",
    "  þat hefr lauka lindi",
    "  langs oftrega fengit.",
    "    -- Egill Skallagrímsson."]

def longHelp : String :=
  "\n".intercalate
    (["ᚱᚢᚾᛅᛦ", ""] ++ stanza ++ ["", languageUrl, "", usage,
      "Arguments:",
      "  <FILE>",
      "          Source file to run",
      "",
      "Options:",
      "      --debug",
      "          Trace every executed instruction to stdout",
      "",
      "      --max-ticks <MAX_TICKS>",
      "          Give up after this many ticks instead of running until `end`",
      "",
      "      --report-json <REPORT_JSON>",
      "          Write a JSON run report to this path",
      "",
      "      --quiet",
      "          Skip the GRID/POSITIONS listing before execution",
      "",
      "  -h, --help",
      "          Print help (see a summary with '-h')",
      ""])

def shortHelp : String :=
  "\n".intercalate
    ["Interpreter for the runic two-dimensional language ᚱᚢᚾᛅᛦ.",
      "",
      usage,
      "Arguments:",
      "  <FILE>  Source file to run",
      "",
      "Options:",
      "      --debug                      Trace every executed instruction to stdout",
      "      --max-ticks <MAX_TICKS>      "
        ++ "Give up after this many ticks instead of running until `end`",
      "      --report-json <REPORT_JSON>  Write a JSON run report to this path",
      "      --quiet                      Skip the GRID/POSITIONS listing before execution",
      "  -h, --help                       Print help (see more with '--help')",
      ""]

end CommandLine

end RuneGrid
