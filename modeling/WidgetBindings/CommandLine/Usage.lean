import WidgetBindings.Text.Quoted

namespace WidgetBindings.CommandLine

/-! The options of the command line and their spellings. -/

/-- Options that take a value. -/
inductive Setting
  | input
  | output
  | includeDir
  | define
  | lib
deriving DecidableEq, Repr

/-- Options that stand alone. -/
inductive Switch
  | help
  | separated
  | listFunctions
  | listWidgets
  | debug
deriving DecidableEq, Repr

inductive Opt
  | valued (setting : Setting)
  | lone (switch : Switch)
deriving DecidableEq, Repr

/-- Every spelling, in the order in which messages list them. -/
def spellings : List (Text × Opt) :=
  [("-h", .lone .help), ("--help", .lone .help), ("-i", .valued .input),
    ("--input", .valued .input), ("-o", .valued .output), ("--output", .valued .output),
    ("-I", .valued .includeDir), ("-D", .valued .define), ("--prefix", .valued .lib),
    ("--strict-widget-prefix", .lone .separated), ("--list-functions", .lone .listFunctions),
    ("--list-widgets", .lone .listWidgets), ("--debug", .lone .debug)]

/-- All spellings of an option, as messages name it. -/
def Opt.title (opt : Opt) : Text :=
  ("/" : Text).intercalate ((spellings.filter (·.2 = opt)).map (·.1))

inductive UsageError
  | ambiguous (word : Text) (candidates : List Text)
  | expectsValue (setting : Setting)
  | ignoredValue (switch : Switch) (value : Text)
  | missing (setting : Setting)
  | unrecognized (words : List Text)
deriving DecidableEq, Repr

/-! What the command says about itself and about a command line that it cannot use. -/

def unlines (lines : List String) : Text :=
  lines.flatMap fun line => line.toList ++ ['\n']

def usage : Text :=
  unlines [
    "usage: lvgl-codegen [-h] -i INPUT [-o OUTPUT] [-I INCLUDE_DIRS] [-D DEFINES]",
    "                    [--prefix PREFIX] [--strict-widget-prefix]",
    "                    [--list-functions] [--list-widgets] [--debug]"]

def help : Text :=
  usage ++ unlines [
    "",
    "LVGL Rust widget wrapper generator",
    "",
    "options:",
    "  -h, --help            show this help message and exit",
    "  -i INPUT, --input INPUT",
    "                        Preprocessed C file containing the whole LVGL API",
    "                        (lvgl_full.c).",
    "  -o OUTPUT, --output OUTPUT",
    "                        File to write the generated Rust code to. Defaults to",
    "                        stdout.",
    "  -I INCLUDE_DIRS       Include directory passed to clang.",
    "  -D DEFINES            Preprocessor define passed to clang.",
    "  --prefix PREFIX       Library function prefix (default: lv_).",
    "  --strict-widget-prefix",
    "                        Only assign functions named <prefix><widget>_... to a",
    "                        widget (avoids btn/btnmatrix over-matching).",
    "  --list-functions      Print the loaded function names and exit.",
    "  --list-widgets        Print the extracted widget names and exit.",
    "  --debug               Enable debug logging."]

namespace UsageError

def message : UsageError → Text
  | .ambiguous word candidates =>
      "ambiguous option: " ++ word ++ " could match " ++ (", " : Text).intercalate candidates
  | .expectsValue setting => "argument " ++ (Opt.valued setting).title ++ ": expected one argument"
  | .ignoredValue switch value =>
      "argument " ++ (Opt.lone switch).title ++ ": ignored explicit argument " ++ Text.quoted value
  | .missing setting =>
      "the following arguments are required: " ++ (Opt.valued setting).title
  | .unrecognized words => "unrecognized arguments: " ++ (" " : Text).intercalate words

def report (error : UsageError) : Text :=
  usage ++ "lvgl-codegen: error: " ++ error.message ++ "\n"

end UsageError

end WidgetBindings.CommandLine
