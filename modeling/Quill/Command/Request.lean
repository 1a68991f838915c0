import Quill.Text.Quoted

set_option autoImplicit false

/-! What the command line asks for, and the texts that describe it: the commands, their options,
the help pages and the usage errors. The program is `quill`; it has the commands `check`,
`fmt`, `parse`, `tokens` and `version`, and every command that reads a file takes it as its one
argument, `-` meaning standard input. -/
namespace Quill.Command

/-- The program's name, as usage lines show it. -/
def program : String := "quill"

/-- The program's version. -/
def release : String := "0.1.0"

/-- The commands. -/
inductive Name where
  | check | fmt | parse | tokens | version
deriving DecidableEq, Repr

namespace Name

/-- Every command, in the order the help page lists them. -/
def all : List Name := [check, fmt, parse, tokens, version]

/-- The word that selects a command. -/
def word : Name → String
  | check => "check" | fmt => "fmt" | parse => "parse" | tokens => "tokens"
  | version => "version"

/-- The command a word selects. -/
def ofWord? (s : String) : Option Name := all.find? (·.word == s)

/-- Whether the command reads a file. -/
def takesFile : Name → Bool
  | version => false
  | _ => true

/-- The paragraphs of the command's help page; the first one also describes it in the
program's help page. -/
def about : Name → List String
  | check => ["Parse a Quill file and report whether it is syntactically valid.",
      "FILE is the path to the .ql file to check."]
  | fmt => ["Format a Quill file to canonical style.",
      "FILE is the path to the .ql file to format.",
      "Without --check or --in-place, prints the formatted output to stdout."]
  | parse => ["Parse a Quill file and dump the AST.",
      "FILE is the path to the .ql file to parse."]
  | tokens => ["Show the token stream of a Quill file.",
      "FILE is the path to the .ql file to tokenize."]
  | version => ["Show detailed version information."]

end Name

/-- The options of the program and its commands. -/
inductive Flag where
  | help | version | verbose | comments | check | inPlace | indent | format | output
deriving DecidableEq, Repr

/-- An option: its long name, its one-letter name if it has one, whether it takes a value and
what the help page says of it (the name column and the description). -/
structure OptionSpec where
  flag : Flag
  long : String
  short : Option Char := none
  takesValue : Bool := false
  shown : String
  description : String
deriving DecidableEq, Repr

/-- The option that shows a help page. -/
def helpOption : OptionSpec :=
  { flag := .help, long := "--help", shown := "--help",
    description := "Show this message and exit." }

/-- The options of the program itself, before any command. -/
def programOptions : List OptionSpec :=
  [{ flag := .version, long := "--version", shown := "--version",
      description := "Show the version and exit." },
    { flag := .verbose, long := "--verbose", short := some 'v', shown := "-v, --verbose",
      description := "Enable debug logging" },
    helpOption]

/-- The options of a command, help last. -/
def Name.options : Name → List OptionSpec
  | .check | .version => [helpOption]
  | .tokens =>
    [{ flag := .comments, long := "--comments", shown := "--comments",
        description := "Include COMMENT tokens" }, helpOption]
  | .fmt =>
    [{ flag := .check, long := "--check", shown := "--check",
        description := "Check if file is already formatted" },
      { flag := .inPlace, long := "--in-place", shown := "--in-place",
        description := "Rewrite the file in place" },
      { flag := .indent, long := "--indent", takesValue := true, shown := "--indent INTEGER RANGE",
        description := "Spaces per block level  [default: 2; x>=0]" },
      helpOption]
  | .parse =>
    [{ flag := .format, long := "--format", takesValue := true, shown := "--format [json|yaml]",
        description := "AST output format" },
      { flag := .output, long := "--output", short := some 'o', takesValue := true,
        shown := "-o, --output TEXT", description := "Output file path (defaults to stdout)" },
      helpOption]

/-- How a tree is written out. -/
inductive TreeFormat where
  | json | yaml
deriving DecidableEq, Repr

/-- A command with its arguments read. -/
inductive Task where
  /-- Report whether a file parses, and how many statements it has. -/
  | check (file : String)
  /-- Show the tokens of a file, comments only when asked. -/
  | tokens (file : String) (comments : Bool)
  /-- Format a file: show it, check it, or write it back, with `indent` spaces a level. -/
  | fmt (file : String) (check inPlace : Bool) (indent : Nat)
  /-- Dump the tree of a file, shown or written to `output`. -/
  | parse (file : String) (format : TreeFormat) (output : Option String)
  /-- Show the version. -/
  | version
deriving DecidableEq, Repr

/-- What is wrong with a command line. -/
inductive UsageFault where
  | noSuchOption (name : String) (suggestions : List String)
  | needsValue (name : String)
  | takesNoValue (name : String)
  | noSuchCommand (word : String)
  | missingCommand
  | missingArgument (metavar : String)
  | extraArguments (args : List String)
  | notInteger (option value : String)
  | outOfRange (option : String) (value : Int) (least : Nat)
  | notChoice (option value : String) (choices : List String)
deriving DecidableEq, Repr

/-- The text of a usage fault, after `Error: `. -/
def UsageFault.message : UsageFault → String
  | .noSuchOption name [] => "No such option " ++ Text.quoted name ++ "."
  | .noSuchOption name [one] =>
    "No such option " ++ Text.quoted name ++ ". Did you mean " ++ Text.quoted one ++ "?"
  | .noSuchOption name many =>
    "No such option " ++ Text.quoted name ++ ". (Did you mean one of: " ++
      ", ".intercalate (many.map Text.quoted) ++ "?)"
  | .needsValue name => "Option " ++ Text.quoted name ++ " requires an argument."
  | .takesNoValue name => "Option " ++ Text.quoted name ++ " does not take a value."
  | .noSuchCommand word => "No such command " ++ Text.quoted word ++ "."
  | .missingCommand => "Missing command."
  | .missingArgument metavar => "Missing argument '" ++ metavar ++ "'."
  | .extraArguments [one] => "Got unexpected extra argument (" ++ one ++ ")"
  | .extraArguments args => "Got unexpected extra arguments (" ++ " ".intercalate args ++ ")"
  | .notInteger option value =>
    "Invalid value for '" ++ option ++ "': " ++ Text.quoted value ++
      " is not a valid integer range."
  | .outOfRange option value least =>
    "Invalid value for '" ++ option ++ "': " ++ toString value ++ " is not in the range x>=" ++
      toString least ++ "."
  | .notChoice option value choices =>
    "Invalid value for '" ++ option ++ "': " ++ Text.quoted value ++ " is not one of " ++
      ", ".intercalate (choices.map Text.quoted) ++ "."

/-- What a command line asks for. -/
inductive Request where
  /-- Run a command, with debug lines when `verbose`. -/
  | run (verbose : Bool) (task : Task)
  /-- Show the help page of the program or of a command. -/
  | help (topic : Option Name)
  /-- Show the program's version. -/
  | version
  /-- Report a usage fault of the program's or a command's line. -/
  | usage (topic : Option Name) (fault : UsageFault)
  /-- No arguments at all: the program's help page, as an error. -/
  | bare
deriving DecidableEq, Repr

/-- The usage line of the program or of a command. -/
def usageLine : Option Name → String
  | none => "Usage: " ++ program ++ " [OPTIONS] COMMAND [ARGS]..."
  | some n => "Usage: " ++ program ++ " " ++ n.word ++ " [OPTIONS]" ++
    (if n.takesFile then " FILE" else "")

/-- Rows of two columns, the second starting two spaces after the widest first cell. -/
def definitionList (rows : List (String × String)) : List String :=
  let widest := (rows.map (·.1.length)).foldl max 0
  rows.map fun (a, b) => "  " ++ a ++ String.ofList
    (List.replicate (widest + 2 - a.length) ' ') ++ b

/-- The help page of the program or of a command, ending in a line feed. -/
def helpPage (topic : Option Name) : String :=
  let about := match topic with
    | none => ["Quill scripting language toolkit: lexer, parser, formatter."]
    | some n => n.about
  let options := match topic with
    | none => programOptions
    | some n => n.options
  let commands := match topic with
    | none => ["", "Commands:"] ++
        definitionList (Name.all.map fun n => (n.word, (n.about.headD "")))
    | some _ => []
  let paragraphs := (about.map ("  " ++ ·)).intersperse ""
  "\n".intercalate ([usageLine topic, ""] ++ paragraphs ++ ["", "Options:"] ++
    definitionList (options.map fun o => (o.shown, o.description)) ++ commands) ++ "\n"

/-- The text of a usage error: the usage line, where to find help, and the fault. -/
def usageError (topic : Option Name) (fault : UsageFault) : String :=
  let command := match topic with
    | none => program
    | some n => program ++ " " ++ n.word
  usageLine topic ++ "\nTry '" ++ command ++ " --help' for help.\n\nError: " ++
    fault.message ++ "\n"

/-- The text of the version option. -/
def versionLine : String := program ++ ", version " ++ release ++ "\n"

end Quill.Command
