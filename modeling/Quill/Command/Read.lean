import Quill.Command.Request
import Quill.Text.Similar
import Quill.Decimal.Read

set_option autoImplicit false

/-! Reading a command line into a request. Options come first in each part of the line: the
program's options stop at the first word that is not one (the command), while a command's
options and its argument may be mixed, and `--` ends the options. A long option takes its value
after `=` or as the next word; one-letter options may be run together after one `-`, a value
taking the rest of the word or the next word. A misspelt long option is answered with the
options most like it. Once the line is read, the help and version options act first, in the
order they were given; then the other options and the argument are checked in the order they
were given, the rest in their declared order; a left-over word is an error last. -/
namespace Quill.Command

/-- The options met so far, latest first, each with its value if it takes one. -/
abbrev Seen := List (Flag × Option String)

/-- The one-letter options of a run after `-`, given as `chars`, with the words after the run in
`rest`: the options seen and the words left. -/
def shortRun (specs : List OptionSpec) (seen : Seen) (rest : List String) :
    List Char → Except UsageFault (Seen × List String)
  | [] => .ok (seen, rest)
  | c :: more =>
    match specs.find? (·.short == some c) with
    | none => .error (.noSuchOption (String.ofList ['-', c]) [])
    | some o =>
      if o.takesValue then
        if more.isEmpty then
          match rest with
          | v :: after => .ok ((o.flag, some v) :: seen, after)
          | [] => .error (.needsValue (String.ofList ['-', c]))
        else .ok ((o.flag, some (String.ofList more)) :: seen, rest)
      else shortRun specs ((o.flag, none) :: seen) rest more

/-- Option names in alphabetical order. -/
def sortNames (names : List String) : List String :=
  names.mergeSort fun a b => decide (a ≤ b)

/-- One word that starts an option, with the words after it: the options seen and the words
left. -/
def optionWord (specs : List OptionSpec) (seen : Seen) (arg : String) (rest : List String) :
    Except UsageFault (Seen × List String) :=
  let (name, attached) := match arg.splitOn "=" with
    | first :: second :: more => (first, some ("=".intercalate (second :: more)))
    | _ => (arg, none)
  match specs.find? (·.long == name) with
  | some o =>
    if o.takesValue then
      match attached, rest with
      | some v, _ => .ok ((o.flag, some v) :: seen, rest)
      | none, v :: after => .ok ((o.flag, some v) :: seen, after)
      | none, [] => .error (.needsValue name)
    else if attached.isSome then .error (.takesNoValue name)
    else .ok ((o.flag, none) :: seen, rest)
  | none =>
    if arg.startsWith "--" then
      .error (.noSuchOption name (sortNames (Text.closeMatches name (specs.map (·.long)))))
    else shortRun specs seen rest (arg.toList.drop 1)

/-- Reads the options of one part of the line, with the arguments met so far in `args` (latest
first). With `mixed`, arguments may stand among the options; otherwise the first argument ends
them. Gives the options seen and the arguments. -/
def scanLine (specs : List OptionSpec) (mixed : Bool) (seen : Seen) (args : List String) :
    Nat → List String → Except UsageFault (Seen × List String)
  | _, [] => .ok (seen, args.reverse)
  | 0, words => .ok (seen, args.reverse ++ words)
  | fuel + 1, w :: rest =>
    if w = "--" then .ok (seen, args.reverse ++ rest)
    else if w.startsWith "-" ∧ w.length > 1 then
      match optionWord specs seen w rest with
      | .error e => .error e
      | .ok (seen, rest) => scanLine specs mixed seen args fuel rest
    else if mixed then scanLine specs mixed seen (w :: args) fuel rest
    else .ok (seen, args.reverse ++ w :: rest)

/-- Reads the options of a part of the line. -/
def scanWords (specs : List OptionSpec) (mixed : Bool) (words : List String) :
    Except UsageFault (Seen × List String) :=
  scanLine specs mixed [] [] (words.length + 1) words

/-- A parameter of a line: an option or the file argument. -/
inductive Param where
  | option (f : Flag)
  | file
deriving DecidableEq, Repr

/-- Whether a parameter acts before all others. -/
def Param.eager : Param → Bool
  | .option .help | .option .version => true
  | _ => false

/-- The value last given to an option, if it was given at all. -/
def lastGiven (seen : Seen) (f : Flag) : Option (Option String) :=
  (seen.find? (·.1 == f)).map (·.2)

/-- The parameters in the order they are checked: eager ones first, then those given in the
order they were first given, then the rest as declared. -/
def checkOrder (declared given : List Param) : List Param :=
  let key (p : Param) : Nat × Nat := (if p.eager then 0 else 1, given.idxOf p)
  declared.mergeSort fun a b => (key a).1 < (key b).1 ||
    ((key a).1 == (key b).1 && (key a).2 ≤ (key b).2)

/-- Casefolded text, as choices are compared: lower case, and the long s read as `s` and the Kelvin
sign as `k`. -/
def casefold (s : String) : String :=
  String.ofList (s.toList.map fun c =>
    if c = '\u017F' then 's' else if c = '\u212A' then 'k' else c.toLower)

/-- The indentation an option value asks for. -/
def readIndent (v : String) : Except UsageFault Nat :=
  match Decimal.readInteger v with
  | .error _ => .error (.notInteger "--indent" v)
  | .ok n => if n < 0 then .error (.outOfRange "--indent" n 0) else .ok n.toNat

/-- The tree format an option value asks for. -/
def readFormat (v : String) : Except UsageFault TreeFormat :=
  match casefold v with
  | "json" => .ok .json
  | "yaml" => .ok .yaml
  | _ => .error (.notChoice "--format" v ["json", "yaml"])

/-- One check of a parameter: it may end the reading with a request (help, version, or a usage
error of `topic`). -/
def checkParam (topic : Option Name) (seen : Seen) (args : List String) :
    Param → Except Request Unit
  | .option .help => if (lastGiven seen .help).isSome then .error (.help topic) else .ok ()
  | .option .version => if (lastGiven seen .version).isSome then .error .version else .ok ()
  | .file => if args.isEmpty then .error (.usage topic (.missingArgument "FILE")) else .ok ()
  | .option .indent =>
    match lastGiven seen .indent with
    | some (some v) => ((readIndent v).mapError (Request.usage topic)).map fun _ => ()
    | _ => .ok ()
  | .option .format =>
    match lastGiven seen .format with
    | some (some v) => ((readFormat v).mapError (Request.usage topic)).map fun _ => ()
    | _ => .ok ()
  | .option _ => .ok ()

/-- Runs the checks of a line in their order. -/
def checkAll (topic : Option Name) (declared : List Param) (seen : Seen) (args : List String)
    (takesFile : Bool) : Except Request Unit :=
  let given := (seen.reverse.map fun (f, _) => Param.option f) ++
    (if takesFile then [.file] else [])
  (checkOrder declared given).forM (checkParam topic seen args)

/-- Whether a switch was given. -/
def given (seen : Seen) (f : Flag) : Bool := (lastGiven seen f).isSome

/-- The task a command's line asks for, once its checks have passed. -/
def taskOf (n : Name) (seen : Seen) (args : List String) : Task :=
  let file := args.headD "-"
  let value (f : Flag) : Option String := (lastGiven seen f).bind id
  match n with
  | .check => .check file
  | .tokens => .tokens file (given seen .comments)
  | .fmt =>
    let indent := match (value .indent).map readIndent with
      | some (.ok k) => k
      | _ => 2
    .fmt file (given seen .check) (given seen .inPlace) indent
  | .parse =>
    let format := match (value .format).map readFormat with
      | some (.ok f) => f
      | _ => .json
    let output := match value .output with
      | some "" => none
      | o => o
    .parse file format output
  | .version => .version

/-- Reads the words after a command's name. -/
def readCommand (verbose : Bool) (n : Name) (words : List String) : Request :=
  match scanWords n.options true words with
  | .error fault => .usage (some n) fault
  | .ok (seen, args) =>
    let declared := (if n.takesFile then [Param.file] else []) ++ n.options.map
      (Param.option ·.flag)
    match checkAll (some n) declared seen args n.takesFile with
    | .error r => r
    | .ok () =>
      let extra := if n.takesFile then args.drop 1 else args
      if extra.isEmpty then .run verbose (taskOf n seen args)
      else .usage (some n) (.extraArguments extra)

/-- Reads the program's options from `words`: a request that ends the reading, or whether the
line asks for debug lines, and the words after the options. -/
def readProgramOptions (words : List String) : Except Request (Bool × List String) :=
  match scanWords programOptions false words with
  | .error fault => .error (.usage none fault)
  | .ok (seen, rest) =>
    match checkAll none (programOptions.map (Param.option ·.flag)) seen rest false with
    | .error r => .error r
    | .ok () => .ok (given seen .verbose, rest)

/-- What a command line asks for. -/
def Request.ofArgs (words : List String) : Request :=
  if words.isEmpty then .bare
  else
    match readProgramOptions words with
    | .error r => r
    | .ok (_, []) => .usage none .missingCommand
    | .ok (verbose, word :: rest) =>
      match Name.ofWord? word with
      | some n => readCommand verbose n rest
      | none =>
        let again :=
          if word.startsWith "-" then readProgramOptions (word :: rest) else .ok (false, [])
        match again with
        | .error r => r
        | .ok _ => .usage none (.noSuchCommand word)

end Quill.Command
