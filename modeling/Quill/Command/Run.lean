import Quill.Command.Read
import Quill.Command.Store
import Quill.Console.Markup
import Quill.Console.Wrap
import Quill.Console.Table
import Quill.Console.Listing
import Quill.Tree.Parse
import Quill.Tree.Format
import Quill.Tree.Exchange

set_option autoImplicit false

/-! Running a request over a store of files. Messages are console markup, wrapped to a console
of 100 cells; token listings are tables and formatted code and trees are numbered listings.
Reading a file or standard input turns every line break into a line feed. A failure to read a
file, to scan or to parse ends the run with status 1 after a message on the error stream; a
usage error ends it with status 2; a fault the program does not expect (a file that cannot be
written, markup that cannot be shown, a number too long to read) stops it with status 1 and the
kind of the fault. With debug lines asked for, each stage reports on the error stream. -/
namespace Quill.Command

open Quill.Console

/-- The width of the console, in cells. -/
def consoleWidth : Nat := 100

/-- What a run leaves: its status, the text of the two streams, the files afterwards, and the
kind of the fault that stopped it, if one did. -/
structure Outcome where
  status : Nat
  out : String
  err : String
  store : Store
  fault : Option String := none
deriving Repr

/-- Why a run stops early. -/
inductive Halt where
  /-- The program exits with a status. -/
  | exit (status : Nat)
  /-- A fault of the given kind stops the program. -/
  | fault (kind : String)
deriving DecidableEq, Repr

/-- A run: it writes to the streams and the store, and may stop early. -/
abbrev Run := ExceptT Halt (StateM Outcome)

namespace Run

/-- Stops with a status. -/
def exit {α : Type} (status : Nat) : Run α := throw (.exit status)

/-- Characters cut to `n` cells when they take more. -/
def cropTo (n : Nat) (cs : List Char) : List Char := if width cs > n then fit cs n else cs

/-- Lines cut to the console width and each ended by a line feed. -/
def block (lines : List String) : String :=
  String.join (lines.map fun l => String.ofList (cropTo consoleWidth l.toList) ++ "\n")

/-- The lines that console markup prints as, or the fault that stops the run. -/
def shown (markup : String) : Run String :=
  match Markup.render markup with
  | .ok text => return block (wrap .none .fold consoleWidth text)
  | .error e => throw (.fault e.kind)

/-- Prints console markup on the output stream. -/
def say (markup : String) : Run Unit := do
  let text ← shown markup
  modify fun o => { o with out := o.out ++ text }

/-- Prints console markup on the error stream. -/
def warn (markup : String) : Run Unit := do
  let text ← shown markup
  modify fun o => { o with err := o.err ++ text }

/-- Prints lines on the output stream as they are. -/
def sayLines (lines : List String) : Run Unit :=
  modify fun o => { o with out := o.out ++ block lines }

/-- A debug line of `source` on the error stream, when debug lines are on. -/
def debug (verbose : Bool) (source message : String) : Run Unit :=
  if verbose then
    modify fun o => { o with err := o.err ++ "DEBUG " ++ source ++ ": " ++ message ++ "\n" }
  else pure ()

end Run

open Run

/-- The text of a file, or of standard input for `-`, with line breaks read as line feeds. -/
def readSource (stdin : String) (file : String) : Run String := do
  let unify (s : String) := String.ofList (Text.unifyBreaks s.toList)
  if file = "-" then return unify stdin
  match (← get).store.read file with
  | .ok text => return unify text
  | .error .notFound => warn ("[red]Error:[/red] File not found: " ++ file); exit 1
  | .error f => warn ("[red]Error:[/red] Cannot read " ++ file ++ ": " ++ f.describe file); exit 1

/-- The tokens of a source, or a message and status 1. -/
def scanSource (verbose : Bool) (source path : String) : Run (List Token) :=
  match scan source with
  | .error e => do
    warn ("[red]Lex error[/red] in " ++ path ++ ": " ++ Markup.escape e.message); exit 1
  | .ok tokens => do
    debug verbose "quill.lexer.lexer" ("Scanned " ++ toString tokens.length ++ " token(s) from " ++
      toString source.length ++ " character(s)")
    return tokens

/-- The depth from which a command parses its source and writes its data form: below the runner,
the command line's dispatch and the command itself. -/
def parseDepth : Nat := 12

/-- The level of the stack from which a command's body calls the formatter. -/
def commandDepth : Nat := 10

/-- The program a source holds, or a message and status 1. -/
def parseSource (verbose : Bool) (source path : String) : Run Program := do
  debug verbose "quill.cli.main"
    ("Parsing " ++ path ++ " (" ++ toString source.length ++ " characters)")
  let tokens ← scanSource verbose source path
  match parseTokens tokens parseDepth with
  | .ok p => do
    debug verbose "quill.parser.parser"
      ("Parsed " ++ toString p.body.length ++ " top-level statement(s)")
    return p
  | .error (.grammar e) => do
    warn ("[red]Parse error[/red] in " ++ path ++ ": " ++ Markup.escape e.message); exit 1
  | .error (.number _) => throw (.fault "ValueError")
  | .error (.notUnary _) => throw (.fault "KeyError")
  | .error .exhausted | .error .tooDeep => throw (.fault "RecursionError")

/-- The table of a source's tokens, comments only when asked. -/
def tokenTable (title : String) (comments : Bool) (tokens : List Token) : Run Table := do
  let rendered (s : String) : Run String :=
    match Markup.render s with
    | .ok t => pure t
    | .error e => throw (.fault e.kind)
  let kept := tokens.filter fun t => comments || t.kind != .comment
  let rows ← kept.mapM fun t => do
    let location ← rendered (toString t.pos.line ++ ":" ++ toString t.pos.col)
    let kind ← rendered t.kind.name
    let value ← rendered (Text.quoted t.text)
    return [location, kind, value]
  let title ← rendered title
  return ⟨title, [⟨"Location", some 8⟩, ⟨"Type", none⟩, ⟨"Value", none⟩], rows⟩

/-- Runs a task. -/
def Task.run (verbose : Bool) (stdin : String) : Task → Run Unit
  | .check file => do
    let source ← readSource stdin file
    let p ← parseSource verbose source file
    say ("[green]OK[/green] " ++ file ++ ": " ++ toString p.body.length ++ " statement(s)")
  | .tokens file withComments => do
    let source ← readSource stdin file
    let tokens ← scanSource verbose source file
    let table ← tokenTable ("Tokens: " ++ file) withComments tokens
    sayLines (table.render Frame.heavyHead consoleWidth)
  | .fmt file checkOnly inPlace indent => do
    let source ← readSource stdin file
    let p ← parseSource verbose source file
    let formatted ← match p.formatAt commandDepth indent with
      | .ok text => pure text
      | .error _ => throw (.fault "RecursionError")
    if checkOnly then
      if formatted = source then do
        say ("[green]OK[/green] " ++ file ++ " — already formatted"); exit 0
      else do
        say ("[yellow]NEEDS FORMATTING[/yellow] " ++ file); exit 1
    else if inPlace then
      if file = "-" then do
        warn "[red]Error:[/red] --in-place cannot be used with stdin"; exit 1
      else do
        match (← get).store.write file formatted with
        | .ok store => modify fun o => { o with store := store }
        | .error f => throw (.fault f.kind)
        say ("[green]Formatted[/green] " ++ file)
    else sayLines (listing consoleWidth formatted)
  | .parse file treeFormat output => do
    let source ← readSource stdin file
    let p ← parseSource verbose source file
    let written := match treeFormat with
      | .json => p.toJsonText parseDepth (some 2)
      | .yaml => p.toYamlText parseDepth
    let text ← match written with
      | .ok text => pure text
      | .error _ => throw (.fault "RecursionError")
    match output with
    | some path => do
      match (← get).store.write path text with
      | .ok store => modify fun o => { o with store := store }
      | .error f => throw (.fault f.kind)
      say ("[green]AST written to[/green] " ++ path)
    | none => sayLines (listing consoleWidth text)
  | .version => say ("[bold]quill-lang[/bold] v" ++ release)

/-- The outcome of a request over a store, with `stdin` as standard input. -/
def Request.outcome (stdin : String) (store : Store) : Request → Outcome
  | .bare => ⟨2, "", helpPage none, store, none⟩
  | .help topic => ⟨0, helpPage topic, "", store, none⟩
  | .version => ⟨0, versionLine, "", store, none⟩
  | .usage topic fault => ⟨2, "", usageError topic fault, store, none⟩
  | .run verbose task =>
    let (result, o) := ((task.run verbose stdin).run).run ⟨0, "", "", store, none⟩
    match result with
    | .ok () => o
    | .error (.exit status) => { o with status := status }
    | .error (.fault kind) => { o with status := 1, fault := some kind }

/-- The outcome of a command line over a store, with `stdin` as standard input. -/
def runLine (args : List String) (stdin : String) (store : Store) : Outcome :=
  (Request.ofArgs args).outcome stdin store

end Quill.Command
