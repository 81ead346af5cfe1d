import SyntaxAdvisor.Value.Basic

/-!
# Commands and their help

A program with subcommands is described by data: a group of commands, each with its options,
switches and positional arguments, and a line of help for each. From the description come the
usage line of each command and its help page.

A help page holds the usage line, the command's help indented by two columns, and a table of
its options (and, for the group, of its commands), each table row indented by two columns. The
first column of a table is as wide as its widest entry (at most 30 columns) plus two; an entry
wider than that puts its text on the next line. The second column is wrapped at word boundaries
to what is left of the page width, less two columns.
-/

namespace SyntaxAdvisor.CommandLine

/-- The kind of value a parameter takes. -/
inductive ValueKind where
  /-- Any text. -/
  | text
  /-- An integer. -/
  | integer
  /-- One of a list of words. -/
  | choice (options : List String)

/-- A parameter of a command. -/
inductive Param where
  /-- An option `--name VALUE`, with the value it has when not given. -/
  | option (name : String) (kind : ValueKind) (help : String) (dflt : Value)
  /-- A switch `--name`, on when given. -/
  | switch (name : String) (help : String)
  /-- A positional argument that must be given. -/
  | argument (name : String) (kind : ValueKind)

/-- A command: its name, its help, its parameters. -/
structure Command where
  /-- The name it is invoked by. -/
  name : String
  /-- What it does, in one line. -/
  help : String
  /-- Its parameters, in the order they are shown. -/
  params : List Param

/-- A group of commands under one program. -/
structure Group where
  /-- What the program does, in one line. -/
  help : String
  /-- The commands, in the order they are listed. -/
  commands : List Command

/-- The name under which every command shows its help. -/
def helpName : String := "--help"

/-- The help of the help switch. -/
def helpText : String := "Show this message and exit."

namespace ValueKind

/-- The placeholder of a value of this kind: braces for an argument's choices, brackets for an
option's. -/
def metavar (argument : Bool) : ValueKind → String
  | .text => "TEXT"
  | .integer => "INTEGER"
  | .choice os =>
    if argument then "\x7b" ++ "|".intercalate os ++ "\x7d" else "[" ++ "|".intercalate os ++ "]"

end ValueKind

namespace Param

/-- The name of a parameter. -/
def name : Param → String
  | .option n _ _ _ | .switch n _ | .argument n _ => n

/-- How an error names a parameter: quoted, an argument by its placeholder. -/
def hint : Param → String
  | .argument _ k => "'" ++ k.metavar true ++ "'"
  | p => "'" ++ p.name ++ "'"

/-- The row of a parameter in the options table; arguments have none. -/
def row : Param → Option (String × String)
  | .option n k h _ => some (n ++ " " ++ k.metavar false, h)
  | .switch n h => some (n, h)
  | .argument _ _ => none

end Param

/-- The words of a text. -/
def words (s : String) : List String := (s.splitOn " ").filter (· != "")

/-- Goes on filling lines with words, `line` being the line so far. -/
def wrapFrom (width : Nat) (line : String) : List String → List String
  | [] => [line]
  | x :: rest =>
    if line.length + 1 + x.length ≤ width then wrapFrom width (line ++ " " ++ x) rest
    else line :: wrapFrom width x rest

/-- Fills lines of at most `width` columns with words, greedily; a word longer than a line
stands alone. -/
def wrapWords (width : Nat) : List String → List String
  | [] => []
  | w :: rest => wrapFrom width w rest

/-- Spaces. -/
def spaces (n : Nat) : String := String.ofList (List.replicate n ' ')

/-- A table of rows at the page width, each row indented by two columns. -/
def table (width : Nat) (rows : List (String × String)) : String :=
  let widest := rows.foldl (fun m (a, _) => max m a.length) 0
  let first := min widest 30 + 2
  let textWidth := max (width - first - 2) 10
  String.join (rows.map fun (a, b) =>
    let pad := if a.length ≤ first - 2 then spaces (first - a.length) else "\n" ++ spaces (first + 2)
    match wrapWords textWidth (words b) with
    | [] => "  " ++ a ++ "\n"
    | l :: ls => "  " ++ a ++ pad ++ l ++ "\n" ++ String.join (ls.map fun x => spaces (first + 2) ++ x ++ "\n"))

/-- A text as a paragraph indented by two columns, wrapped at the page width. -/
def paragraph (width : Nat) (text : String) : String :=
  String.join ((wrapWords (width - 2) (words text)).map fun l => "  " ++ l ++ "\n")

namespace Command

/-- The usage line of a command of program `prog`. -/
def usage (c : Command) (prog : String) : String :=
  let args := c.params.filterMap fun
    | .argument _ k => some (k.metavar true)
    | _ => none
  "Usage: " ++ prog ++ " " ++ c.name ++ " " ++ " ".intercalate ("[OPTIONS]" :: args)

/-- The rows of a command's options table, the help switch last. -/
def optionRows (c : Command) : List (String × String) :=
  c.params.filterMap Param.row ++ [(helpName, helpText)]

/-- The help page of a command, at a page width. -/
def helpPage (c : Command) (prog : String) (width : Nat) : String :=
  c.usage prog ++ "\n\n" ++ paragraph width c.help ++ "\nOptions:\n" ++ table width c.optionRows

end Command

namespace Group

/-- The usage line of the program. -/
def usage (_ : Group) (prog : String) : String := "Usage: " ++ prog ++ " [OPTIONS] COMMAND [ARGS]..."

/-- The help page of the program, at a page width; commands are listed by name. -/
def helpPage (g : Group) (prog : String) (width : Nat) : String :=
  g.usage prog ++ "\n\n" ++ paragraph width g.help ++ "\nOptions:\n" ++
    table width [(helpName, helpText)] ++ "\nCommands:\n" ++
    table width ((g.commands.mergeSort fun a b => decide (a.name ≤ b.name)).map fun c =>
      (c.name, c.help))

end Group

end SyntaxAdvisor.CommandLine
