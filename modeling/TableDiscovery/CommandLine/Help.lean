import TableDiscovery.CommandLine.Grammar

/-!
# Help texts

A help text shows the usage, the options with their descriptions in a second column, and what goes
before and after them. Lines are broken between words so that they fit a terminal of 80 columns.

* `wrap`, `usage`, `entry`: the parts;
* `helpText`.
-/

namespace TableDiscovery.CommandLine

variable {α : Type}

/-- The columns of a line. -/
def lineWidth : Nat := 78

/-- The column in which descriptions start. -/
def descriptionColumn : Nat := 24

/-- A number of blanks. -/
def blanks (n : Nat) : String := String.ofList (List.replicate n ' ')

/-- Parts in lines of a width: `used` counts the columns of the current line so far, `indent` those
before a new line. -/
def fillLines (width indent : Nat) : (used : Nat) → (line : List String) → List String →
    List (List String)
  | _, [], [] => []
  | _, line, [] => [line]
  | used, line, part :: rest =>
    if width < used + 1 + part.length && !line.isEmpty then
      line :: fillLines width indent (indent + part.length) [part] rest
    else fillLines width indent (used + 1 + part.length) (line ++ [part]) rest

/-- The words of a text in lines of a width. -/
def wrap (width : Nat) (s : String) : List String :=
  let lines := fillLines (width + 1) 0 0 [] (Text.split ' ' s)
  lines.map (" ".intercalate ·)

/-- The name of the value of an option. -/
def valueName (f : Flag α) : String :=
  match f.action with
  | .text [] _ | .integer _ => f.metavar
  | .text choices _ => "\x7b" ++ ",".intercalate choices ++ "\x7d"
  | _ => ""

/-- A spelling with the name of its value. -/
def withValue (f : Flag α) (name : String) : String :=
  if f.takesValue then name ++ " " ++ valueName f else name

/-- The part of the usage that shows an option. -/
def usagePart (f : Flag α) : String := "[" ++ withValue f (f.names.headD "") ++ "]"

/-- The usage: options, then words, broken into lines under the first option. -/
def usage (g : Grammar α) (words : List String) : String :=
  let start := "usage: " ++ g.program
  let parts := g.flags.map usagePart
  let whole := " ".intercalate (start :: parts ++ words)
  if whole.length ≤ lineWidth then whole ++ "\n"
  else
    let indent := start.length + 1
    let lines := fillLines lineWidth (indent - 1) start.length [] parts
    let below := (if words.isEmpty then [] else [" ".intercalate words]).map (blanks indent ++ ·)
    let texts := lines.map (" ".intercalate ·)
    let first := start ++ " " ++ texts.headD ""
    "\n".intercalate (first :: (texts.drop 1).map (blanks indent ++ ·) ++ below) ++ "\n"

/-- An entry with its description in the second column. -/
def entry (indent : Nat) (name description : String) : String :=
  let lines := wrap (lineWidth - descriptionColumn) description
  let head := blanks indent ++ name
  let below := (lines.map (blanks descriptionColumn ++ ·))
  if head.length + 2 ≤ descriptionColumn then
    let first := head ++ blanks (descriptionColumn - head.length) ++ lines.headD ""
    "\n".intercalate (first :: below.drop 1) ++ "\n"
  else "\n".intercalate (head :: below) ++ "\n"

/-- The entry of an option. -/
def flagEntry (f : Flag α) : String :=
  entry 2 (", ".intercalate (f.names.map (withValue f))) f.description

/-- The options with their descriptions. -/
def flagSection (g : Grammar α) : String :=
  "options:\n" ++ String.join (g.flags.map flagEntry)

/-- The help text of a command. -/
def helpText (g : Grammar α) : String := usage g [] ++ "\n" ++ flagSection g

/-- The help text of a program with commands. -/
def programHelp (g : Grammar α) (description : String) (commands : List (String × String))
    (commandsTitle closing : String) : String :=
  let choices := "\x7b" ++ ",".intercalate (commands.map (·.1)) ++ "\x7d"
  usage g [choices, "..."] ++ "\n" ++ description ++ "\n\n" ++
    "positional arguments:\n" ++ entry 2 choices commandsTitle ++
    String.join (commands.map fun c => entry 4 c.1 c.2) ++ "\n" ++ flagSection g ++ "\n" ++ closing

end TableDiscovery.CommandLine
