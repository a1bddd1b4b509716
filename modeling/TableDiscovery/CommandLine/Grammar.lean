import TableDiscovery.Text.Integer
import TableDiscovery.Text.Lines
import TableDiscovery.Text.Quoted
import TableDiscovery.Text.Replace

/-!
# Command lines

A program takes options and then perhaps a command with options of its own. Long options may be cut
short as long as they stay unambiguous, and a value may follow an equals sign. After two dashes
nothing is an option. A value may not look like an option, unless it is a negative number. Two
dashes after an equals sign leave an option without a value.

* `Operand`: what an option has been given;
* `Action`, `Flag`, `Grammar`: what an option does, options, and the options of a program;
* `Grammar.classify`: options and words among the arguments;
* `Grammar.read`: the arguments of one grammar;
* `Exit`: why a program ends while it reads them.
-/

namespace TableDiscovery.CommandLine

/-- What an option has been given: a value, or nothing, if two dashes stand in its place. -/
inductive Operand (β : Type)
  | nothing
  | value (b : β)
deriving DecidableEq, Repr

/-- What an option does to the arguments read so far. -/
inductive Action (α : Type)
  | help
  | switch (set : α → α)
  | text (choices : List String) (set : Operand String → α → α)
  | integer (set : Operand Int → α → α)

/-- An option with its spellings, the name of its value and its description. -/
structure Flag (α : Type) where
  names : List String
  metavar : String
  description : String
  action : Action α

/-- The options of a program or of a command. -/
structure Grammar (α : Type) where
  program : String
  flags : List (Flag α)

/-- The end of a program: its status, the last line of its complaint and what it printed. -/
structure Exit where
  status : Nat
  complaint : String
  output : String
deriving DecidableEq, Repr

/-- The spelling that is looked up, and the value after an equals sign. -/
structure Spelling where
  name : String
  value : Option String
deriving DecidableEq, Repr

/-- The role of an argument. -/
inductive Role (α : Type)
  | word
  | dashes
  | option (flag : Flag α) (spelling : Spelling)
  | unknown

variable {α : Type}

/-- Whether an option takes a value. -/
def Flag.takesValue (f : Flag α) : Bool :=
  match f.action with
  | .text .. | .integer _ => true
  | _ => false

/-- A usage error. Only the last line of the complaint is kept. -/
def Grammar.usageError (g : Grammar α) (message : String) : Exit :=
  let lines := Text.lines (g.program ++ ": error: " ++ message ++ "\n")
  ⟨2, lines.getLast?.getD "", ""⟩

/-- A usage error about an option. -/
def Grammar.flagError (g : Grammar α) (f : Flag α) (message : String) : Exit :=
  g.usageError ("argument " ++ "/".intercalate f.names ++ ": " ++ message)

/-- A usage error about a value that is not one of some choices. -/
def choiceMessage (value : String) (choices : List String) : String :=
  "invalid choice: " ++ Text.quoted value ++ " (choose from " ++
    ", ".intercalate (choices.map Text.quoted) ++ ")"

/-! ## Roles of arguments -/

/-- The option with a spelling. -/
def Grammar.find? (g : Grammar α) (name : String) : Option (Flag α) :=
  g.flags.find? (·.names.contains name)

/-- The spellings of all options. -/
def Grammar.spellings (g : Grammar α) : List (String × Flag α) :=
  g.flags.flatMap fun f => f.names.map fun n => (n, f)

/-- The options that an argument may stand for, with their spellings. -/
def Grammar.candidates (g : Grammar α) (argument : String) : List (Flag α × Spelling) :=
  match argument.toList with
  | '-' :: '-' :: _ =>
    let (start, value) :=
      match Text.cut? '=' argument.toList with
      | some (a, b) => (a, some (String.ofList b))
      | none => (argument.toList, none)
    (g.spellings.filter fun p => start.isPrefixOf p.1.toList).map fun p => (p.2, ⟨p.1, value⟩)
  | '-' :: c :: rest =>
    g.spellings.filterMap fun p =>
      if p.1.toList = ['-', c] then some (p.2, ⟨p.1, some (String.ofList rest)⟩)
      else if argument.toList.isPrefixOf p.1.toList then some (p.2, ⟨p.1, none⟩)
      else none
  | _ => []

/-- Whether all characters are decimal digits. -/
def allDigits (cs : List Char) : Bool := cs.all fun c => (Text.digitValue? c).isSome

/-- Whether a text is a minus sign and a number, perhaps with a point; a final line break does not
count. -/
def isNegativeNumber (s : String) : Bool :=
  match s.toList with
  | '-' :: rest =>
    let cs := if rest.getLast? = some '\n' then rest.dropLast else rest
    match Text.cut? '.' cs with
    | none => !cs.isEmpty && allDigits cs
    | some (whole, fraction) => allDigits whole && !fraction.isEmpty && allDigits fraction
  | _ => false

/-- The role of an argument that is not two dashes. -/
def Grammar.role (g : Grammar α) (argument : String) : Except Exit (Role α) :=
  match argument.toList with
  | '-' :: _ :: _ =>
    match g.find? argument with
    | some f => .ok (.option f ⟨argument, none⟩)
    | none =>
      let exact :=
        match Text.cut? '=' argument.toList with
        | some (a, b) =>
          (g.find? (String.ofList a)).map fun f =>
            Role.option f ⟨String.ofList a, some (String.ofList b)⟩
        | none => none
      match exact with
      | some r => .ok r
      | none =>
        match g.candidates argument with
        | [(f, s)] => .ok (.option f s)
        | [] =>
          let isWord := isNegativeNumber argument || argument.toList.contains ' '
          .ok (if isWord then .word else .unknown)
        | several => .error (g.usageError ("ambiguous option: " ++ argument ++ " could match " ++
            ", ".intercalate (several.map (·.2.name))))
  | _ => .ok .word

/-- The arguments with their roles. -/
def Grammar.classify (g : Grammar α) : List String → Except Exit (List (String × Role α))
  | [] => .ok []
  | argument :: rest =>
    if argument = "--" then .ok ((argument, .dashes) :: rest.map fun s => (s, .word))
    else do
      let role ← g.role argument
      return (argument, role) :: (← g.classify rest)

/-! ## Reading -/

/-- Stores the value of an option. Two dashes are no value, and pass every check of one. -/
def Grammar.store (g : Grammar α) (f : Flag α) (value : String) (a : α) : Except Exit α :=
  match f.action with
  | .text choices set =>
    if value = "--" then .ok (set .nothing a)
    else if choices.isEmpty || choices.contains value then .ok (set (.value value) a)
    else .error (g.flagError f (choiceMessage value choices))
  | .integer set =>
    if value = "--" then .ok (set .nothing a)
    else
      match Text.parseInt? value with
      | some n => .ok (set (.value n) a)
      | none => .error (g.flagError f ("invalid int value: " ++ Text.quoted value))
  | _ => .ok a

/-- What follows the letter of a short option must be that letter again. -/
def surplus (s : Spelling) (value : String) : Option String :=
  match s.name.toList with
  | ['-', c] =>
    let rest := value.toList.dropWhile (· = c)
    if value = "" then some "" else if rest.isEmpty then none else some (String.ofList rest)
  | _ => some value

/-- Takes an option without a value; `help` is the text that describes the program. -/
def Grammar.take (g : Grammar α) (help : String) (f : Flag α) (s : Spelling) (a : α) :
    Except Exit α :=
  match s.value.bind (surplus s) with
  | some value => .error (g.flagError f ("ignored explicit argument " ++ Text.quoted value))
  | none =>
    match f.action with
    | .help => .error ⟨0, "", help⟩
    | .switch set => .ok (set a)
    | _ => .ok a

/-- Reads arguments from the left: options are taken with their values, and the first word with
all that follows goes to `command`, if there is one. What nobody takes is returned. -/
def Grammar.readFrom (g : Grammar α) (help : String)
    (command : Option (List String → α → Except Exit (α × List String))) :
    List (String × Role α) → α → Except Exit (α × List String)
  | [], a => .ok (a, [])
  | (s, .unknown) :: rest, a => do
    let (a, left) ← g.readFrom help command rest a
    return (a, s :: left)
  | (_, .option f spelling) :: rest, a =>
    if f.takesValue then
      match spelling.value, rest with
      | some value, rest => do g.readFrom help command rest (← g.store f value a)
      | none, (value, .word) :: rest => do g.readFrom help command rest (← g.store f value a)
      | none, _ => .error (g.flagError f "expected one argument")
    else do g.readFrom help command rest (← g.take help f spelling a)
  | (s, _) :: rest, a =>
    match command with
    | some run =>
      if s = "--" && rest.isEmpty then .ok (a, [s]) else run (s :: rest.map (·.1)) a
    | none => do
      let (a, left) ← g.readFrom help command rest a
      return (a, s :: left)

/-- Reads the arguments of a grammar. -/
def Grammar.read (g : Grammar α) (help : String)
    (command : Option (List String → α → Except Exit (α × List String)))
    (arguments : List String) (a : α) : Except Exit (α × List String) := do
  g.readFrom help command (← g.classify arguments) a

end TableDiscovery.CommandLine
