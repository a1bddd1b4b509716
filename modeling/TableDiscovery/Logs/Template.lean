import TableDiscovery.Json.Value
import TableDiscovery.Kind
import TableDiscovery.Text.Integer
import TableDiscovery.Text.Points

/-!
# Message templates

A message may hold conversions: `%`, perhaps a key in parentheses, flags, a width and a precision,
and a letter. Each takes the next argument, or the value of its key if the arguments are a mapping.
Arguments come one by one or as one value. Two percent signs stand for one. A character may be given
by its code point, so that a message may hold surrogates. An argument that cannot be written is a
fault too.

* `Template.Arguments`, `Template.Fault`;
* `Template.Conversion`, `Template.readConversion`: one conversion and its place in the text;
* `Template.Conversion.render`: an argument in its form;
* `Template.fill`: the message.
-/

namespace TableDiscovery.Template

/-- Why a message cannot be made. -/
inductive Fault
  | incomplete
  | incompleteKey
  | needsMapping
  | missingKey (key : String)
  | keyOfList
  | tooFewArguments
  | tooManyArguments
  | measureNotInteger
  | widthTooBig
  | precisionTooBig
  | precisionTooLarge
  | measureTooLarge (word : String)
  | outOfMemory
  | unknownLetter (letter : Char) (index : Nat)
  | needsInteger (letter : Char) (found : String)
  | needsNumber (letter : Char) (found : String)
  | needsReal (found : String)
  | needsCharacter
  | noSuchCharacter
  | infinityAsInteger
  | nanAsInteger
  | integerTooLarge
  | unwritable (cause : Json.Unwritable)
deriving DecidableEq, Repr

/-- The kind of a fault. -/
def Fault.kind : Fault → Kind
  | incomplete | incompleteKey | unknownLetter .. | nanAsInteger => .value
  | widthTooBig | precisionTooBig => .value
  | missingKey _ => .key
  | noSuchCharacter | infinityAsInteger | integerTooLarge | measureTooLarge _ => .overflow
  | precisionTooLarge => .overflow
  | outOfMemory => .memory
  | unwritable cause => cause.kind
  | _ => .type

/-- What is said about a fault. -/
def Fault.message : Fault → String
  | incomplete => "incomplete format"
  | incompleteKey => "incomplete format key"
  | needsMapping => "format requires a mapping"
  | missingKey key => Text.quoted key
  | keyOfList => "list indices must be integers or slices, not str"
  | tooFewArguments => "not enough arguments for format string"
  | tooManyArguments => "not all arguments converted during string formatting"
  | measureNotInteger => "* wants int"
  | widthTooBig => "width too big"
  | precisionTooBig => "precision too big"
  | precisionTooLarge => "precision too large"
  | measureTooLarge word => "Python int too large to convert to C " ++ word
  | outOfMemory => ""
  | unknownLetter letter index =>
    "unsupported format character '" ++
      (if 31 ≤ letter.toNat && letter.toNat ≤ 126 then letter.toString else "?") ++
      "' (0x" ++ String.ofList (Nat.toDigits 16 letter.toNat) ++ ") at index " ++ toString index
  | needsInteger letter found =>
    "%" ++ letter.toString ++ " format: an integer is required, not " ++ found
  | needsNumber letter found =>
    "%" ++ letter.toString ++ " format: a real number is required, not " ++ found
  | needsReal found => "must be real number, not " ++ found
  | needsCharacter => "%c requires int or char"
  | noSuchCharacter => "%c arg not in range(0x110000)"
  | infinityAsInteger => "cannot convert float infinity to integer"
  | nanAsInteger => "cannot convert float NaN to integer"
  | integerTooLarge => "int too large to convert to float"
  | unwritable cause => cause.message

/-- What keys are looked up in: nothing, the fields of an object, or a list, which has no keys but
does not need to be used up either. -/
inductive Lookup
  | none
  | fields (fields : List (String × Json))
  | list

/-- The arguments that are left, and what keys are looked up in. -/
structure Arguments where
  pending : List Json
  lookup : Lookup := .none

/-- A value in place of arguments: an object is a mapping. -/
def Arguments.ofValue (v : Json) : Arguments :=
  match v with
  | .obj fields => ⟨[v], .fields fields⟩
  | .arr _ => ⟨[v], .list⟩
  | _ => ⟨[v], .none⟩

/-- The arguments of a call: a single object that is not empty is a mapping. -/
def Arguments.ofList : List Json → Arguments
  | [.obj (f :: fields)] => .ofValue (.obj (f :: fields))
  | args => ⟨args, .none⟩

/-- The next argument. -/
def Arguments.next (a : Arguments) : Except Fault (Json × Arguments) :=
  match a.pending with
  | v :: rest => .ok (v, { a with pending := rest })
  | [] => .error .tooFewArguments

/-- The value of a key becomes the only argument. -/
def Arguments.select (a : Arguments) (key : String) : Except Fault Arguments :=
  match a.lookup with
  | .none => .error .needsMapping
  | .list => .error .keyOfList
  | .fields fields =>
    match Assoc.get? fields key with
    | some v => .ok { a with pending := [v] }
    | none => .error (.missingKey key)

/-- Whether arguments are left that had to be used. -/
def Arguments.isSurplus (a : Arguments) : Bool :=
  match a.lookup with
  | .none => !a.pending.isEmpty
  | _ => false

/-- The flags, measures and letter of a conversion. -/
structure Conversion where
  flags : List Char
  width : Option Nat
  precision : Option Nat
  letter : Char
deriving Repr

/-- The text of a key up to the parenthesis that closes it, and the rest. -/
def readKey : Nat → List Char → Option (List Char × List Char)
  | _, [] => none
  | depth, c :: rest =>
    if c = ')' && depth = 0 then some ([], rest)
    else
      let depth := if c = '(' then depth + 1 else if c = ')' then depth - 1 else depth
      (readKey depth rest).map fun p => (c :: p.1, p.2)

/-- The greatest width. -/
def maxWidth : Nat := Nat.pow 2 63 - 1

/-- The greatest precision. -/
def maxPrecision : Nat := Nat.pow 2 31 - 1

/-- A measure that is given as an argument and fits into a machine word. -/
def integerArgument (most : Nat) (word : String) (a : Arguments) :
    Except Fault (Int × Arguments) := do
  let fitted (n : Int) (a : Arguments) : Except Fault (Int × Arguments) :=
    if -most - 1 ≤ n && n ≤ most then .ok (n, a) else .error (.measureTooLarge word)
  match ← a.next with
  | (.int n, a) => fitted n a
  | (.bool b, a) => fitted (if b then 1 else 0) a
  | _ => .error .measureNotInteger

/-- The value of leading digits. -/
def readMeasure (cs : List Char) : Nat × List Char :=
  (Text.ofDigits ((cs.takeWhile Char.isDigit).map fun c => c.toNat - '0'.toNat),
    cs.dropWhile Char.isDigit)

/-- Reads the key of a conversion, if it has one. -/
def readSelection (a : Arguments) : List Char → Except Fault (Arguments × List Char)
  | '(' :: rest =>
    match a.lookup, readKey 0 rest with
    | .none, _ => .error .needsMapping
    | _, none => .error .incompleteKey
    | _, some (key, rest) => (a.select (String.ofList key)).map fun a => (a, rest)
  | cs => .ok (a, cs)

/-- Reads the width; a negative one as argument asks for the left side. -/
def readWidth (a : Arguments) :
    List Char → Except Fault (Option Nat × Bool × Arguments × List Char)
  | '*' :: rest =>
    (integerArgument maxWidth "ssize_t" a).map fun p => (some p.1.natAbs, p.1 < 0, p.2, rest)
  | c :: rest =>
    if c.isDigit then
      let (n, rest) := readMeasure (c :: rest)
      if n ≤ maxWidth then .ok (some n, false, a, rest) else .error .widthTooBig
    else .ok (none, false, a, c :: rest)
  | [] => .ok (none, false, a, [])

/-- Reads the precision; a negative one as argument counts as zero. -/
def readPrecision (a : Arguments) : List Char → Except Fault (Option Nat × Arguments × List Char)
  | '.' :: '*' :: rest =>
    (integerArgument maxPrecision "int" a).map fun p => (some p.1.toNat, p.2, rest)
  | '.' :: rest =>
    let (n, rest) := readMeasure rest
    if n ≤ maxPrecision then .ok (some n, a, rest) else .error .precisionTooBig
  | cs => .ok (none, a, cs)

/-- Characters that are flags. -/
def isFlag (c : Char) : Bool := ['-', '+', ' ', '#', '0'].contains c

/-- Skips one mark of size before the letter. -/
def skipSize : List Char → List Char
  | c :: rest => if c = 'h' || c = 'l' || c = 'L' then rest else c :: rest
  | [] => []

/-- Reads a conversion after its `%`. -/
def readConversion (a : Arguments) (cs : List Char) :
    Except Fault (Conversion × Arguments × List Char) := do
  let (a, cs) ← readSelection a cs
  let flags := cs.takeWhile isFlag
  let (width, left, a, cs) ← readWidth a (cs.dropWhile isFlag)
  let (precision, a, cs) ← readPrecision a cs
  match skipSize cs with
  | [] => .error .incomplete
  | letter :: rest =>
    return (⟨if left then '-' :: flags else flags, width, precision, letter⟩, a, rest)

/-- The characters of a literal, those beyond ASCII escaped. -/
def asciiChars (literal : String) : List Char :=
  literal.toList.flatMap fun c =>
    if c.toNat < 0x80 then [c]
    else if c.toNat < 0x100 then '\\' :: 'x' :: Text.hexDigits 2 c.toNat
    else if c.toNat < 0x10000 then '\\' :: 'u' :: Text.hexDigits 4 c.toNat
    else '\\' :: 'U' :: Text.hexDigits 8 c.toNat

/-- An integer for a decimal conversion; a fraction is cut off. -/
def decimalArgument (letter : Char) : Json → Except Fault Int
  | .int n => .ok n
  | .bool b => .ok (if b then 1 else 0)
  | .float x =>
    if x.isNaN then .error .nanAsInteger
    else if x.isInf then .error .infinityAsInteger
    else .ok (truncated x)
  | v => .error (.needsNumber letter v.typeName)
where
  /-- The integer part of a finite double. -/
  truncated (x : Float) : Int :=
    match Number.decode? x with
    | none => 0
    | some v =>
      let q := v.scaled 0
      let n : Int := (q.1 / q.2 : Nat)
      if v.negative then -n else n

/-- An integer for another base. -/
def integralArgument (letter : Char) : Json → Except Fault Int
  | .int n => .ok n
  | .bool b => .ok (if b then 1 else 0)
  | v => .error (.needsInteger letter v.typeName)

/-- A double for a fractional conversion. -/
def realArgument : Json → Except Fault Float
  | .float x => .ok x
  | .int n =>
    match Number.ofInt? n with
    | some x => .ok x
    | none => .error .integerTooLarge
  | .bool b => .ok (if b then 1.0 else 0.0)
  | v => .error (.needsReal v.typeName)

/-- A character, given by itself or by its code point. -/
def characterArgument : Json → Except Fault Text.CodePoint
  | .str s =>
    match s.toList with
    | [c] => .ok (.ofChar c)
    | _ => .error .needsCharacter
  | .int n =>
    if h : 0 ≤ n ∧ n < 0x110000 then .ok ⟨n.toNat, by omega⟩ else .error .noSuchCharacter
  | .bool b => .ok (if b then 1 else 0)
  | _ => .error .needsCharacter

/-- The parts of a converted argument: sign, mark of the base, and the rest. -/
structure Rendered where
  sign : List Char
  mark : List Char
  body : List Text.CodePoint

/-- Parts that are made of characters. -/
def Rendered.ofChars (sign mark body : List Char) : Rendered := ⟨sign, mark, body.map .ofChar⟩

namespace Conversion

/-- Whether a flag is set. -/
def has (c : Conversion) (flag : Char) : Bool := c.flags.contains flag

/-- The sign of a number. -/
def sign (c : Conversion) (negative : Bool) : List Char :=
  if negative then ['-'] else if c.has '+' then ['+'] else if c.has ' ' then [' '] else []

/-- An integer in a base, with at least as many digits as the precision asks for. -/
def integer (c : Conversion) (base : Nat) (n : Int) : Rendered :=
  let ds := Nat.toDigits base n.natAbs
  let padded := List.replicate (c.precision.getD 0 - ds.length) '0' ++ ds
  let body := if c.letter = 'X' then padded.map Char.toUpper else padded
  let mark := if c.has '#' && base ≠ 10 then ['0', c.letter] else []
  .ofChars (c.sign (n < 0)) mark body

/-- The decimal places or significant digits of a double. In exponent notation the greatest
precision counts as zero. -/
def places (c : Conversion) : Nat :=
  match c.precision with
  | none => 6
  | some n => if n = maxPrecision && c.letter.toLower = 'e' then 0 else n

/-- A double in one of the fractional notations. -/
def real (c : Conversion) (x : Float) : Rendered :=
  let text :=
    match c.letter.toLower with
    | 'f' => Number.fixed c.places (c.has '#') x
    | 'e' => Number.scientific c.places (c.has '#') x
    | _ => Number.general c.places (c.has '#') x
  let cs := if c.letter.isUpper then text.toList.map Char.toUpper else text.toList
  match cs with
  | '-' :: body => .ofChars ['-'] [] body
  | body => .ofChars (c.sign false) [] body

/-- A text, cut to the precision. -/
def text (c : Conversion) (cs : List Char) : Rendered :=
  .ofChars [] [] (match c.precision with
    | some n => cs.take n
    | none => cs)

/-- Whether a zero flag fills a number with zeros. -/
def isNumeric (c : Conversion) : Bool := !(['s', 'r', 'a', 'c'] : List Char).contains c.letter

/-- The length from which on no memory holds a text. -/
def memoryLimit : Nat := Nat.pow 2 30

/-- The parts brought to the width. -/
def pad (c : Conversion) (r : Rendered) : List Text.CodePoint :=
  let front := (r.sign ++ r.mark).map Text.CodePoint.ofChar
  let missing := c.width.getD 0 - (front.length + r.body.length)
  if c.has '-' then front ++ r.body ++ List.replicate missing (.ofChar ' ')
  else if c.has '0' && c.isNumeric then front ++ List.replicate missing (.ofChar '0') ++ r.body
  else List.replicate missing (.ofChar ' ') ++ front ++ r.body

/-- The parts brought to the width, if memory holds them. -/
def place (c : Conversion) (r : Rendered) : Except Fault (List Text.CodePoint) :=
  if memoryLimit ≤ c.width.getD 0 then .error .outOfMemory else .ok (c.pad r)

/-- The greatest precision of an integer. -/
def maxDigits : Nat := maxPrecision - 3

/-- An integer brought to the width, if its precision allows it and, in decimal, it is not too
long. -/
def placeInteger (c : Conversion) (base : Nat) (n : Int) : Except Fault (List Text.CodePoint) :=
  if maxDigits < c.precision.getD 0 then .error .precisionTooLarge
  else if base = 10 && (Text.writeInt? n).isNone then .error (.unwritable .tooManyDigits)
  else if memoryLimit ≤ c.precision.getD 0 then .error .outOfMemory
  else c.place (c.integer base n)

/-- A double brought to the width, if memory holds its digits. Trailing zeros may be left out. -/
def placeReal (c : Conversion) (x : Float) : Except Fault (List Text.CodePoint) :=
  let keepsZeros := c.letter.toLower ≠ 'g' || c.has '#'
  if memoryLimit ≤ c.places && keepsZeros && !x.isNaN && !x.isInf then .error .outOfMemory
  else c.place (c.real x)

/-- A written value brought to the width, if it could be written. -/
def placeText (c : Conversion) (chars : String → List Char)
    (written : Except Json.Unwritable String) : Except Fault (List Text.CodePoint) := do
  c.place (c.text (chars (← written.mapError .unwritable)))

/-- An argument in the form that the conversion asks for, if the stack has room for the levels below
it; `index` is the place of its letter. -/
def render (c : Conversion) (room index : Nat) (v : Json) : Except Fault (List Text.CodePoint) :=
  match c.letter with
  | 's' => c.placeText String.toList (v.display? room)
  | 'r' => c.placeText String.toList (v.literal? room)
  | 'a' => c.placeText asciiChars (v.literal? room)
  | 'd' | 'i' | 'u' => do c.placeInteger 10 (← decimalArgument c.letter v)
  | 'o' => do c.placeInteger 8 (← integralArgument c.letter v)
  | 'x' | 'X' => do c.placeInteger 16 (← integralArgument c.letter v)
  | 'e' | 'E' | 'f' | 'F' | 'g' | 'G' => do c.placeReal (← realArgument v)
  | 'c' => do c.place ⟨[], [], [← characterArgument v]⟩
  | letter => .error (.unknownLetter letter index)

end Conversion

/-- Fills the conversions of a template of `size` characters; `fuel` bounds their number. -/
def fillFrom (room size : Nat) :
    Nat → Arguments → List Char → Except Fault (List Text.CodePoint)
  | _, a, [] => if a.isSurplus then .error .tooManyArguments else .ok []
  | 0, _, _ => .error .incomplete
  | fuel + 1, a, '%' :: '%' :: rest => (fillFrom room size fuel a rest).map (.ofChar '%' :: ·)
  | fuel + 1, a, '%' :: rest => do
    let (c, a, rest) ← readConversion a rest
    let (v, a) ← a.next
    return (← c.render room (size - rest.length - 1) v) ++ (← fillFrom room size fuel a rest)
  | fuel + 1, a, c :: rest => (fillFrom room size fuel a rest).map (.ofChar c :: ·)

/-- The message of a template; without arguments it is the template itself. -/
def fill (room : Nat) (template : String) (a : Arguments) : Except Fault (List Text.CodePoint) :=
  if a.pending.isEmpty then .ok (Text.points template)
  else fillFrom room template.length (template.length + 1) a template.toList

end TableDiscovery.Template
