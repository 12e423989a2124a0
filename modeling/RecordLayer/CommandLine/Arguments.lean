import RecordLayer.Text.Integer
import RecordLayer.Text.Quoted

/-!
# Command-line arguments

The options of the command line and how they are read.

First every argument is sorted into a `Word` by its form alone: an option with
whatever is attached to it, plain text, or an option that nobody knows.  A long
option may be shortened as long as it stays unambiguous, and its value may be
attached with an equals sign; the value of a short option may follow it
directly.  After a separator `--` everything is plain.

Then the words are taken in order.  An option that needs a value takes the
next word, which has to be plain.  There are no positional arguments, so what
is left over is an error in the end.
-/

namespace RecordLayer.CommandLine

/-! ## Options -/

/-- The options of the command line. -/
inductive Flag where
  | help
  | suite
  | earlyData
  | rejectEarlyData
  | keyLog
  | debug
deriving DecidableEq, Repr

namespace Flag

/-- All options, in the order in which they are listed. -/
def all : List Flag := [.help, .suite, .earlyData, .rejectEarlyData, .keyLog, .debug]

/-- The long name of an option. -/
def long : Flag → String
  | .help => "--help"
  | .suite => "--cipher-suite"
  | .earlyData => "--early-data"
  | .rejectEarlyData => "--reject-early-data"
  | .keyLog => "--keylog"
  | .debug => "--debug"

/-- The letter of an option that has one. -/
def letter? : Flag → Option Char
  | .help => some 'h'
  | .keyLog => some 'k'
  | _ => none

/-- What messages call an option. -/
def display (flag : Flag) : String :=
  match flag.letter? with
  | some c => String.ofList ['-', c, '/'] ++ flag.long
  | none => flag.long

/-- Whether an option needs a value. -/
def needsValue : Flag → Bool
  | .suite | .earlyData | .keyLog => true
  | _ => false

/-- The option with a letter. -/
def ofLetter? (c : Char) : Option Flag :=
  all.find? fun flag => flag.letter? = some c

/-- The options whose long name starts with a text. -/
def startingWith (text : List Char) : List Flag :=
  all.filter fun flag => text.isPrefixOf flag.long.toList

end Flag

/-- What the command line asks for.  A number is absent if its option was left
with nothing. -/
structure Options where
  suite : Option Int := some 0x1301
  earlyData : Option Int := some 0
  rejectEarlyData : Bool := false
  keyLog : Option String := none
  debug : Bool := false
deriving DecidableEq, Repr

/-- What is wrong with a command line. -/
inductive UsageError where
  | ambiguous (argument : String) (candidates : List Flag)
  | valueMissing (flag : Flag)
  /-- A value is attached to an option that takes none. -/
  | valueIgnored (flag : Flag) (value : String)
  | valueInvalid (flag : Flag) (kind value : String)
  | unrecognized (arguments : List String)
deriving DecidableEq, Repr

/-- The text of an error. -/
def UsageError.message : UsageError → String
  | .ambiguous argument candidates =>
    "ambiguous option: " ++ argument ++ " could match " ++
      ", ".intercalate (candidates.map Flag.long)
  | .valueMissing flag => "argument " ++ flag.display ++ ": expected one argument"
  | .valueIgnored flag value =>
    "argument " ++ flag.display ++ ": ignored explicit argument " ++ Text.quoted value
  | .valueInvalid flag kind value =>
    "argument " ++ flag.display ++ ": invalid " ++ kind ++ " value: " ++ Text.quoted value
  | .unrecognized arguments => "unrecognized arguments: " ++ " ".intercalate arguments

/-- Why the reading of a command line ends early. -/
inductive Stop where
  | help
  | usage (error : UsageError)
deriving DecidableEq, Repr

/-! ## Words -/

/-- An argument by its form. -/
inductive Word where
  | plain (text : String)
  /-- The separator, after which everything is plain. -/
  | separator
  /-- An option with the text that is attached to it. -/
  | option (flag : Flag) (short : Bool) (attached : Option (List Char))
  | unknown (text : String)
deriving DecidableEq, Repr

/-- Text that is a number below zero, with or without a decimal point.  One
line feed may follow it. -/
def isNegativeNumber : List Char → Bool
  | '-' :: rest =>
    let body := if rest.getLast? = some '\n' then rest.dropLast else rest
    let isDigit (c : Char) := (Text.decimalDigit? c).isSome
    match body.dropWhile isDigit with
    | [] => !body.isEmpty
    | '.' :: fraction => !fraction.isEmpty && fraction.all isDigit
    | _ => false
  | _ => false

/-- The parts before and after the first equals sign. -/
def splitAtEquals (text : List Char) : List Char × Option (List Char) :=
  match text.dropWhile (· ≠ '=') with
  | [] => (text, none)
  | _ :: value => (text.takeWhile (· ≠ '='), some value)

/-- The option that an argument names in full. -/
def named? (text : List Char) : Option Word :=
  match text with
  | ['-', c] => (Flag.ofLetter? c).map fun flag => .option flag true none
  | _ => (Flag.all.find? fun flag => flag.long.toList = text).map fun flag =>
      .option flag false none

/-- Text that only looks like an option. -/
def unmatched (text : List Char) : Word :=
  if isNegativeNumber text || text.contains ' ' then .plain (String.ofList text)
  else .unknown (String.ofList text)

/-- Attach a value to an option. -/
def Word.attach (value : List Char) : Word → Word
  | .option flag short _ => .option flag short (some value)
  | word => word

/-- The options that a text may be an inexact form of: a shortened long
option, or a short option with its value. -/
def candidates (text : List Char) : List Word :=
  match text with
  | '-' :: '-' :: _ =>
    let (name, value) := splitAtEquals text
    (Flag.startingWith name).map fun flag => .option flag false value
  | '-' :: c :: rest =>
    (Flag.ofLetter? c).toList.map fun flag => .option flag true (some rest)
  | _ => []

/-- Sort an argument that starts with a hyphen and does not name an option in full. -/
def classifyInexact (text : List Char) : Except UsageError Word :=
  let (name, value) := splitAtEquals text
  match value.bind fun value => (named? name).map (Word.attach value) with
  | some word => .ok word
  | none =>
    match candidates text with
    | [] => .ok (unmatched text)
    | [word] => .ok word
    | _ => .error (.ambiguous (String.ofList text) (Flag.startingWith name))

/-- Sort an argument by its form. -/
def classify (argument : String) : Except UsageError Word :=
  let text := argument.toList
  match text with
  | '-' :: _ :: _ =>
    match named? text with
    | some word => .ok word
    | none => classifyInexact text
  | _ => .ok (.plain argument)

/-- Sort all arguments. -/
def classifyAll : List String → Except UsageError (List Word)
  | [] => .ok []
  | argument :: rest =>
    if argument = "--" then .ok (.separator :: rest.map .plain)
    else do
      let word ← classify argument
      return word :: (← classifyAll rest)

/-! ## Taking words -/

/-- What one word asks for: options that are complete, each with its value if
it has one, and an option that still needs a value. -/
structure Demand where
  settled : List (Flag × String) := []
  open? : Option Flag := none
deriving DecidableEq, Repr

/-- What an option with nothing attached asks for. -/
def Demand.alone (flag : Flag) : Demand :=
  if flag.needsValue then { open? := some flag } else { settled := [(flag, "")] }

/-- Put a complete option without a value in front of a demand. -/
def Demand.after (flag : Flag) (demand : Demand) : Demand :=
  { demand with settled := (flag, "") :: demand.settled }

/-- What text attached to a short option without a value asks for: every
letter is a further option, and what follows one that needs a value is its
value.  Text that does not start with such a letter is refused as a whole. -/
def cluster (flag : Flag) : List Char → Except UsageError Demand
  | [] => .error (.valueIgnored flag "")
  | c :: rest =>
    match Flag.ofLetter? c, rest with
    | none, rest => .error (.valueIgnored flag (String.ofList (c :: rest)))
    | some next, [] => .ok ((Demand.alone next).after flag)
    | some next, d :: rest =>
      if next.needsValue then .ok { settled := [(flag, ""), (next, String.ofList (d :: rest))] }
      else (cluster next (d :: rest)).map (Demand.after flag)

/-- What an option asks for. -/
def demand (flag : Flag) (short : Bool) : Option (List Char) → Except UsageError Demand
  | none => .ok (.alone flag)
  | some text =>
    if flag.needsValue then .ok { settled := [(flag, String.ofList text)] }
    else if short then cluster flag text
    else .error (.valueIgnored flag (String.ofList text))

/-- A value as it was given; the separator gives nothing. -/
def given? (value : String) : Option String :=
  if value = "--" then none else some value

/-- Read the value of an option as a number, if one is given. -/
def readNumber (flag : Flag) (kind : String) (base : Text.Base) (value : String) :
    Except Stop (Option Int) :=
  match given? value with
  | none => .ok none
  | some text =>
    match Text.readInteger base text with
    | some n => .ok (some n)
    | none => .error (.usage (.valueInvalid flag kind text))

/-- Act on a complete option. -/
def Options.put (options : Options) : Flag × String → Except Stop Options
  | (.help, _) => .error .help
  | (.suite, value) => do
    return { options with suite := ← readNumber .suite "<lambda>" .announced value }
  | (.earlyData, value) => do
    return { options with earlyData := ← readNumber .earlyData "int" .ten value }
  | (.rejectEarlyData, _) => .ok { options with rejectEarlyData := true }
  | (.keyLog, value) => .ok { options with keyLog := given? value }
  | (.debug, _) => .ok { options with debug := true }

/-- Act on complete options in order. -/
def Options.putAll (options : Options) (settled : List (Flag × String)) : Except Stop Options :=
  settled.foldlM Options.put options

/-- Take the words in order.  The result is the options and what is left over. -/
def takeWords (options : Options) (left : List String) :
    List Word → Except Stop (Options × List String)
  | [] => .ok (options, left)
  | .plain text :: rest => takeWords options (left ++ [text]) rest
  | .unknown text :: rest => takeWords options (left ++ [text]) rest
  | .separator :: rest => takeWords options (left ++ ["--"]) rest
  | .option flag short attached :: rest => do
    let demand ← (demand flag short attached).mapError .usage
    match demand.open?, rest with
    | none, rest => takeWords (← options.putAll demand.settled) left rest
    | some pending, .plain value :: rest =>
      takeWords (← options.putAll (demand.settled ++ [(pending, value)])) left rest
    | some pending, _ => .error (.usage (.valueMissing pending))

/-- Read a command line. -/
def parse (arguments : List String) : Except Stop Options := do
  let words ← (classifyAll arguments).mapError .usage
  let (options, left) ← takeWords {} [] words
  if left.isEmpty then return options else throw (.usage (.unrecognized left))

end RecordLayer.CommandLine
