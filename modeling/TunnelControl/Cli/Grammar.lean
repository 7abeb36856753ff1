import TunnelControl.Settings.Environment
import TunnelControl.Text.Split
import TunnelControl.Text.Utf8

/-!
# Command lines

A `CommandSpec` describes the options and subcommands of a command, and `CommandSpec.read` reads the words of
a command line by it.

* a word that begins with two hyphens is a long option, which may have its value behind an equals sign;
* a word that begins with one hyphen holds short options, of which the first that takes a value takes the
  rest of the word;
* an option without a value in its word takes the next word, unless that is an option or `--`;
* any other word is a subcommand, and the words behind it are for the subcommand.

An option is complete, and its value is judged, only when the next one begins or the words are used up.
The words of a subcommand are read before the last option in front of it is complete.
-/

namespace TunnelControl

/-- why a command line is not carried out -/
inductive ArgFault
  | unknownArgument
  | invalidSubcommand
  | invalidValue
  | valueValidation
  | invalidUtf8
  | tooManyValues
  | argumentConflict
  | missingRequired
  | missingSubcommand
  /-- nothing was given where something is needed: help is shown instead -/
  | nothingGiven
  /-- help was asked for -/
  | help
  /-- the version was asked for -/
  | version
  deriving DecidableEq, Repr

namespace ArgFault

def kind : ArgFault → String
  | unknownArgument => "UnknownArgument"
  | invalidSubcommand => "InvalidSubcommand"
  | invalidValue => "InvalidValue"
  | valueValidation => "ValueValidation"
  | invalidUtf8 => "InvalidUtf8"
  | tooManyValues => "TooManyValues"
  | argumentConflict => "ArgumentConflict"
  | missingRequired => "MissingRequiredArgument"
  | missingSubcommand => "MissingSubcommand"
  | nothingGiven => "DisplayHelpOnMissingArgumentOrSubcommand"
  | help => "DisplayHelp"
  | version => "DisplayVersion"

/-- the status with which a program ends: to ask for help or the version is no mistake -/
def exitStatus : ArgFault → Nat
  | help | version => 0
  | _ => 2

end ArgFault

/-! ## values -/

inductive ValueKind
  /-- no value -/
  | flag
  | text
  /-- a path, which may be any bytes but none -/
  | path
  /-- a number up to a limit; `signed` ones may have a sign in front of zero -/
  | number (limit : Nat) (signed : Bool)
  | choice (words : List String)
  deriving DecidableEq, Repr

inductive ArgValue
  | flag
  | text (s : String)
  | path (bytes : Bytes)
  | number (n : Nat)
  deriving DecidableEq, Repr

/-- a number as a word gives it -/
def readArgNumber? (limit : Nat) (signed : Bool) : List Char → Option Nat
  | '-' :: cs => if signed then readDigits? 0 cs else none
  | cs => readNumber? limit cs

namespace ValueKind

def read (kind : ValueKind) (word : Bytes) : Except ArgFault ArgValue :=
  match kind with
  | flag => .ok .flag
  | path => if word.isEmpty then .error .invalidValue else .ok (.path word)
  | text =>
    match Utf8.decode word with
    | .ok s => .ok (.text s)
    | .error _ => .error .invalidUtf8
  | number limit signed =>
    match Utf8.decode word with
    | .error _ => .error .invalidUtf8
    | .ok s =>
      match readArgNumber? limit signed s.toList with
      | some n => .ok (.number n)
      | none => .error .valueValidation
  | choice words =>
    match Utf8.decode word with
    | .ok s => if words.contains s then .ok (.text s) else .error .invalidValue
    | .error _ => .error .invalidValue

end ValueKind

/-! ## options and commands -/

structure OptionSpec where
  name : String
  short : Option Char := none
  kind : ValueKind
  required : Bool := false
  /-- it may be given again, and commas separate its values -/
  listed : Bool := false
  /-- the variable that stands in for it -/
  standIn? : Option String := none
  deriving DecidableEq, Repr

inductive CommandSpec where
  | mk (options : List OptionSpec) (hasVersion : Bool) (subcommands : List (String × CommandSpec))

namespace CommandSpec

def options : CommandSpec → List OptionSpec
  | mk options _ _ => options

def hasVersion : CommandSpec → Bool
  | mk _ hasVersion _ => hasVersion

def subcommands : CommandSpec → List (String × CommandSpec)
  | mk _ _ subcommands => subcommands

def hasSubcommands (c : CommandSpec) : Bool := !c.subcommands.isEmpty

def long? (c : CommandSpec) (name : Bytes) : Option OptionSpec :=
  c.options.find? fun o => Utf8.encode o.name == name

def short? (c : CommandSpec) (letter : Char) : Option OptionSpec :=
  c.options.find? fun o => o.short == some letter

def subcommand? (c : CommandSpec) (word : Bytes) : Option (String × CommandSpec) :=
  c.subcommands.find? fun sub => Utf8.encode sub.1 == word

/-- what follows from a word that is neither an option nor a subcommand -/
def strayFault (c : CommandSpec) : ArgFault :=
  if c.hasSubcommands then .invalidSubcommand else .unknownArgument

end CommandSpec

/-- what a command line says: the values of the options, and the subcommand -/
inductive Matches where
  | mk (values : List (String × List ArgValue)) (subcommand : Option (String × Matches))
  deriving Repr

namespace Matches

def values : Matches → List (String × List ArgValue)
  | mk values _ => values

def subcommand : Matches → Option (String × Matches)
  | mk _ subcommand => subcommand

def first? (m : Matches) (name : String) : Option ArgValue :=
  (m.values.lookup name).bind List.head?

def has (m : Matches) (name : String) : Bool := (m.first? name).isSome

def text? (m : Matches) (name : String) : Option String :=
  match m.first? name with
  | some (.text s) => some s
  | _ => none

def path? (m : Matches) (name : String) : Option Bytes :=
  match m.first? name with
  | some (.path bytes) => some bytes
  | _ => none

def number? (m : Matches) (name : String) : Option Nat :=
  match m.first? name with
  | some (.number n) => some n
  | _ => none

def texts (m : Matches) (name : String) : List String :=
  ((m.values.lookup name).getD []).filterMap fun v => match v with
    | .text s => some s
    | _ => none

end Matches

/-! ## reading -/

/-- what has been read of a command so far -/
structure ArgScan where
  values : List (String × List ArgValue) := []
  /-- the option that is not complete yet, and its value if that has come -/
  pending : Option (OptionSpec × Option Bytes) := none

namespace ArgScan

/-- the next word may be the value of an option -/
def awaits (s : ArgScan) : Bool :=
  match s.pending with
  | some (_, none) => true
  | _ => false

/-- the pieces of a word between commas -/
def splitWord (word : Bytes) : List Bytes := word.splitOn 0x2C

/-- an option has its value -/
def accept (s : ArgScan) (o : OptionSpec) (word : Bytes) : Except ArgFault ArgScan :=
  let before := s.values.lookup o.name
  if before.isSome && !o.listed then .error .argumentConflict
  else do
    let new ← (if o.listed then splitWord word else [word]).mapM o.kind.read
    let others := s.values.filter (·.1 != o.name)
    .ok { s with values := others ++ [(o.name, before.getD [] ++ new)] }

/-- the option before is complete -/
def complete (s : ArgScan) : Except ArgFault ArgScan :=
  match s.pending with
  | none => .ok s
  | some (_, none) => .error .invalidValue
  | some (o, some word) => accept { s with pending := none } o word

/-- an option, with the value in its word if there is one -/
def option (s : ArgScan) (o : OptionSpec) (attached : Option Bytes) : Except ArgFault ArgScan := do
  let s ← s.complete
  match o.kind, attached with
  | .flag, _ => s.accept o []
  | _, some word => s.accept o word
  | _, none => .ok { s with pending := some (o, none) }

/-- help or the version -/
def special (s : ArgScan) (fault : ArgFault) : Except ArgFault ArgScan := do
  let _ ← s.complete
  .error fault

/-- a long option without its hyphens -/
def long (c : CommandSpec) (s : ArgScan) (word : Bytes) : Except ArgFault ArgScan :=
  let name := word.takeWhile (· != 0x3D)
  let attached := if word.contains 0x3D then some (word.drop (name.length + 1)) else none
  let special (fault : ArgFault) : Except ArgFault ArgScan :=
    if attached.isSome then .error .tooManyValues else s.special fault
  match c.long? name with
  | some o => if o.kind = .flag && attached.isSome then .error .tooManyValues else s.option o attached
  | none =>
    if name = Utf8.encode "help" then special .help
    else if c.hasVersion && name = Utf8.encode "version" then special .version
    else .error .unknownArgument

/-- the value behind a short option in its word -/
def attachedValue (rest : Bytes) : Option Bytes :=
  match rest with
  | [] => none
  | 0x3D :: bytes => some bytes
  | bytes => some bytes

/-- short options in one word, and behind them bytes that are no text -/
def short (c : CommandSpec) (tail : Bytes) : ArgScan → List Char → Except ArgFault ArgScan
  | s, [] => if tail.isEmpty then .ok s else .error .unknownArgument
  | s, letter :: rest =>
    match c.short? letter with
    | some o =>
      if o.kind = .flag then do
        let s ← s.option o none
        short c tail s rest
      else s.option o (attachedValue (Utf8.encode (String.ofList rest) ++ tail))
    | none =>
      if letter = 'h' then s.special .help
      else if c.hasVersion && letter = 'V' then s.special .version
      else .error .unknownArgument

/-- the variables stand in for options that were not given -/
def withVariables (env : Environment) (s : ArgScan) : List OptionSpec → Except ArgFault ArgScan
  | [] => .ok s
  | o :: os => do
    let given := (s.values.lookup o.name).isSome
    match if given then none else o.standIn?.bind env.bytes? with
    | none => withVariables env s os
    | some word => withVariables env (← s.accept o word) os

/-- the words of the command are used up -/
def conclude (c : CommandSpec) (env : Environment) (s : ArgScan)
    (subcommand : Option (String × Matches)) : Except ArgFault Matches := do
  let s ← s.complete
  let s ← s.withVariables env c.options
  if c.hasSubcommands && subcommand.isNone then
    .error (if s.values.isEmpty then .nothingGiven else .missingSubcommand)
  else if c.options.any fun o => o.required && !(s.values.lookup o.name).isSome then
    .error .missingRequired
  else .ok (.mk s.values subcommand)

end ArgScan

namespace CommandSpec

/-- help about a subcommand of a subcommand, and so on -/
def helpFault (c : CommandSpec) : List Bytes → ArgFault
  | [] => .help
  | word :: words =>
    match c.subcommand? word with
    | some (_, sub) => helpFault sub words
    | none =>
      if c.hasSubcommands && word = Utf8.encode "help" && words.isEmpty then .help
      else .invalidSubcommand

/-- the letters of a word of short options, and the bytes from the first on that is no text -/
def letters (word : Bytes) : List Char × Bytes :=
  match Utf8.decode word with
  | .ok s => (s.toList, [])
  | .error fault => ((Utf8.repair (word.take fault.offset)).toList, word.drop fault.offset)

/-- a word behind `--` -/
def behindHyphens (c : CommandSpec) (word : Bytes) : ArgFault :=
  if (c.subcommand? word).isSome || (c.hasSubcommands && word = Utf8.encode "help") then
    .unknownArgument
  else c.strayFault

/-- reads the words of a command, and first those of its subcommand -/
def readFrom (env : Environment) : CommandSpec → ArgScan → List Bytes → Except ArgFault Matches
  | c, s, [] => s.conclude c env none
  | c, s, word :: words =>
    match if s.awaits then none else c.subcommand? word with
    | some (name, sub) => do
      let m ← readFrom env sub {} words
      s.conclude c env (some (name, m))
    | none =>
      if !s.awaits && c.hasSubcommands && word = Utf8.encode "help" then .error (c.helpFault words)
      else
        match word with
        | [0x2D, 0x2D] =>
          match words with
          | [] => s.conclude c env none
          | word :: _ => .error (c.behindHyphens word)
        | 0x2D :: 0x2D :: name => do readFrom env c (← s.long c name) words
        | 0x2D :: letter :: rest =>
          let (cs, tail) := letters (letter :: rest)
          do readFrom env c (← s.short c tail cs) words
        | word =>
          match s.pending with
          | some (o, none) => readFrom env c { s with pending := some (o, some word) } words
          | _ => .error c.strayFault

/-- reads the words of a command line, without the name of the program -/
def read (c : CommandSpec) (env : Environment) (words : List Bytes) : Except ArgFault Matches :=
  readFrom env c {} words

end CommandSpec

end TunnelControl
