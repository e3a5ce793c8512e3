import CatalogTypes.Service.Config
import CatalogTypes.Text.Cut
import CatalogTypes.Text.Decimal

/-! # Command line of the service -/

namespace CatalogTypes.Service

/-- The options that take a value. -/
inductive Key where
  | listen
  | bodyLimit
  | excludeSchema
  | logLevel
deriving DecidableEq, Repr

namespace Key

def all : List Key := [listen, bodyLimit, excludeSchema, logLevel]

def word : Key → String
  | listen => "listen"
  | bodyLimit => "body-limit"
  | excludeSchema => "exclude-schema"
  | logLevel => "log-level"

end Key

/-- Why the arguments give no configuration. -/
inductive Refusal where
  /-- An unknown option, or a value that belongs to none. -/
  | unknownArgument
  | missingValue
  /-- A limit that is no number below 2^64. -/
  | invalidValue
  /-- An option with one value is given twice. -/
  | repeatedOption
  /-- A value for an option that takes none. -/
  | unexpectedValue
  | helpAsked
deriving DecidableEq, Repr

def Refusal.message : Refusal → String
  | unknownArgument => "unexpected argument"
  | missingValue => "an option lacks its value"
  | invalidValue => "the body limit is no number below 2^64"
  | repeatedOption => "an option is given twice"
  | unexpectedValue => "an option that takes no value has one"
  | helpAsked => "help is asked for"

/-- An argument by its form. -/
inductive Word where
  | option (key : Key) (value : Option String)
  | help (value : Option String)
  | unknownOption
  /-- Two dashes: no options follow. -/
  | separator
  /-- Everything else, a single dash included. -/
  | plain (text : String)
deriving DecidableEq, Repr

namespace Word

/-- An argument of two dashes, given without them. A value may follow the first `=`. -/
def ofLong (cs : List Char) : Word :=
  let (name, value) := match Text.cut? '=' cs with
    | some (name, value) => (String.ofList name, some (String.ofList value))
    | none => (String.ofList cs, none)
  if name = "help" then .help value
  else match Key.all.find? (·.word == name) with
    | some key => .option key value
    | none => .unknownOption

/-- An argument of one dash and the letter `c`. A value may follow at once, or after `=`. -/
def ofShort (c : Char) (cs : List Char) : Word :=
  if c = 'h' then .help none
  else if c = 'l' then
    .option .listen <|
      match cs with
      | [] => none
      | '=' :: value => some (String.ofList value)
      | value => some (String.ofList value)
  else .unknownOption

def ofArgument (arg : String) : Word :=
  match arg.toList with
  | ['-', '-'] => .separator
  | '-' :: '-' :: cs => ofLong cs
  | '-' :: c :: cs => ofShort c cs
  | _ => .plain arg

end Word

/-- A natural number below 2^64 in decimal digits; a plus sign may stand in front. -/
def parseLimit? (text : String) : Option Nat :=
  let ds := match text.toList with
    | '+' :: ds => ds
    | ds => ds
  if !ds.isEmpty && ds.all Char.isDigit && Text.digitsValue ds < UInt64.size then
    some (Text.digitsValue ds)
  else none

/-- The parts of a list between its commas, empty ones included. -/
def listParts (value : String) : List String := (value.toList.splitOn ',').map String.ofList

/-- The values of the options so far. -/
structure Given where
  listen : Option String := none
  bodyLimit : Option Nat := none
  excluded : List String := []
  logLevel : Option String := none
deriving DecidableEq, Repr

namespace Given

def put (g : Given) (value : String) : Key → Except Refusal Given
  | .listen =>
    if g.listen.isSome then .error .repeatedOption else .ok { g with listen := some value }
  | .bodyLimit =>
    if g.bodyLimit.isSome then .error .repeatedOption
    else match parseLimit? value with
      | some n => .ok { g with bodyLimit := some n }
      | none => .error .invalidValue
  | .excludeSchema =>
    .ok { g with excluded := g.excluded ++ listParts value }
  | .logLevel =>
    if g.logLevel.isSome then .error .repeatedOption else .ok { g with logLevel := some value }

/-- The configuration, with the default for everything that is not given. -/
def config (g : Given) : Config :=
  let default : Config := {}
  { listen := g.listen.getD default.listen
    bodyLimit := g.bodyLimit.getD default.bodyLimit
    excluded := g.excluded
    logLevel := g.logLevel.getD default.logLevel }

end Given

/-- An option whose value is an argument of its own: the value, once it has come, is looked at when
the next option or the end of the arguments is reached. -/
structure Pending where
  key : Key
  value : Option String := none
deriving DecidableEq, Repr

def settle (g : Given) : Option Pending → Except Refusal Given
  | none => .ok g
  | some ⟨_, none⟩ => .error .missingValue
  | some ⟨key, some value⟩ => g.put value key

/-- Reads the arguments that are left. -/
def readArguments (g : Given) (pending : Option Pending) : List String → Except Refusal Given
  | [] => settle g pending
  | arg :: args =>
    match Word.ofArgument arg with
    | .option key none => do
      let g ← settle g pending
      readArguments g (some { key }) args
    | .option key (some value) => do
      let g ← settle g pending
      let g ← g.put value key
      readArguments g none args
    | .help none => do
      let _ ← settle g pending
      .error .helpAsked
    | .help (some _) => .error .unexpectedValue
    | .unknownOption => .error .unknownArgument
    | .separator => if args.isEmpty then settle g pending else .error .unknownArgument
    | .plain text =>
      match pending with
      | some ⟨key, none⟩ => readArguments g (some ⟨key, some text⟩) args
      | _ => .error .unknownArgument

/-- The configuration that a command line asks for. Its first word is the name of the program. -/
def Config.ofCommandLine (argv : List String) : Except Refusal Config :=
  (readArguments {} none argv.tail).map (·.config)

/-- How the program is called. -/
def Config.usage : String :=
  "options:\n" ++
  "  -l, --listen ADDRESS\n" ++
  "      --body-limit BYTES\n" ++
  "      --exclude-schema NAME,...\n" ++
  "      --log-level LEVEL\n" ++
  "  -h, --help\n"

end CatalogTypes.Service
