/-!
# Arguments of the command

How the arguments on the command line are understood, from left to right. Every option has a long
name and most have a letter; letters may be joined, a value may follow its option as the next
argument or after an equals sign, and right after a letter. Only suites may be named more than once,
and nothing but options is allowed. The first thing that cannot be understood is a `UsageFault`.
-/

namespace Certification

/-- What the arguments say (`Cli`). -/
structure Arguments where
  resolver : Option String
  suitesDir : Option String
  suites : List String
  json : Bool
  badge : Bool
  config : Option String
  verbose : Bool
  deriving DecidableEq, Repr

/-- What the arguments ask for. -/
inductive Request where
  | certify (arguments : Arguments)
  | help
  | version
  deriving DecidableEq, Repr

/-- Why arguments are not understood. -/
inductive UsageFault where
  | unexpected (argument : String)
  | repeated (option : String)
  | valueMissing (option : String)
  | valueUnexpected (value option : String)
  deriving DecidableEq, Repr

/-- The wording of a fault. -/
def UsageFault.message : UsageFault → String
  | .unexpected argument => "unexpected argument '" ++ argument ++ "' found"
  | .repeated option => "the argument '" ++ option ++ "' cannot be used multiple times"
  | .valueMissing option => "a value is required for '" ++ option ++ "' but none was supplied"
  | .valueUnexpected value option =>
    "unexpected value '" ++ value ++ "' for '" ++ option ++ "' found"

/-- The options. -/
inductive CommandOption where
  | resolver | suitesDir | suite | json | badge | config | verbose | help | version
  deriving DecidableEq, Repr

namespace CommandOption

/-- All options. -/
def all : List CommandOption :=
  [.resolver, .suitesDir, .suite, .json, .badge, .config, .verbose, .help, .version]

/-- Long name of an option. -/
def name : CommandOption → String
  | .resolver => "resolver"
  | .suitesDir => "suites-dir"
  | .suite => "suite"
  | .json => "json"
  | .badge => "badge"
  | .config => "config"
  | .verbose => "verbose"
  | .help => "help"
  | .version => "version"

/-- Letter of an option. -/
def letter? : CommandOption → Option Char
  | .resolver => some 'r'
  | .suitesDir => some 'd'
  | .suite => some 's'
  | .config => some 'c'
  | .verbose => some 'v'
  | .help => some 'h'
  | .version => some 'V'
  | .json | .badge => none

/-- What the value of an option is called; nothing for an option without a value. -/
def valueName? : CommandOption → Option String
  | .resolver => some "RESOLVER"
  | .suitesDir => some "SUITES_DIR"
  | .suite => some "SUITES"
  | .config => some "CONFIG"
  | .json | .badge | .verbose | .help | .version => none

/-- Whether an option has a value. -/
def takesValue (o : CommandOption) : Bool := o.valueName?.isSome

/-- How an option is shown. -/
def display (o : CommandOption) : String :=
  "--" ++ o.name ++
    match o.valueName? with
    | some value => " <" ++ value ++ ">"
    | none => ""

/-- The option with a long name. -/
def ofName? (name : String) : Option CommandOption := all.find? (·.name == name)

/-- The option with a letter. -/
def ofLetter? (letter : Char) : Option CommandOption := all.find? (·.letter? == some letter)

end CommandOption

/-- An option that was met, with its value if it has one. -/
structure Setting where
  option : CommandOption
  value : String
  deriving DecidableEq, Repr

namespace Arguments

/-- What no arguments say. -/
def empty : Arguments := ⟨none, none, [], false, false, none, false⟩

/-- Gives an option its one value. -/
def once (o : CommandOption) (old : Option String) (value : String) :
    Except UsageFault (Option String) :=
  if old.isSome then .error (.repeated o.display) else .ok (some value)

/-- Turns a switch on. -/
def switch (o : CommandOption) (old : Bool) : Except UsageFault Bool :=
  if old then .error (.repeated o.display) else .ok true

/-- What an option adds to the arguments. -/
def add (a : Arguments) (s : Setting) : Except UsageFault Arguments :=
  match s.option with
  | .resolver => do
    let resolver ← once s.option a.resolver s.value
    pure { a with resolver }
  | .suitesDir => do
    if s.value = "" then throw (.valueMissing s.option.display)
    let suitesDir ← once s.option a.suitesDir s.value
    pure { a with suitesDir }
  | .suite => pure { a with suites := a.suites ++ [s.value] }
  | .json => do
    let json ← switch s.option a.json
    pure { a with json }
  | .badge => do
    let badge ← switch s.option a.badge
    pure { a with badge }
  | .config => do
    let config ← once s.option a.config s.value
    pure { a with config }
  | .verbose => do
    let verbose ← switch s.option a.verbose
    pure { a with verbose }
  | .help | .version => pure a

/-- What one argument holds: the switches in it, and what comes last. -/
inductive Piece where
  /-- Nothing more. -/
  | done
  /-- An option with its value. -/
  | valued (option : CommandOption) (value : String)
  /-- An option whose value is the next argument. -/
  | pending (option : CommandOption)
  /-- An option that answers at once. -/
  | answer (request : Request)
  deriving DecidableEq, Repr

/-- The answer of an option that gives one at once. -/
def requestOf? : CommandOption → Option Request
  | .help => some .help
  | .version => some .version
  | _ => none

/-- Reads an argument with a long name, after its two dashes. -/
def readLong (a : Arguments) (text : String) : Except UsageFault (Arguments × Piece) :=
  let name := String.ofList (text.toList.takeWhile (· ≠ '='))
  let tail := text.toList.dropWhile (· ≠ '=')
  match CommandOption.ofName? name with
  | none => .error (.unexpected ("--" ++ name))
  | some o =>
    match o.takesValue, tail with
    | true, [] => .ok (a, .pending o)
    | true, _ :: value => .ok (a, .valued o (String.ofList value))
    | false, _ :: value => .error (.valueUnexpected (String.ofList value) o.display)
    | false, [] =>
      match requestOf? o with
      | some request => .ok (a, .answer request)
      | none => do
        let a ← a.add ⟨o, ""⟩
        pure (a, .done)

/-- Reads an argument with letters, after its dash. -/
def readLetters : List Char → Arguments → Except UsageFault (Arguments × Piece)
  | [], a => .ok (a, .done)
  | letter :: rest, a =>
    match CommandOption.ofLetter? letter with
    | none => .error (.unexpected ("-" ++ letter.toString))
    | some o =>
      if o.takesValue then
        match rest with
        | [] => .ok (a, .pending o)
        | '=' :: value => .ok (a, .valued o (String.ofList value))
        | value => .ok (a, .valued o (String.ofList value))
      else
        match requestOf? o with
        | some request => .ok (a, .answer request)
        | none => do
          let a ← a.add ⟨o, ""⟩
          readLetters rest a

/-- Whether an argument starts an option: letters after a dash, or anything after two. -/
def startsOption (argument : String) : Bool :=
  match argument.toList with
  | '-' :: _ :: _ => true
  | _ => false

/-- Reads an argument. -/
def readOne (a : Arguments) (argument : String) : Except UsageFault (Arguments × Piece) :=
  match argument.toList with
  | '-' :: '-' :: name => readLong a (String.ofList name)
  | '-' :: letter :: letters => readLetters (letter :: letters) a
  | _ => .error (.unexpected argument)

/-- Reads arguments, given what the ones before say and which option waits for its value. Two dashes
alone end the options, and no argument may follow them. -/
def readFrom : Arguments → Option CommandOption → List String → Except UsageFault Request
  | a, none, [] => .ok (.certify a)
  | _, some o, [] => .error (.valueMissing o.display)
  | a, some o, value :: rest =>
    if startsOption value then .error (.valueMissing o.display)
    else do
      let a ← a.add ⟨o, value⟩
      readFrom a none rest
  | a, none, argument :: rest =>
    if argument = "--" then
      match rest with
      | [] => .ok (.certify a)
      | surplus :: _ => .error (.unexpected surplus)
    else do
      match ← readOne a argument with
      | (a, .done) => readFrom a none rest
      | (a, .valued o value) => do
        let a ← a.add ⟨o, value⟩
        readFrom a none rest
      | (a, .pending o) => readFrom a (some o) rest
      | (_, .answer request) => .ok request

/-- Reads arguments (`Cli::parse`). -/
def read (arguments : List String) : Except UsageFault Request := readFrom empty none arguments

/-- The arguments with what the environment says where they say nothing. -/
def withEnvironment (a : Arguments) (environment : String → Option String) : Arguments :=
  { a with
    resolver := a.resolver.or (environment "OLANG_RESOLVER")
    config := a.config.or (environment "OLANG_CONFORMANCE_CONFIG") }

end Arguments

end Certification
