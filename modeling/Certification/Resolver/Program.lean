import Certification.Files.Error
import Certification.Resolver.Basic
import Certification.Text.Blank
import Certification.Text.Utf8
import Certification.Time.Duration
import Certification.Workflow.Codec

/-!
# Programs as resolvers

A program that is run once for every operation, with the name of the operation as its argument: it
reads an input and prints an output, and a failing exit is a thrown error, which it may spell out on
its error output. `Program` says what comes of a run, in a state that the program may keep between
runs; `Program.resolver` makes a resolver of it. The declaration is asked for once and remembered.
-/

namespace Certification

/-- How a run of a program ends. -/
inductive Ending where
  | exited (status : Nat)
  | signalled (signal : Nat)
  deriving DecidableEq, Repr

namespace Ending

/-- Names of the signals, from the first one on. -/
def signalNames : List String :=
  ["SIGHUP", "SIGINT", "SIGQUIT", "SIGILL", "SIGTRAP", "SIGABRT", "SIGBUS", "SIGFPE", "SIGKILL",
   "SIGUSR1", "SIGSEGV", "SIGUSR2", "SIGPIPE", "SIGALRM", "SIGTERM", "SIGSTKFLT", "SIGCHLD",
   "SIGCONT", "SIGSTOP", "SIGTSTP", "SIGTTIN", "SIGTTOU", "SIGURG", "SIGXCPU", "SIGXFSZ",
   "SIGVTALRM", "SIGPROF", "SIGWINCH", "SIGIO", "SIGPWR", "SIGSYS"]

/-- Whether the run succeeded. -/
def isSuccess : Ending → Bool
  | .exited 0 => true
  | _ => false

/-- The wording of an ending. -/
def message : Ending → String
  | .exited status => "exit status: " ++ toString status
  | .signalled 0 => "signal: 0"
  | .signalled (n + 1) =>
    match signalNames[n]? with
    | some name => "signal: " ++ toString (n + 1) ++ " (" ++ name ++ ")"
    | none => "signal: " ++ toString (n + 1)

end Ending

/-- What comes of a run of a program. -/
structure Exchange where
  output : List UInt8
  errors : List UInt8
  ending : Ending
  took : Duration

/-- A program with a state of type `π` (`ProcessResolver`). -/
structure Program (π : Type) where
  /-- The name of the resolver. -/
  name : String
  /-- How long a run may take. -/
  limit : Option Duration
  /-- A run with an operation and an input, unless the program cannot be started. -/
  run : String → List UInt8 → π → Except FileError Exchange × π

/-- A run that a program was started for. -/
structure ProgramRun where
  operation : String
  input : List UInt8
  deriving DecidableEq

/-- The state of a program, its declaration once it was asked for it, and its runs so far. -/
structure ProgramState (π : Type) where
  inner : π
  declared : Option (Option Json)
  runs : List ProgramRun

namespace Exchange

/-- Text of the error output, without the blanks around it (`stderr_text`). -/
def errorText (e : Exchange) : List Char := Text.trim (Text.Utf8.decodeLossy e.errors)

/-- An error in data. -/
def errorIn? (text : List Char) : Option ResolverError :=
  (Decoder.ofText ResolverError.decode (String.ofList text)).toOption

/-- The last line with something else than blanks, without the blanks around it. -/
def lastLine? (text : List Char) : Option (List Char) :=
  ((Text.lines text).reverse.map Text.trim).find? (!·.isEmpty)

/-- The error that a failing run throws: what the error output spells out as a whole, else what its
last line spells out, else its text (`thrown_error`). -/
def thrown (e : Exchange) : ResolverError :=
  let text := e.errorText
  match (errorIn? text).or ((lastLine? text).bind errorIn?) with
  | some error => error
  | none =>
    if text.isEmpty then .ofMessage ("resolver exited with " ++ e.ending.message)
    else .ofMessage (String.ofList text)

/-- The message of a failing run of a parser. -/
def rejection (e : Exchange) : String :=
  if e.errorText.isEmpty then "parser exited with " ++ e.ending.message
  else String.ofList e.errorText

/-- The outcome of an invocation. -/
def invocation (e : Exchange) : Except ResolverError Json :=
  if !e.ending.isSuccess then .error e.thrown
  else
    match Decoder.ofBytes Decoder.json e.output with
    | .ok output => .ok output
    | .error cause => .error (.ofMessage ("resolver printed invalid JSON: " ++ cause.message))

/-- The outcome of a parse. -/
def parsed (e : Exchange) : Except String ParseOutput :=
  if !e.ending.isSuccess then .error e.rejection
  else
    (Decoder.ofBytes ParseOutput.decode e.output).mapError fun cause ↦
      "parser printed invalid JSON: " ++ cause.message

/-- The declaration that was printed; a failing run, blanks and what is not JSON declare nothing
(`describe_process`). -/
def declaration? (e : Exchange) : Option Json :=
  if !e.ending.isSuccess || e.output.all Text.isAsciiBlank then none
  else (Decoder.ofBytes Decoder.json e.output).toOption

end Exchange

namespace Program

variable {π : Type}

/-- A run that must end within the limit, or the message that says why it came to nothing
(`ProcessResolver::run`). -/
def attempt (p : Program π) (operation : String) (input : List UInt8) (state : ProgramState π) :
    Except String Exchange × ProgramState π :=
  match p.run operation input state.inner with
  | (.error cause, next) => (.error cause.message, { state with inner := next })
  | (.ok exchange, next) =>
    (match p.limit with
      | some limit =>
        if limit.toNanos ≤ exchange.took.toNanos then
          .error (p.name ++ " " ++ operation ++ " timed out after " ++ limit.text)
        else .ok exchange
      | none => .ok exchange,
     { state with inner := next, runs := state.runs ++ [⟨operation, input⟩] })

/-- Invokes the program (`ProcessResolver::invoke`). -/
def invoke (p : Program π) (input : Json) (state : ProgramState π) :
    Answer (Except ResolverError Json) × ProgramState π :=
  let r := p.attempt "invoke" (Text.Utf8.encode input.compact) state
  let result := match r.1 with
    | .ok exchange => exchange.invocation
    | .error message => .error (.ofMessage message)
  (.ok result, r.2)

/-- Asks the program for its declaration, unless that is known already
(`ProcessResolver::declaration`). -/
def declaration (p : Program π) (state : ProgramState π) :
    Answer (Option Json) × ProgramState π :=
  match state.declared with
  | some declared => (.ok declared, state)
  | none =>
    let r := p.attempt "describe" [] state
    let declared := r.1.toOption.bind Exchange.declaration?
    (.ok declared, { r.2 with declared := some declared })

/-- Parses a source with the program (`ProcessResolver::parse`). -/
def parse (p : Program π) (source : String) (state : ProgramState π) :
    Answer (Except String ParseOutput) × ProgramState π :=
  let r := p.attempt "parse" (Text.Utf8.encode source) state
  let result := match r.1 with
    | .ok exchange => exchange.parsed
    | .error message => .error message
  (.ok result, r.2)

/-- The resolver of a program. -/
def resolver (p : Program π) : Resolver (ProgramState π) where
  name := p.name
  invoke := p.invoke
  declaration := p.declaration
  describe state := (.ok (Resolver.nameOnly p.name), state)
  fingerprint state := (.ok none, state)
  parser := some p.parse

/-- A program before its first run. -/
def start (inner : π) : ProgramState π := ⟨inner, none, []⟩

end Program

end Certification
