import Certification.Resolver.Program

/-!
# Transcripts of programs

A record of what a program does for every operation, which can stand in for the program: it is
replayed without looking at the input.
-/

namespace Certification

/-- What a program does. -/
structure Transcript where
  /-- Whether the program can be started. -/
  executable : Bool
  /-- What comes of a run, by operation. -/
  exchanges : List (String × Exchange)

namespace Exchange

/-- A run that does nothing. -/
def silent : Exchange := ⟨[], [], .exited 0, .zero⟩

/-- The fields of a run in data. -/
def dataShape : Shape where
  name := "Exchange"
  fields :=
    [.of "stdout" Decoder.string [], .of "stderr" Decoder.string [], .of "exit" Decoder.nat32 [],
     .optional "signal" Decoder.nat32 [], .of "sleep" Decoder.nat32 []]

/-- Reads what comes of a run; what is not told is nothing. -/
def decode : Decoder Exchange := fun origin d ↦ do
  let fields ← dataShape.gather origin d
  let output ← fields.withDefault origin "stdout" "" Decoder.string
  let errors ← fields.withDefault origin "stderr" "" Decoder.string
  let status ← fields.withDefault origin "exit" 0 Decoder.nat32
  let signal ← fields.optional origin "signal" Decoder.nat32
  let seconds ← fields.withDefault origin "sleep" 0 Decoder.nat32
  pure
    ⟨Text.Utf8.encode output, Text.Utf8.encode errors,
      signal.elim (.exited (status % 256)) .signalled, .ofSeconds seconds⟩

end Exchange

namespace Transcript

/-- The operations of a program. -/
def operations : List String := ["describe", "invoke", "parse"]

/-- The fields of a transcript in data. -/
def dataShape : Shape where
  name := "Transcript"
  fields := operations.map fun operation ↦ .of operation Exchange.decode []

/-- Reads a transcript. -/
def decode : Decoder Transcript := fun origin d ↦ do
  let fields ← dataShape.gather origin d
  let exchanges ← operations.mapM fun operation ↦ do
    let exchange ← fields.withDefault origin operation .silent Exchange.decode
    pure (operation, exchange)
  pure ⟨true, exchanges⟩

/-- What comes of a run; a program does nothing for an operation that it does not know. -/
def exchange (t : Transcript) (operation : String) : Exchange :=
  (t.exchanges.lookup operation).getD .silent

/-- Replays a run, unless the program cannot be started. -/
def replay (t : Transcript) (operation : String) : Except FileError Exchange :=
  if t.executable then .ok (t.exchange operation) else .error .permissionDenied

end Transcript

end Certification
