import Certification.Resolver.Basic
import Certification.Text.Blank
import Certification.Workflow.Codec

/-!
# Scripted resolvers

A resolver that plays a script: it answers its invocations and the questions for its fingerprint one
after the other as written, and repeats the last answer of each kind from then on.
-/

namespace Certification

/-- What a scripted resolver does when it is invoked. -/
inductive Reply where
  | returns (output : Json)
  | throws (error : ResolverError)
  | panics (panic : Panic)
  deriving DecidableEq

/-- What a scripted parser does. -/
inductive ScriptedParser where
  /-- It takes the source for the data form of its output. -/
  | reads
  | rejects (message : String)
  | panics (panic : Panic)
  deriving DecidableEq

/-- A script. -/
structure Script where
  name : String
  /-- The answers to invocations; without any, an invocation returns its input. -/
  replies : List Reply
  declaration : Option Json
  /-- The description, if it is more than the name. -/
  description : Option Json
  /-- The fingerprints, if the resolver hands out any. -/
  fingerprints : Option (List (Option Json))
  parser : Option ScriptedParser

/-- How far a script has been played. -/
structure ScriptState where
  invocations : Nat
  snapshots : Nat
  deriving DecidableEq, Repr

namespace ScriptedParser

/-- The output for a source, or the message of a rejection. -/
def parse (source : String) : Except String ParseOutput :=
  if (Text.trimStart source.toList).head? = some '!' then .error "unexpected token '!'"
  else (Decoder.ofText ParseOutput.decode source).mapError DecodeError.message

/-- What the parser does with a source. -/
def answer (source : String) : ScriptedParser → Answer (Except String ParseOutput)
  | .reads => .ok (parse source)
  | .rejects message => .ok (.error message)
  | .panics panic => .error panic

end ScriptedParser

namespace Script

/-- The state before the first call. -/
def start : ScriptState := ⟨0, 0⟩

/-- The item at a position, or the last one beyond the end. -/
def atOrLast {α : Type} (items : List α) (position : Nat) : Option α :=
  items[min position (items.length - 1)]?

/-- The answer to an invocation. -/
def reply (input : Json) : Option Reply → Answer (Except ResolverError Json)
  | none => .ok (.ok input)
  | some (.returns output) => .ok (.ok output)
  | some (.throws error) => .ok (.error error)
  | some (.panics panic) => .error panic

/-- The resolver that plays a script. -/
def resolver (s : Script) : Resolver ScriptState where
  name := s.name
  invoke input state :=
    (reply input (atOrLast s.replies state.invocations),
     { state with invocations := state.invocations + 1 })
  declaration state := (.ok s.declaration, state)
  describe state := (.ok (s.description.getD (Resolver.nameOnly s.name)), state)
  fingerprint state :=
    (.ok ((atOrLast (s.fingerprints.getD []) state.snapshots).getD none),
     { state with snapshots := state.snapshots + 1 })
  parser := s.parser.map fun parser source state ↦ (parser.answer source, state)

/-- Whether the script has nothing but answers to invocations. -/
def isBare (s : Script) : Bool :=
  s.declaration.isNone && s.description.isNone && s.fingerprints.isNone && s.parser.isNone

/-- Whether a call is one that the script provides for. -/
def providesFor (s : Script) : Call → Bool
  | .declaration => !s.isBare
  | .describe => s.description.isSome
  | .fingerprint => s.fingerprints.isSome
  | .invoke _ | .parse _ => true

end Script

end Certification
