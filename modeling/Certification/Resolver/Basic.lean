import Certification.Json.Record
import Certification.Workflow.Basic

/-!
# Resolvers

A resolver is what is being certified. It is modelled by its answers: every operation is a function
of the state that the resolver keeps between calls, and it answers or panics. A resolver always has
a name and can be invoked; it may declare itself, hand out a fingerprint of its state and expose a
workflow parser.
-/

namespace Certification

/-- An error that a resolver throws. -/
structure ResolverError where
  code : Option String
  message : String
  /-- How many retries the resolver reports. -/
  attempts : Option Nat
  deriving DecidableEq, Repr

namespace ResolverError

/-- An error with nothing but a message (`ResolverError::new`). -/
def ofMessage (message : String) : ResolverError := ⟨none, message, none⟩

/-- The fields of an error in data. -/
def dataShape : Shape where
  name := "ResolverError"
  fields :=
    [.optional "code" Decoder.string [], .of "message" Decoder.string [],
     .optional "attempts" Decoder.nat32 []]

/-- Reads an error. -/
def decode : Decoder ResolverError := fun origin d ↦ do
  let fields ← dataShape.gather origin d
  let code ← fields.optional origin "code" Decoder.string
  let message ← fields.required origin "message" Decoder.string
  let attempts ← fields.optional origin "attempts" Decoder.nat32
  pure ⟨code, message, attempts⟩

/-- The error in data, without its absent fields. -/
def toJson (e : ResolverError) : Json :=
  .record (presentEntries
    [("code", e.code.map .string), ("message", some (.string e.message)),
     ("attempts", e.attempts.map .ofNat)])

end ResolverError

/-- What a panic carries. -/
inductive Panic where
  | text (message : String)
  /-- Something that is not a text. -/
  | nonText
  deriving DecidableEq, Repr

/-- What is said of a panic (`panic_payload_to_string`). -/
def Panic.message : Panic → String
  | .text message => message
  | .nonText => "non-string panic payload"

/-- An answer of a resolver, unless it panics. -/
abbrev Answer (α : Type) := Except Panic α

/-- A call of a resolver. -/
inductive Call where
  | declaration
  | describe
  | fingerprint
  | invoke (input : Json)
  | parse (source : String)
  deriving DecidableEq

/-- A resolver whose state has type `σ`. Its name and its parser are fixed: a resolver that panics
when it is asked for them (`name`, `workflow_parser`), or that answers one thing first and another
thing later, is not among them. -/
structure Resolver (σ : Type) where
  name : String
  /-- The output for an input, or a thrown error. -/
  invoke : Json → σ → Answer (Except ResolverError Json) × σ
  /-- What the resolver declares about itself, if it does. -/
  declaration : σ → Answer (Option Json) × σ
  /-- What is known of a resolver that declares nothing. -/
  describe : σ → Answer Json × σ
  /-- A snapshot of the state, if the resolver gives one. -/
  fingerprint : σ → Answer (Option Json) × σ
  /-- The output of the workflow parser for a source, or the message of a rejection. -/
  parser : Option (String → σ → Answer (Except String ParseOutput) × σ)

namespace Resolver

variable {σ : Type}

/-- The description of a resolver by its name (`Resolver::describe`). -/
def nameOnly (name : String) : Json := .record [("resolverName", .string name)]

end Resolver

end Certification
