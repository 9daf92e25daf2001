import Certification.Json.Decode

/-!
# Resolver contracts

What a resolver declares about itself, kept as the value that was read: a field of the wrong type
fails the assertions that read it and nothing else. The accessors read the parts that have a meaning
and see nothing where the type is wrong.
-/

namespace Certification

/-- A resolver's declaration. -/
structure ResolverContract where
  raw : Json
  deriving DecidableEq

/-- The declared retry limit of an error code. -/
structure DeclaredFailure where
  code : String
  retries : Nat
  deriving DecidableEq, Repr

namespace ResolverContract

/-- The greatest retry limit. -/
def retryBound : Nat := 2 ^ 32 - 1

/-- Value of a field (`ResolverContract::field`). -/
def field? (c : ResolverContract) (name : String) : Option Json := c.raw.get? name

/-- Declared name: `resolverName`, or `name` when there is no such field
(`ResolverContract::name`). -/
def name? (c : ResolverContract) : Option String :=
  ((c.field? "resolverName").or (c.field? "name")).bind Json.string?

/-- Declared version (`ResolverContract::version`). -/
def version? (c : ResolverContract) : Option String := (c.field? "version").bind Json.string?

/-- Declared inputs (`ResolverContract::inputs`). -/
def inputs? (c : ResolverContract) : Option (List Json) := (c.field? "inputs").bind Json.array?

/-- Declared outputs (`ResolverContract::outputs`). -/
def outputs? (c : ResolverContract) : Option (List Json) := (c.field? "outputs").bind Json.array?

/-- Declared failures (`ResolverContract::failures`). -/
def failures? (c : ResolverContract) : Option (List Json) :=
  (c.field? "failures").bind Json.array?

/-- Name of an entry. -/
def entryName? (entry : Json) : Option String := (entry.get? "name").bind Json.string?

/-- Error code of an entry. -/
def entryCode? (entry : Json) : Option String := (entry.get? "code").bind Json.string?

/-- Retry limit of an entry: a number, its fraction dropped, clamped to 32 bits. -/
def entryRetries? (entry : Json) : Option Nat :=
  ((entry.get? "retries").bind Json.double?).map (Binary64.clampTo retryBound)

/-- Names of the declared outputs; an entry without a name is passed over
(`declared_output_names`). -/
def declaredOutputNames (c : ResolverContract) : List String :=
  (c.outputs?.getD []).filterMap entryName?

/-- The declared retry limit of a code: that of the first entry with the code and a number
(`declared_failure`). -/
def declaredFailure? (c : ResolverContract) (code : String) : Option DeclaredFailure :=
  (c.failures?.getD []).findSome? fun entry ↦
    if entryCode? entry = some code then (entryRetries? entry).map (⟨code, ·⟩) else none

/-- Whether a code is declared at all (`declares_failure`). -/
def declaresFailure (c : ResolverContract) (code : String) : Bool :=
  (c.failures?.getD []).any fun entry ↦ entryCode? entry == some code

/-- Reads a contract. -/
def decode : Decoder ResolverContract := fun origin d ↦ (Decoder.json origin d).map .mk

end ResolverContract

end Certification
