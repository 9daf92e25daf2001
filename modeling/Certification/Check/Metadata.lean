import Certification.Assertion.Basic
import Certification.Contract
import Certification.Identifier

/-!
# Checks of a declaration

The checks that read what a resolver declares about itself. A field of the wrong type makes a check
false.
-/

namespace Certification

namespace MetadataCheck

/-- Whether an entry has a text under a key (`has_string`). -/
def hasString (entry : Json) (key : String) : Bool := (entry.get? key).any Json.isString

/-- The declaration has a field with the expected value (`resolver_has_field`). -/
def resolverHasField (c : ResolverContract) (a : Assertion) : CheckResult := do
  let field ← a.requireField .resolverHasField
  let expected ← a.requireExpected .resolverHasField
  pure ((c.field? field).any (·.same expected))

/-- Whether an input has a name, a type and a flag that says whether it is required. -/
def inputValid (input : Json) : Bool :=
  hasString input "name" && hasString input "type" &&
    ((input.get? "required").bind Json.bool?).isSome

/-- The inputs are declared, and every one of them is valid (`resolver_inputs_valid`). -/
def resolverInputsValid (c : ResolverContract) : Bool := c.inputs?.any (·.all inputValid)

/-- Whether an output has a name and a type. -/
def outputValid (output : Json) : Bool := hasString output "name" && hasString output "type"

/-- Whether every item of an optional array passes; an absent one passes, and what is no array does
not. -/
def everyItem (passes : Json → Bool) : Option Json → Bool
  | none | some .null => true
  | some (.array items) => items.all passes
  | some _ => false

/-- Every declared output is valid (`resolver_outputs_valid`). -/
def resolverOutputsValid (c : ResolverContract) : Bool :=
  everyItem outputValid (c.field? "outputs")

/-- Whether an entry has a name that is an identifier. -/
def nameNormalized (entry : Json) : Bool :=
  ((entry.get? "name").bind Json.string?).any isMetadataIdentifier

/-- The names in a field are identifiers (`field_names_normalized`). -/
def fieldNamesNormalized (c : ResolverContract) (a : Assertion) : CheckResult := do
  let field ← a.requireField .fieldNamesNormalized
  pure (everyItem nameNormalized (c.field? field))

/-- Whether a failure has a code and a retry limit. -/
def failureValid (failure : Json) : Bool :=
  hasString failure "code" && ((failure.get? "retries").bind Json.number?).isSome

/-- The failures are declared, and every one of them is valid (`resolver_failures_valid`). -/
def resolverFailuresValid (c : ResolverContract) : Bool := c.failures?.any (·.all failureValid)

end MetadataCheck

end Certification
