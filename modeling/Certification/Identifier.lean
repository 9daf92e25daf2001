/-!
# Identifiers

The two spellings of names. Names of resolvers inside a workflow are letters and digits; names of
fields in a declaration may also hold underscores. Both start with a letter, and only ASCII
characters count.
-/

namespace Certification

/-- Pattern of resolver names inside a workflow (`WORKFLOW_IDENTIFIER_PATTERN`). -/
def workflowIdentifierPattern : String := "^[A-Za-z][A-Za-z0-9]*$"

/-- Pattern of field names in a declaration (`METADATA_IDENTIFIER_PATTERN`). -/
def metadataIdentifierPattern : String := "^[A-Za-z][A-Za-z0-9_]*$"

/-- ASCII letters. -/
def isLetter (c : Char) : Bool := ('A' ≤ c && c ≤ 'Z') || ('a' ≤ c && c ≤ 'z')

/-- A letter followed by characters of a class. -/
def isIdentifier (inner : Char → Bool) (name : String) : Bool :=
  match name.toList with
  | [] => false
  | c :: cs => isLetter c && cs.all inner

/-- Whether a text is a resolver name inside a workflow (`is_workflow_identifier`). -/
def isWorkflowIdentifier (name : String) : Bool :=
  isIdentifier (fun c ↦ isLetter c || c.isDigit) name

/-- Whether a text is a field name in a declaration (`is_metadata_identifier`). -/
def isMetadataIdentifier (name : String) : Bool :=
  isIdentifier (fun c ↦ isLetter c || c.isDigit || c == '_') name

end Certification
