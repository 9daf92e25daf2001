import Certification.Command.Arguments
import Certification.Command.Config
import Certification.Time.Duration

/-!
# Plans

What the command is going to do: the arguments win, and the configuration fills the gaps. Without a
resolver there is no plan; a plan always has a suite.
-/

namespace Certification

/-- What the command is going to do (`CertifyOptions`). -/
structure Plan where
  resolver : String
  suitesDir : String
  suites : List String
  json : Bool
  badge : Bool
  /-- How long a run of the resolver may take. -/
  timeout : Option Duration
  deriving DecidableEq

namespace Plan

/-- The plan of arguments and a configuration (`CertifyOptions::merge`). -/
def ofArguments (a : Arguments) (c : Config) : Except CommandFault Plan :=
  match a.resolver.or c.resolver with
  | none => .error .resolverMissing
  | some resolver =>
    .ok
      { resolver
        suitesDir := (a.suitesDir.or c.suitesDir).getD "."
        suites := if a.suites.isEmpty then c.suitesOrKernel else a.suites
        json := a.json
        badge := a.badge
        timeout := c.timeoutSeconds.map .ofSeconds }

/-- A plan has a suite. -/
theorem suites_ne_nil {a : Arguments} {c : Config} {p : Plan} (h : ofArguments a c = .ok p) :
    p.suites ≠ [] := by
  unfold ofArguments at h
  split at h
  · simp at h
  · cases h
    simp only
    split
    · exact c.suitesOrKernel_ne_nil
    · next hs => simpa using hs

end Plan

end Certification
