import Certification.Proofs.Assertion.Satisfied
import Certification.Proofs.Check.Workflow
import Certification.Proofs.Text.LowerCase

/-!
# Texts in warnings

An assertion about a warning compares lower-case forms of whole texts. What stands in a message is
found when it is lowered there as it is alone, and a capital sigma at its edge may prevent that: at
the end of the expected text it is a final sigma, and inside a word of the message it is not.
-/

namespace Certification

namespace WorkflowCheck

variable {ast : WorkflowAst} {status : ParseStatus} {a : Assertion} {needle : String}

private theorem isSatisfied_iff_occursIn (ha : a.kind = AssertionKind.containsWarning.name)
    (hneedle : a.expectedSubstring = some needle) :
    a.IsSatisfied (.workflow ast status) ↔
      ∃ warning ∈ status.warnings,
        Text.occursIn (Text.lowerCase needle) (Text.lowerCase warning.message) = true := by
  rw [Assertion.isSatisfied_iff_check ha rfl]
  refine containsWarning_eq_true_iff.trans ?_
  simp [hneedle]

/-- An assertion about a warning is satisfied exactly when the lower-case form of the expected text
occurs in that of a message. So it is when a message has a part that differs from the expected text
in letter case at most, if each capital sigma of the part ends a word in the message exactly when it
does so in the part alone; which is exactly when the part is lowered in the message as it is alone.
It is enough that the part has no capital sigma, or that no cased letter stands next to it. -/
theorem isSatisfied_containsWarning (ha : a.kind = AssertionKind.containsWarning.name)
    (hneedle : a.expectedSubstring = some needle) :
    (a.IsSatisfied (.workflow ast status) ↔
      ∃ warning ∈ status.warnings, ∃ before after,
        Text.lowerCase warning.message = before ++ Text.lowerCase needle ++ after) ∧
    ∀ warning ∈ status.warnings, ∀ before part after : String,
      warning.message = before ++ part ++ after → Text.lowerCase part = Text.lowerCase needle →
        (Text.KeepsSigmas before part after → a.IsSatisfied (.workflow ast status)) ∧
        (Text.KeepsSigmas before part after ↔
          Text.lowerWithin before.toList.reverse part.toList after.toList =
            Text.lowerCase needle) ∧
        ('Σ' ∉ part.toList → a.IsSatisfied (.workflow ast status)) ∧
        (Text.startsCased before.toList.reverse = false → Text.startsCased after.toList = false →
          a.IsSatisfied (.workflow ast status)) := by
  refine ⟨?_, ?_⟩
  · simpa only [Text.occursIn_iff] using isSatisfied_iff_occursIn ha hneedle
  · intro warning hwarning before part after hmessage hcase
    have hkeeps (h : Text.KeepsSigmas before part after) : a.IsSatisfied (.workflow ast status) := by
      refine (isSatisfied_iff_occursIn ha hneedle).mpr ⟨warning, hwarning, ?_⟩
      rw [hmessage, ← hcase]
      exact Text.occursIn_of_keepsSigmas h
    refine ⟨hkeeps, ?_, ?_, ?_⟩
    · rw [← hcase]
      exact Text.lowerWithin_eq_lowerCase_iff.symm
    · exact fun h ↦ hkeeps (Text.keepsSigmas_of_not_mem h before after)
    · exact fun hbefore hafter ↦ hkeeps (Text.keepsSigmas_of_startsCased hbefore hafter part)

/-- An assertion that a warning contains a text. -/
def warns (needle : String) : Assertion :=
  { Assertion.new "warns" "contains_warning" with expectedSubstring := some needle }

/-- A text in capital letters at the end of a message is found in small letters, its last sigma a
final one in both. -/
theorem isSatisfied_containsWarning_sisyphus :
    Text.lowerCase "ΣΊΣΥΦΟΣ" = Text.lowerCase "σίσυφος" ∧
      (warns "σίσυφος").IsSatisfied
        (.workflow .empty (.ofWarnings [.text "unknown step: ΣΊΣΥΦΟΣ"])) := by
  have hcase : Text.lowerCase "ΣΊΣΥΦΟΣ" = Text.lowerCase "σίσυφος" := by decide +kernel
  have hall := @isSatisfied_containsWarning .empty
    (.ofWarnings [.text "unknown step: ΣΊΣΥΦΟΣ"]) (warns "σίσυφος") "σίσυφος" rfl rfl
  obtain ⟨-, -, -, hplace⟩ :=
    hall.2 _ (.head _) "unknown step: " "ΣΊΣΥΦΟΣ" "" (by decide) hcase
  exact ⟨hcase, hplace (by decide +kernel) (by decide +kernel)⟩

/-- An expected text that ends with a capital sigma is not found inside a word. -/
theorem not_forall_isSatisfied_of_message_eq :
    ¬ ∀ (ast : WorkflowAst) (status : ParseStatus) (a : Assertion) (needle : String)
        (warning : ParseWarning) (before after : String),
      a.kind = AssertionKind.containsWarning.name → a.expectedSubstring = some needle →
        warning ∈ status.warnings → warning.message = before ++ needle ++ after →
          a.IsSatisfied (.workflow ast status) := by
  intro h
  have hsatisfied := h .empty (.ofWarnings [.text "ΑΣΑ"]) (warns "ΑΣ") "ΑΣ" (.text "ΑΣΑ") "" "Α"
    rfl rfl (.head _) (by decide)
  obtain ⟨warning, hwarning, hoccurs⟩ := (isSatisfied_iff_occursIn rfl rfl).mp hsatisfied
  rw [List.mem_singleton.mp hwarning] at hoccurs
  exact absurd hoccurs (by decide +kernel)

end WorkflowCheck

end Certification
