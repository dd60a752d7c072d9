import Phrasebook.Text.Basic

namespace Phrasebook.Name

def startsIdentifier (c : Char) : Bool := c.isAlphanum || c = '_'

def continuesIdentifier (c : Char) : Bool := c.isAlphanum || c = '_' || c = '-'

def isIdentifierChars : List Char → Bool
  | [] => false
  | c :: cs => startsIdentifier c && cs.all continuesIdentifier

theorem continuesIdentifier_of_starts {c : Char} (h : startsIdentifier c) :
    continuesIdentifier c := by
  unfold startsIdentifier at h
  simp [continuesIdentifier, h]

theorem not_mem_of_isIdentifierChars {cs : List Char} (h : isIdentifierChars cs) {d : Char}
    (hd : continuesIdentifier d = false) : d ∉ cs := by
  intro hmem
  cases cs with
  | nil => contradiction
  | cons c cs =>
    rw [isIdentifierChars, Bool.and_eq_true, List.all_eq_true] at h
    obtain ⟨hc, hcs⟩ := h
    have hcontinues : continuesIdentifier d := by
      rcases List.mem_cons.1 hmem with rfl | hmem
      · exact continuesIdentifier_of_starts hc
      · exact hcs d hmem
    rw [hd] at hcontinues
    contradiction

/-- The shape shared by parameters and the parts of a template name: an ASCII letter, a digit or an
underscore, and then those and hyphens. -/
def isIdentifier (text : String) : Bool := isIdentifierChars text.toList

def segments (name : String) : List String :=
  (Text.splitOn '.' name.toList).map String.ofList

def isTemplateNameChars (cs : List Char) : Bool := (Text.splitOn '.' cs).all isIdentifierChars

/-- Identifiers joined by dots. -/
def isTemplateName (name : String) : Bool := isTemplateNameChars name.toList

end Phrasebook.Name
