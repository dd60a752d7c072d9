import Phrasebook.Evaluator
import Phrasebook.Template.Reader

namespace Phrasebook

/-- Reads a source without a name and loads its templates. -/
def Registry.ofSource (source : String) : Except LoadError Registry := do
  let file ← (SourceFile.parse source).mapError LoadError.malformed
  ofFiles .reject [file]

theorem Registry.ofSource_of_parse {source : String} {file : SourceFile}
    (h : SourceFile.parse source = .ok file) :
    Registry.ofSource source = ofTemplates .reject file.templates := by
  rw [ofSource, h]
  exact congrArg (ofTemplates .reject) (List.flatMap_singleton ..)

/-- Loaded templates, and the seed that every request starts from if there is one. With a seed equal
requests have equal answers. -/
structure Engine where
  registry : Registry
  seed : Option Nat

namespace Engine

/-- Reads sources without names, and loads their templates together. -/
def ofSources (sources : List String) (seed : Option Nat) : Except LoadError Engine := do
  let files ← (sources.mapM SourceFile.parse).mapError LoadError.malformed
  let registry ← Registry.ofFiles .reject files
  return ⟨registry, seed⟩

/-- The names of the templates in the order of their definitions. -/
def names (e : Engine) : List String := e.registry.names

/-- The templates with the standard functions and random choices. -/
def library (e : Engine) : Library UInt64 := ⟨e.registry, Functions.standard, Picker.random⟩

/-- Renders a template; `entropy` is where the choices start from when there is no seed. -/
def evaluate (e : Engine) (entropy : Nat) (name : String) (scope : Value) :
    Except EvaluationError String :=
  ((Session.start e.library (UInt64.ofNat (e.seed.getD entropy))).render name scope).1

end Engine

end Phrasebook
