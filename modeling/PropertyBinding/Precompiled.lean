import PropertyBinding.Artifact.Reader
import PropertyBinding.Artifact.Writer
import PropertyBinding.Plan
import PropertyBinding.Realization

/-! # Precompiled converters: planning and building apart from each other

A type can be planned into an artifact that is kept as bytes, and a converter can be
built from such bytes later, without the resolver.  Neither defines or keeps anything.
-/
namespace PropertyBinding

/-- How a type tells its shape when it is asked; it may end without an answer. -/
abbrev Description (α : Type) := Except Panic (Descriptor α)

namespace Description

variable {α : Type}

/-- Plan the type into an artifact of this name. -/
def compile (description : Description α) (name : String) (resolver : Resolver) :
    Except Fault Artifact := do
  let descriptor ← Fault.ofPanic description
  descriptor.plan resolver name

/-- Build a converter from the symbols of an artifact.  The type is asked first. -/
def link (description : Description α) (s : List Json.Symbol) : Except Fault (Converter α) := do
  let descriptor ← Fault.ofPanic description
  let artifact ← Fault.ofError (Artifact.ofSymbols s)
  Fault.ofError (descriptor.realize artifact)

end Description
end PropertyBinding
