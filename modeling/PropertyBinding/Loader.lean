import PropertyBinding.Artifact

/-! # Loaders: the artifacts that are defined, each name once

A loader keeps the first artifact of every name.  Defining the same artifact again
changes nothing, and defining another one under a name that is taken is an error.
-/
namespace PropertyBinding

/-- The defined artifacts, in the order in which they were defined. -/
structure Loader where
  defined : List Artifact := []
  deriving DecidableEq

namespace Loader

/-- The artifact of a name. -/
def get? (loader : Loader) (name : String) : Option Artifact :=
  loader.defined.find? fun artifact => artifact.name == name

def size (loader : Loader) : Nat :=
  loader.defined.length

def isEmpty (loader : Loader) : Bool :=
  loader.defined.isEmpty

/-- Define an artifact under its name. -/
def define (loader : Loader) (artifact : Artifact) : Except Error Artifact × Loader :=
  match loader.get? artifact.name with
  | some held =>
    if held = artifact then (.ok held, loader)
    else (.error (.artifactConflict artifact.name), loader)
  | none => (.ok artifact, { defined := loader.defined ++ [artifact] })

@[simp] theorem get?_empty (name : String) : ({} : Loader).get? name = none := rfl

/-- What is defined stays defined, and a new name gets its first artifact. -/
theorem get?_define (loader : Loader) (artifact : Artifact) (name : String) :
    (loader.define artifact).2.get? name =
      match loader.get? name with
      | some held => some held
      | none => if artifact.name = name then some artifact else none := by
  unfold define
  cases held : loader.get? artifact.name with
  | some first =>
    have kept : (if first = artifact then ((.ok first, loader) : Except Error Artifact × Loader)
        else (.error (.artifactConflict artifact.name), loader)).2 = loader := by
      split <;> rfl
    simp only [kept]
    cases other : loader.get? name with
    | some _ => rfl
    | none =>
      have : artifact.name ≠ name := fun same => by simp [← same, held] at other
      simp [this]
  | none =>
    simp only [get?, List.find?_append]
    cases other : loader.defined.find? fun artifact => artifact.name == name with
    | some _ => rfl
    | none => by_cases same : artifact.name = name <;> simp [same]

end Loader
end PropertyBinding
