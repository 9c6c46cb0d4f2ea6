import PropertyBinding.Resolver

/-! # Artifacts: the decisions behind a converter

An artifact records what was decided when a converter was planned: the constructor
for new instances and, for each direction, which member is accessed under which
property.  It names members by place, so a converter can be built from it without a
resolver, and repeats what it relies on, so that a changed type is noticed.
-/
namespace PropertyBinding

/-- One access of a member. -/
structure Step where
  /-- The place of the member in its descriptor. -/
  index : Nat
  property : String
  /-- The declared name of the member. -/
  member : String
  kind : MemberKind
  type : ValueType
  /-- Whether the member is mapped although it is not public. -/
  forced : Bool
  deriving DecidableEq

/-- The constructor by which instances are made. -/
structure ConstructorChoice where
  index : Nat
  types : List ValueType
  deriving DecidableEq

/-- The decisions behind a converter. -/
structure Artifact where
  name : String
  typePath : String
  resolver : String
  constructor : Option ConstructorChoice
  /-- The writes of members, in order. -/
  fill : List Step
  /-- The reads of members, in order. -/
  extract : List Step
  deriving DecidableEq

namespace Artifact

/-- The name under which a converter for a type is registered: the identifier of the
resolver is part of it, unless it is the default one. -/
def nameFor (typePath resolver : String) : String :=
  if resolver = Resolver.defaultId then typePath ++ "Bean"
  else typePath ++ "Bean$" ++ resolver

/-- Whether two artifacts map a type alike, whatever they are called. -/
def sameMapping (a b : Artifact) : Bool :=
  a.fill = b.fill && a.extract = b.extract && a.constructor = b.constructor

theorem sameMapping_iff (a b : Artifact) :
    a.sameMapping b = true ↔
      a.fill = b.fill ∧ a.extract = b.extract ∧ a.constructor = b.constructor := by
  simp [sameMapping, and_assoc]

end Artifact
end PropertyBinding
