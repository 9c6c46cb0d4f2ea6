import PropertyBinding.Artifact
import PropertyBinding.Descriptor

/-! # Plans: from a descriptor and a resolver to an artifact

Planning goes through the members in order.  Static members and those that the resolver
does not name are left out; each of the others becomes a step of the directions of
its kind.  The first member that may not be named, or is not well-formed, ends the
plan with an error.  `Member.verdict` is what becomes of a single member, whatever
stands before and after it.
-/
namespace PropertyBinding

/-- What becomes of a member in a plan. -/
inductive Verdict where
  /-- Static, and so never mapped. -/
  | static
  /-- Not named by the resolver. -/
  | unnamed
  /-- The resolver ended without an answer. -/
  | panicked
  /-- Named, but not public, by a resolver that may not do so. -/
  | denied
  /-- Named, but not well-formed. -/
  | malformed (property : String) (problem : MemberProblem)
  | mapped (property : String)

/-- What becomes of a member under a resolver.  A forbidden access counts before a
fault of the member itself. -/
def Member.verdict {α : Type} (resolver : Resolver) (member : Member α) : Verdict :=
  if member.info.isStatic then .static
  else
    match resolver.name? member.info with
    | .error _ => .panicked
    | .ok none => .unnamed
    | .ok (some property) =>
      if member.forced && resolver.access = .publicOnly then .denied
      else
        match member.problem? with
        | some problem => .malformed property problem
        | none => .mapped property

namespace Descriptor

variable {α : Type}

/-- The step that maps the member at a place to a property. -/
def step (index : Nat) (member : Member α) (property : String) : Step where
  index := index
  property := property
  member := member.info.name
  kind := member.info.kind
  type := member.info.type
  forced := member.forced

/-- The steps of the members from place `index` on. -/
def stepsFrom (typeName : String) (resolver : Resolver) (index : Nat) :
    List (Member α) → Except Fault (List Step)
  | [] => .ok []
  | member :: rest =>
    match member.verdict resolver with
    | .static | .unnamed => stepsFrom typeName resolver (index + 1) rest
    | .panicked => .error .panicked
    | .denied => .error (.failed (.accessDenied typeName member.info.name resolver.id))
    | .malformed _ problem => .error (.failed (member.malformed typeName problem))
    | .mapped property =>
      (stepsFrom typeName resolver (index + 1) rest).map (step index member property :: ·)

/-- The steps of all members that are mapped, in order. -/
def steps (descriptor : Descriptor α) (resolver : Resolver) : Except Fault (List Step) :=
  stepsFrom descriptor.typeName resolver 0 descriptor.members

/-- The artifact of the mapped members under a name. -/
def artifact (descriptor : Descriptor α) (resolver name : String) (steps : List Step) :
    Artifact where
  name := name
  typePath := descriptor.typePath
  resolver := resolver
  constructor := descriptor.cheapest?.map fun (index, types) => { index, types }
  fill := steps.filter fun step => step.kind.canFill
  extract := steps.filter fun step => step.kind.canExtract

/-- Plan a converter: select, name and check the members, and choose a constructor. -/
def plan (descriptor : Descriptor α) (resolver : Resolver) (name : String) :
    Except Fault Artifact :=
  (descriptor.steps resolver).map (descriptor.artifact resolver.id name)

/-- The name of an artifact has no part in what it maps. -/
theorem plan_name_irrelevant (descriptor : Descriptor α) (resolver : Resolver)
    (name other : String) :
    descriptor.plan resolver other =
      (descriptor.plan resolver name).map fun artifact => { artifact with name := other } := by
  unfold plan
  cases descriptor.steps resolver <;> rfl

end Descriptor
end PropertyBinding
