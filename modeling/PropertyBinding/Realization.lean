import PropertyBinding.Converter

/-! # Realization: from an artifact to a converter

An artifact is checked against the descriptor it is realized for: the type, the
constructor, and then step by step that the member at the recorded place is the
recorded one, is well-formed and has the handle that the step uses.  The first check
that fails gives the error.
-/
namespace PropertyBinding

/-- Why an artifact does not fit a descriptor. -/
inductive Misfit where
  /-- It was made for another type. -/
  | typePath (built linked : String)
  /-- No constructor at this place has the recorded parameters. -/
  | constructor (index : Nat)
  /-- There is no member at this place. -/
  | noMember (index : Nat) (member : String)
  /-- The member at this place is another one. -/
  | otherMember (index : Nat) (found expected : MemberKind × String)
  /-- The member has another type. -/
  | otherType (member : String) (found expected : ValueType)
  /-- The member cannot be written. -/
  | unwritable (member : String)
  /-- The member cannot be read. -/
  | unreadable (member : String)
  deriving DecidableEq

/-- The wording of a misfit. -/
def Misfit.message : Misfit → String
  | typePath built linked => s!"built for {built}, linked against {linked}"
  | constructor index => s!"no constructor #{index} with matching parameters"
  | noMember index member => s!"no member #{index} ('{member}')"
  | otherMember index (kind, name) (expectedKind, expectedName) =>
    s!"member #{index} is {kind.title} '{name}', " ++
      s!"expected {expectedKind.title} '{expectedName}'"
  | otherType member found expected =>
    s!"member '{member}' is {found.name}, expected {expected.name}"
  | unwritable member => s!"member '{member}' cannot be written"
  | unreadable member => s!"member '{member}' cannot be read"

namespace Descriptor

variable {α : Type}

/-- The error of an artifact that does not fit. -/
def misfit (descriptor : Descriptor α) (artifact : Artifact) (reason : Misfit) : Error :=
  .artifactMismatch artifact.name descriptor.typeName reason.message

/-- The member that a step names, if it is the recorded one. -/
def stepMember (descriptor : Descriptor α) (step : Step) : Except Misfit (Member α) :=
  match descriptor.members[step.index]? with
  | none => .error (.noMember step.index step.member)
  | some member =>
    let info := member.info
    if info.name ≠ step.member ∨ info.kind ≠ step.kind then
      .error (.otherMember step.index (info.kind, info.name) (step.kind, step.member))
    else if info.type ≠ step.type then
      .error (.otherType step.member info.type step.type)
    else .ok member

/-- The constructor that an artifact names, if it has the recorded parameters. -/
def chosen (descriptor : Descriptor α) (choice : ConstructorChoice) :
    Except Misfit (Constructor α) :=
  match descriptor.constructors[choice.index]? with
  | none => .error (.constructor choice.index)
  | some constructor =>
    if constructor.types = choice.types then .ok constructor
    else .error (.constructor choice.index)

/-- The member of a step, after all checks that do not depend on the direction. -/
def checkedMember (descriptor : Descriptor α) (artifact : Artifact) (step : Step) :
    Except Error (Member α) := do
  let member ← (descriptor.stepMember step).mapError (descriptor.misfit artifact)
  match member.problem? with
  | some problem => throw (member.malformed descriptor.typeName problem)
  | none => return member

/-- The write that a step records. -/
def fillStep (descriptor : Descriptor α) (artifact : Artifact) (step : Step) :
    Except Error (FillStep α) := do
  let member ← descriptor.checkedMember artifact step
  match member.slot.write with
  | some write => return { property := step.property, type := member.slot.type, write }
  | none => throw (descriptor.misfit artifact (.unwritable step.member))

/-- The read that a step records. -/
def extractStep (descriptor : Descriptor α) (artifact : Artifact) (step : Step) :
    Except Error (ExtractStep α) := do
  let member ← descriptor.checkedMember artifact step
  match member.slot.read with
  | some read => return { property := step.property, type := member.slot.type, read }
  | none => throw (descriptor.misfit artifact (.unreadable step.member))

/-- The constructor of an artifact, if it names one. -/
def realizeConstructor (descriptor : Descriptor α) (artifact : Artifact) :
    Except Error (Option (Constructor α)) :=
  match artifact.constructor with
  | none => .ok none
  | some choice => (descriptor.chosen choice).mapError (descriptor.misfit artifact) |>.map some

/-- Build the converter that an artifact describes. -/
def realize (descriptor : Descriptor α) (artifact : Artifact) : Except Error (Converter α) := do
  if artifact.typePath ≠ descriptor.typePath then
    throw (descriptor.misfit artifact (.typePath artifact.typePath descriptor.typePath))
  let constructor ← descriptor.realizeConstructor artifact
  let fill ← artifact.fill.mapM (descriptor.fillStep artifact)
  let extract ← artifact.extract.mapM (descriptor.extractStep artifact)
  return { typeName := descriptor.typeName, artifact, constructor, fill, extract }

end Descriptor
end PropertyBinding
