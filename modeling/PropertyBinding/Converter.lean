import PropertyBinding.Artifact
import PropertyBinding.Descriptor
import PropertyBinding.Store.Map
import PropertyBinding.Text.Quoted

/-! # Converters: filling and extracting instances

A converter is a list of prepared accesses for each direction.  Filling reads one
property after the other from a source and writes it to its member; extracting
reads one member after the other and writes it to a sink.  The first access that
fails ends the run: what was written before it stays, and nothing after it happens.
-/
namespace PropertyBinding

/-- A write of a member: one typed read of a source, one store. -/
structure FillStep (α : Type) where
  property : String
  type : ValueType
  write : WriteHandle α type

/-- A read of a member: one load, one typed write of a sink. -/
structure ExtractStep (α : Type) where
  property : String
  type : ValueType
  read : ReadHandle α type

/-- A prepared conversion between instances and stores. -/
structure Converter (α : Type) where
  /-- The name by which messages call the type. -/
  typeName : String
  /-- The decisions from which the converter was built. -/
  artifact : Artifact
  constructor : Option (Constructor α)
  fill : List (FillStep α)
  extract : List (ExtractStep α)

variable {α σ : Type}

namespace FillStep

/-- The error of an opaque object that could not take a value.  That its data could not
be read is a conversion failure of the property. -/
def refused (property typeName : String) (value : Value) : Error → Error
  | .decode problem => .conversion property typeName s!"{value.kind} ({problem})"
  | error => error

/-- Read the property by the access of its type and write it to the member. -/
def run (step : FillStep α) (source : Source σ) (subject : α) (state : σ) :
    Except Error Unit × α × σ :=
  match step.type, step.write with
  | .scalar s, write =>
    match source.read s step.property state with
    | (.ok data, state) => (.ok (), write subject data, state)
    | (.error error, state) => (.error error, subject, state)
  | .value, write =>
    match source.readValue step.property state with
    | (.ok value, state) => (.ok (), write subject value, state)
    | (.error error, state) => (.error error, subject, state)
  | .object typeName, write =>
    match source.readValue step.property state with
    | (.ok value, state) =>
      let (result, subject) := write subject value
      (result.mapError (refused step.property typeName value), subject, state)
    | (.error error, state) => (.error error, subject, state)

/-- Run steps in order up to the first that fails. -/
def runAll (source : Source σ) : List (FillStep α) → α → σ → Except Error Unit × α × σ
  | [], subject, state => (.ok (), subject, state)
  | step :: rest, subject, state =>
    match step.run source subject state with
    | (.ok (), subject, state) => runAll source rest subject state
    | (.error error, subject, state) => (.error error, subject, state)

@[simp] theorem runAll_nil (source : Source σ) (subject : α) (state : σ) :
    runAll source [] subject state = (.ok (), subject, state) := rfl

theorem runAll_cons (source : Source σ) (step : FillStep α) (rest : List (FillStep α))
    (subject : α) (state : σ) :
    runAll source (step :: rest) subject state =
      match step.run source subject state with
      | (.ok (), subject, state) => runAll source rest subject state
      | (.error error, subject, state) => (.error error, subject, state) := rfl

end FillStep

namespace ExtractStep

/-- Read the member and write it by the access of its type. -/
def run (step : ExtractStep α) (sink : Sink σ) (subject : α) (state : σ) :
    Except Error Unit × σ :=
  match step.type, step.read with
  | .scalar s, read => sink.write s step.property (read subject) state
  | .value, read => sink.writeValue step.property (read subject) state
  | .object _, read =>
    match read subject with
    | .ok value => sink.writeValue step.property value state
    | .error error => (.error error, state)

/-- Run steps in order up to the first that fails. -/
def runAll (sink : Sink σ) (subject : α) : List (ExtractStep α) → σ → Except Error Unit × σ
  | [], state => (.ok (), state)
  | step :: rest, state =>
    match step.run sink subject state with
    | (.ok (), state) => runAll sink subject rest state
    | (.error error, state) => (.error error, state)

@[simp] theorem runAll_nil (sink : Sink σ) (subject : α) (state : σ) :
    runAll sink subject [] state = (.ok (), state) := rfl

theorem runAll_cons (sink : Sink σ) (subject : α) (step : ExtractStep α)
    (rest : List (ExtractStep α)) (state : σ) :
    runAll sink subject (step :: rest) state =
      match step.run sink subject state with
      | (.ok (), state) => runAll sink subject rest state
      | (.error error, state) => (.error error, state) := rfl

end ExtractStep

namespace Converter

/-- The name under which the converter is registered. -/
def name (converter : Converter α) : String :=
  converter.artifact.name

/-- The properties that filling reads, in order. -/
def fillProperties (converter : Converter α) : List String :=
  converter.artifact.fill.map Step.property

/-- The properties that extracting writes, in order. -/
def extractProperties (converter : Converter α) : List String :=
  converter.artifact.extract.map Step.property

/-- A new instance from zero values, if the type has a constructor. -/
def create? (converter : Converter α) : Option α :=
  converter.constructor.map Constructor.make

/-- Write the members of an instance from a source. -/
def fillFrom (converter : Converter α) (source : Source σ) (subject : α) (state : σ) :
    Except Error Unit × α × σ :=
  FillStep.runAll source converter.fill subject state

/-- Write the members of an instance to a sink. -/
def extractTo (converter : Converter α) (sink : Sink σ) (subject : α) (state : σ) :
    Except Error Unit × σ :=
  ExtractStep.runAll sink subject converter.extract state

/-- A new instance, filled; nothing is read if the type has no constructor. -/
def createFrom (converter : Converter α) (source : Source σ) (state : σ) :
    Except Error (Option α) × σ :=
  match converter.create? with
  | none => (.ok none, state)
  | some subject =>
    let (result, subject, state) := converter.fillFrom source subject state
    (result.map fun _ => some subject, state)

/-- The properties of an instance as entries in the order of their names. -/
def toEntries (converter : Converter α) (subject : α) : Except Error (List (String × Value)) :=
  let (result, entries) := converter.extractTo Sink.entries subject []
  result.map fun _ => entries

/-- The properties of an instance as one value. -/
def toValue (converter : Converter α) (subject : α) : Except Error Value :=
  (converter.toEntries subject).map .map

/-- The error of an instance of another type. -/
def foreignInstance (converter : Converter α) : Error :=
  .foreignInstance converter.typeName

/-- A short description for diagnostics. -/
def summary (converter : Converter α) : String :=
  let fields : List (String × String) := [
    ("type_name", Text.quoted converter.typeName),
    ("name", Text.quoted converter.name),
    ("fill", toString converter.artifact.fill.length),
    ("extract", toString converter.artifact.extract.length)]
  let shown := fields.map fun (label, text) => label ++ ": " ++ text
  "Converter \x7b " ++ ", ".intercalate shown ++ " \x7d"

end Converter
end PropertyBinding
