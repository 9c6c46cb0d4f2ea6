import PropertyBinding.Cache
import PropertyBinding.JsonObject

/-! # Journals: what is reported while converters are built and used

Reports have no part in results, so they are not mixed into the functions that
compute them: for each operation, a function here takes the operation's own input
and lists its reports, in order.  Where an operation stops, its reports stop.
-/
namespace PropertyBinding

/-- How important a report is. -/
inductive Level where
  | trace | debug | info | warn | error
  deriving DecidableEq, Repr

def Level.name : Level → String
  | trace => "trace" | debug => "debug" | info => "info" | warn => "warn" | error => "error"

/-- One report. -/
structure Report where
  level : Level
  text : String
  deriving DecidableEq, Repr

namespace Journal

variable {α : Type}

/-- The report of a member that is not well-formed, if an error is of that kind. -/
def malformed : Error → List Report
  | .malformedMember typeName member problem =>
    [⟨.error, s!"{typeName}: malformed member '{member}': {problem}"⟩]
  | _ => []

/-- The report of a member that is mapped although it is not public. -/
def forced (typeName : String) (member : Member α) (property : String) : List Report :=
  if member.forced then
    [⟨.debug,
      s!"{typeName}: forcing access to non-public member '{member.info.name}' as '{property}'"⟩]
  else []

/-- The reports of one member of a plan, and whether planning goes on behind it. -/
def member (typeName : String) (resolver : Resolver) (member : Member α) : List Report × Bool :=
  match member.verdict resolver with
  | .static =>
    ([⟨.trace, s!"{typeName}: static member '{member.info.name}' is never mapped"⟩], true)
  | .unnamed =>
    ([⟨.trace, s!"{typeName}: resolver '{resolver.id}' skipped '{member.info.name}'"⟩], true)
  | .panicked | .denied => ([], false)
  | .malformed property problem =>
    (forced typeName member property ++ malformed (member.malformed typeName problem), false)
  | .mapped property => (forced typeName member property, true)

/-- The reports of the members of a plan up to the one that ends it. -/
def members (typeName : String) (resolver : Resolver) : List (Member α) → List Report
  | [] => []
  | first :: rest =>
    match member typeName resolver first with
    | (reports, true) => reports ++ members typeName resolver rest
    | (reports, false) => reports

/-- The reports of properties that several steps of one direction share; `seen` are the
properties of the steps before. -/
def repeated (typeName direction : String) (seen : List String) : List Step → List Report
  | [] => []
  | step :: rest =>
    if seen.contains step.property then
      let report : Report :=
        ⟨.warn, s!"{typeName}: property '{step.property}' is mapped more than once " ++
          s!"for {direction}, '{step.member}' runs last"⟩
      report :: repeated typeName direction seen rest
    else repeated typeName direction (step.property :: seen) rest

/-- The reports of a plan. -/
def plan (descriptor : Descriptor α) (resolver : Resolver) : List Report :=
  let typeName := descriptor.typeName
  members typeName resolver descriptor.members ++
    match descriptor.plan resolver "" with
    | .ok artifact =>
      repeated typeName "fill" [] artifact.fill ++ repeated typeName "extract" [] artifact.extract
    | .error _ => []

/-- The reports of planning a type that may not tell its shape. -/
def compile (description : Description α) (resolver : Resolver) : List Report :=
  match description with
  | .ok descriptor => plan descriptor resolver
  | .error _ => []

/-- The reports of a realization. -/
def realize (descriptor : Descriptor α) (artifact : Artifact) : List Report :=
  match descriptor.realize artifact with
  | .ok converter =>
    [⟨.debug, s!"realized {artifact.name} for {descriptor.typeName} " ++
        s!"({converter.fill.length} fill, {converter.extract.length} extract)"⟩]
  | .error error => malformed error

/-- The reports of a link. -/
def link (description : Description α) (s : List Json.Symbol) : List Report :=
  match description, Artifact.ofSymbols s with
  | .ok descriptor, .ok artifact => realize descriptor artifact
  | _, _ => []

/-- The report of a definition. -/
def define (loader : Loader) (artifact : Artifact) : Report :=
  match loader.get? artifact.name with
  | some held =>
    if held = artifact then ⟨.trace, s!"artifact {artifact.name} already defined"⟩
    else ⟨.error, s!"artifact {artifact.name} redefined with different content"⟩
  | none => ⟨.debug, s!"defined artifact {artifact.name}"⟩

/-- The reports of a comparison with a kept converter. -/
def agree (description : Description α) (converter : Converter α) (resolver : Resolver) :
    List Report :=
  compile description resolver ++
    match description.compile converter.name resolver with
    | .ok planned =>
      if planned.sameMapping converter.artifact then []
      else
        [⟨.error, s!"resolver '{resolver.id}' maps {converter.artifact.typePath} " ++
        s!"differently from the cached {converter.name}"⟩]
    | .error _ => []

/-- The reports of a synthesis behind its plan. -/
def built (descriptor : Descriptor α) (artifact : Artifact) (loader : Loader) : List Report :=
  realize descriptor artifact ++
    match descriptor.realize artifact with
    | .error _ => []
    | .ok converter =>
      let synthesized : Report :=
        ⟨.debug, s!"synthesized {converter.name} " ++
        s!"(fill: {artifact.fill.length}, extract: {artifact.extract.length})"⟩
      define loader artifact :: if (loader.define artifact).1.toBool then [synthesized] else []

/-- The reports of a synthesis. -/
def synthesize (description : Description α) (resolver : Resolver) (loader : Loader) :
    List Report :=
  match description with
  | .error _ => []
  | .ok descriptor =>
    plan descriptor resolver ++
      match descriptor.plan resolver (Artifact.nameFor descriptor.typePath resolver.id) with
      | .ok artifact => built descriptor artifact loader
      | .error _ => []

variable {Ty : Type} {Data : Ty → Type}

/-- The reports of a request for the converter of a type with this full name. -/
def request (cache : Cache Ty Data) (type : Ty) (typePath : String)
    (description : Description (Data type)) (resolver : Resolver) : List Report :=
  match cache.place type resolver.id with
  | .poisoned => []
  | .filled shared =>
    ⟨.trace, s!"converter cache hit for {typePath}"⟩ ::
      agree description shared.converter resolver
  | .empty =>
    ⟨.debug, s!"compiling converter for {typePath} with resolver '{resolver.id}'"⟩ ::
      synthesize description resolver cache.loader

/-- The reports of the requests of several callers, one after the other. -/
def requests [DecidableEq Ty] (cache : Cache Ty Data) (type : Ty) (typePath : String)
    (description : Description (Data type)) (resolver : Resolver) : Nat → List Report
  | 0 => []
  | callers + 1 =>
    request cache type typePath description resolver ++
      requests (cache.compile type description resolver).2 type typePath description resolver
        callers

/-- The reports of an installation. -/
def install (cache : Cache Ty Data) (type : Ty) (description : Description (Data type))
    (artifact : Artifact) : List Report :=
  match cache.place type artifact.resolver with
  | .poisoned => []
  | place =>
    define cache.loader artifact ::
      match (cache.loader.define artifact).1, place, description with
      | .ok artifact, .empty, .ok descriptor =>
        let installed : Report := ⟨.debug, s!"installed converter {artifact.name}"⟩
        realize descriptor artifact ++
          if (descriptor.realize artifact).toBool then [installed] else []
      | _, _, _ => []

/-- The reports of a JSON object that was written to: a float that is not finite is lost. -/
def written (calls : List Call) : List Report :=
  (calls.filterMap JsonObject.lostFloat?).map fun f =>
    ⟨.warn, s!"non-finite float {Decimal.plain f} written as null"⟩

end Journal
end PropertyBinding
