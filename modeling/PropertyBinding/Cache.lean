import PropertyBinding.Loader
import PropertyBinding.Precompiled

/-! # Caches: one converter for each type and resolver

A cache keeps the converter that was first built for a type and a resolver identifier
and hands it out to all later requests.  `Cache.compile` builds what is missing by
planning; `Cache.install` takes it from an artifact that was made before.  Both
define the artifact in the loader of the cache, so that no two different artifacts
go by one name.

Resolvers of one identifier should name alike.  A request for a converter that is
there plans once more and is refused if the plan differs from the kept one.

When supplied code ends without an answer while a place of the cache is held, that place
is poisoned: it gives up its converter, and every later request for it fails.
-/
namespace PropertyBinding

/-- A converter with the stamp that it got when it was built: two requests got the very
same converter exactly if the stamps are equal. -/
structure Shared (α : Type) where
  stamp : Nat
  converter : Converter α

/-- What a place of a cache holds. -/
inductive Place (α : Type) where
  | empty
  | filled (shared : Shared α)
  | poisoned

namespace Place

variable {α : Type}

def isFilled : Place α → Bool
  | filled _ => true
  | _ => false

end Place

/-- The converters built so far, for types `Ty` with instances `Data`. -/
structure Cache (Ty : Type) (Data : Ty → Type) where
  /-- The places that were ever put something into, in that order. -/
  keys : List (Ty × String)
  /-- What the place of a type and a resolver identifier holds. -/
  place : (type : Ty) → String → Place (Data type)
  loader : Loader
  /-- How many converters were built by planning. -/
  syntheses : Nat
  /-- The stamp of the next converter. -/
  stamp : Nat

namespace Cache

variable {Ty : Type} {Data : Ty → Type}

/-- A cache that holds nothing. -/
def empty : Cache Ty Data where
  keys := []
  place _ _ := .empty
  loader := {}
  syntheses := 0
  stamp := 0

variable [DecidableEq Ty]

/-- How many places hold a converter. -/
def size (cache : Cache Ty Data) : Nat :=
  cache.keys.countP fun key => (cache.place key.1 key.2).isFilled

/-- Put something into a place. -/
def put (cache : Cache Ty Data) (type : Ty) (id : String) (content : Place (Data type)) :
    Cache Ty Data :=
  { cache with
    keys := if (type, id) ∈ cache.keys then cache.keys else cache.keys ++ [(type, id)]
    place := fun other otherId =>
      if same : type = other then
        if id = otherId then same ▸ content else cache.place other otherId
      else cache.place other otherId }

@[simp] theorem place_put_self (cache : Cache Ty Data) (type : Ty) (id : String)
    (content : Place (Data type)) : (cache.put type id content).place type id = content := by
  simp [put]

theorem place_put_of_ne (cache : Cache Ty Data) (type : Ty) (id : String)
    (content : Place (Data type)) {other : Ty} {otherId : String}
    (differs : ¬(type = other ∧ id = otherId)) :
    (cache.put type id content).place other otherId = cache.place other otherId := by
  unfold put
  by_cases same : type = other
  · subst same
    simp [show id ≠ otherId from fun sameId => differs ⟨rfl, sameId⟩]
  · simp [same]

@[simp] theorem loader_put (cache : Cache Ty Data) (type : Ty) (id : String)
    (content : Place (Data type)) : (cache.put type id content).loader = cache.loader := rfl

@[simp] theorem syntheses_put (cache : Cache Ty Data) (type : Ty) (id : String)
    (content : Place (Data type)) :
    (cache.put type id content).syntheses = cache.syntheses := rfl

/-- The error of a request for a poisoned place. -/
def poisonedError : Error :=
  .poisoned "poisoned lock: another task failed inside"

/-- Put a new converter into a place. -/
def publish (cache : Cache Ty Data) (type : Ty) (id : String) (converter : Converter (Data type)) :
    Shared (Data type) × Cache Ty Data :=
  let shared : Shared (Data type) := ⟨cache.stamp, converter⟩
  (shared, { cache.put type id (.filled shared) with stamp := cache.stamp + 1 })

/-- What a request that ended with a fault leaves behind: only a panic has a trace. -/
def afterFault (cache : Cache Ty Data) (type : Ty) (id : String) : Fault → Cache Ty Data
  | .panicked => cache.put type id .poisoned
  | .failed _ => cache

/-- Whether a kept converter maps its type as the resolver does. -/
def agree {α : Type} (description : Description α) (converter : Converter α)
    (resolver : Resolver) : Except Fault Unit := do
  let planned ← description.compile converter.name resolver
  if planned.sameMapping converter.artifact then return ()
  else throw (.failed (.artifactConflict converter.name))

/-- Plan and build a converter and define its artifact. -/
def synthesize {α : Type} (description : Description α) (resolver : Resolver) (loader : Loader) :
    Except Fault (Converter α × Loader) := do
  let descriptor ← Fault.ofPanic description
  let artifact ← descriptor.plan resolver (Artifact.nameFor descriptor.typePath resolver.id)
  let converter ← Fault.ofError (descriptor.realize artifact)
  let (defined, loader) := loader.define converter.artifact
  let _ ← Fault.ofError defined
  return (converter, loader)

/-- The converter for a type under a resolver, built if it is not there yet. -/
def compile (cache : Cache Ty Data) (type : Ty) (description : Description (Data type))
    (resolver : Resolver) : Except Fault (Shared (Data type)) × Cache Ty Data :=
  match cache.place type resolver.id with
  | .poisoned => (.error (.failed poisonedError), cache)
  | .filled shared =>
    match agree description shared.converter resolver with
    | .ok () => (.ok shared, cache)
    | .error fault => (.error fault, cache.afterFault type resolver.id fault)
  | .empty =>
    match synthesize description resolver cache.loader with
    | .ok (converter, loader) =>
      let (shared, cache) := cache.publish type resolver.id converter
      (.ok shared, { cache with loader, syntheses := cache.syntheses + 1 })
    | .error fault => (.error fault, cache.afterFault type resolver.id fault)

/-- Make an artifact the converter for a type under the resolver that it records.  A
converter that is there already stays. -/
def installArtifact (cache : Cache Ty Data) (type : Ty) (description : Description (Data type))
    (artifact : Artifact) : Except Fault (Shared (Data type)) × Cache Ty Data :=
  let id := artifact.resolver
  match cache.place type id with
  | .poisoned => (.error (.failed poisonedError), cache)
  | place =>
    match cache.loader.define artifact with
    | (.error error, _) => (.error (.failed error), cache)
    | (.ok artifact, loader) =>
      let cache := { cache with loader }
      match place with
      | .filled shared => (.ok shared, cache)
      | _ =>
        match description with
        | .error _ => (.error .panicked, cache.afterFault type id .panicked)
        | .ok descriptor =>
          match descriptor.realize artifact with
          | .error error => (.error (.failed error), cache)
          | .ok converter =>
            let (shared, cache) := cache.publish type id converter
            (.ok shared, cache)

/-- Install an artifact given by its symbols. -/
def install (cache : Cache Ty Data) (type : Ty) (description : Description (Data type))
    (s : List Json.Symbol) : Except Fault (Shared (Data type)) × Cache Ty Data :=
  match Artifact.ofSymbols s with
  | .error error => (.error (.failed error), cache)
  | .ok artifact => cache.installArtifact type description artifact

/-- Requests of several callers for one converter, one after the other. -/
def compileEach (cache : Cache Ty Data) (type : Ty) (description : Description (Data type))
    (resolver : Resolver) : Nat → List (Except Fault (Shared (Data type))) × Cache Ty Data
  | 0 => ([], cache)
  | callers + 1 =>
    let (result, cache) := cache.compile type description resolver
    let (results, cache) := compileEach cache type description resolver callers
    (result :: results, cache)

end Cache
end PropertyBinding
