import PropertyBinding.Cache
import PropertyBinding.JsonObject

/-! # Instances as JSON text

An instance is read from the text of a JSON object, and written as one, through the
converter that a cache keeps for its type under the default resolver.
-/
namespace PropertyBinding
namespace Cache

variable {Ty : Type} {Data : Ty → Type} [DecidableEq Ty]

/-- A new instance from the text of an object.  The converter comes first: a type that
cannot be converted is reported before a text that cannot be read. -/
def readText (cache : Cache Ty Data) (type : Ty) (description : Description (Data type))
    (text : String) : Except Fault (Data type) × Cache Ty Data :=
  let (compiled, cache) := cache.compile type description Resolver.default
  let result : Except Fault (Data type) := do
    let shared ← compiled
    let object ← Fault.ofError (JsonObject.parse text)
    let created ← Fault.ofError (shared.converter.createFrom Source.json object).1
    match created with
    | some subject => return subject
    | none => throw (.failed (.other s!"{shared.converter.typeName} has no constructor"))
  (result, cache)

/-- The text of an instance as an object. -/
def writeText (cache : Cache Ty Data) (type : Ty) (description : Description (Data type))
    (subject : Data type) : Except Fault String × Cache Ty Data :=
  let (compiled, cache) := cache.compile type description Resolver.default
  let result : Except Fault String := do
    let shared ← compiled
    match shared.converter.extractTo Sink.json subject {} with
    | (.ok (), object) => return object.text
    | (.error error, _) => throw (.failed error)
  (result, cache)

end Cache
end PropertyBinding
