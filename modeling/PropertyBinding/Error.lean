/-! # Errors: why a converter could not be built or did not finish

One type for every cause.  A conversion failure is an ordinary outcome of filling
an instance; the causes that speak of members and artifacts are defects of a
description, found while a converter is built.  `Error.message` is the only place
that words them.
-/
namespace PropertyBinding

/-- Why an operation failed. -/
inductive Error where
  /-- A store handed over a value of another type than the member's. -/
  | conversion (property expected found : String)
  /-- A store that tells absent properties apart has none of this name. -/
  | missing (property : String)
  /-- The access handles of a member do not suit its declaration. -/
  | malformedMember (typeName member problem : String)
  /-- A resolver without the right to do so named a member that is not public. -/
  | accessDenied (typeName member resolver : String)
  /-- An artifact name is taken by different content. -/
  | artifactConflict (name : String)
  /-- An artifact does not fit the type it is realized for. -/
  | artifactMismatch (name typeName problem : String)
  /-- A converter was handed an instance of another type. -/
  | foreignInstance (expected : String)
  /-- A value could not be written. -/
  | encode (problem : String)
  /-- A value could not be read. -/
  | decode (problem : String)
  /-- An earlier failure of supplied code has spoilt a shared place for good. -/
  | poisoned (problem : String)
  /-- A failure told in the words of a store or of supplied code. -/
  | other (problem : String)
  deriving DecidableEq, Repr

namespace Error

/-- The wording of an error. -/
def message : Error → String
  | conversion property expected found =>
    s!"cannot convert property '{property}': expected {expected}, found {found}"
  | missing property => s!"missing property '{property}'"
  | malformedMember typeName member problem =>
    s!"malformed member '{member}' of {typeName}: {problem}"
  | accessDenied typeName member resolver =>
    s!"resolver '{resolver}' mapped non-public member '{member}' of {typeName} " ++
      "without declaring forced access"
  | artifactConflict name => s!"artifact '{name}' is already defined with different content"
  | artifactMismatch name typeName problem =>
    s!"artifact '{name}' does not match {typeName}: {problem}"
  | foreignInstance expected =>
    s!"converter for {expected} was handed an instance of another type"
  | encode problem => s!"encode error: {problem}"
  | decode problem => s!"decode error: {problem}"
  | poisoned problem => s!"lock poisoned: {problem}"
  | other problem => problem

/-- Whether the error is about the type of a single property. -/
def isConversion : Error → Bool
  | conversion .. => true
  | _ => false

end Error

/-- How code supplied from outside may end without an answer. -/
inductive Panic where
  | panic
  deriving DecidableEq, Repr

/-- How an operation that calls supplied code may end without a result. -/
inductive Fault where
  | failed (error : Error)
  | panicked
  deriving DecidableEq, Repr

namespace Fault

/-- An operation that calls no supplied code can only fail with an error. -/
def ofError {α : Type} (result : Except Error α) : Except Fault α :=
  result.mapError failed

/-- Supplied code either answers or stops without an answer. -/
def ofPanic {α : Type} (result : Except Panic α) : Except Fault α :=
  result.mapError fun _ => panicked

end Fault
end PropertyBinding
