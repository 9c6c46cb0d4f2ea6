import PropertyBinding.Member
import PropertyBinding.Naming

/-! # Resolvers: which members are mapped, and to which property

A resolver gives every member a property name or none.  It also says whether it may
name members that are not public.  Its identifier stands for it wherever converters
are kept, so two resolvers of one identifier should name alike.  A resolver is
supplied code and may end without an answer.
-/
namespace PropertyBinding

/-- The role of a method; fields have none. -/
def MemberKind.role? : MemberKind → Option MethodRole
  | .getter => some .getter
  | .setter => some .setter
  | .field => none

/-- Whether a resolver may name members that are not public. -/
inductive AccessPolicy where
  | publicOnly
  | forceNonPublic
  deriving DecidableEq, Repr

/-- A policy that names members. -/
structure Resolver where
  id : String
  access : AccessPolicy := .publicOnly
  methodName : MemberInfo → MethodRole → Except Panic (Option String)
  fieldName : MemberInfo → Except Panic (Option String)

namespace Resolver

/-- The identifier of the resolver that is used when none is given. -/
def defaultId : String := "default"

/-- Whether the resolver goes by the identifier of the default one. -/
def isDefault (resolver : Resolver) : Bool :=
  resolver.id == defaultId

/-- The name of a member: methods are named by their role, fields without one. -/
def name? (resolver : Resolver) (info : MemberInfo) : Except Panic (Option String) :=
  match info.kind.role? with
  | some role => resolver.methodName info role
  | none => resolver.fieldName info

/-- The default resolver: public members only, fields under their own name and methods
under the property they access. -/
def default : Resolver where
  id := defaultId
  methodName info role :=
    .ok (if info.isPublic then some (Naming.property role info.name) else none)
  fieldName info := .ok (if info.isPublic then some info.name else none)

/-- A resolver that names members by an attribute and skips those without it, public
or not. -/
def byAttribute (key : String) : Resolver where
  id := "attribute:" ++ key
  access := .forceNonPublic
  methodName info _ := .ok (info.attribute? key)
  fieldName info := .ok (info.attribute? key)

/-- The attribute by which members are named unless another is given. -/
def attributeKey : String := "rename"

/-- A resolver that asks one function for methods and fields alike. -/
def ofFunction (id : String) (access : AccessPolicy)
    (f : MemberInfo → Option MethodRole → Except Panic (Option String)) : Resolver where
  id := id
  access := access
  methodName info role := f info (some role)
  fieldName info := f info none

@[simp] theorem name?_ofFunction (id : String) (access : AccessPolicy)
    (f : MemberInfo → Option MethodRole → Except Panic (Option String)) (info : MemberInfo) :
    (ofFunction id access f).name? info = f info info.kind.role? := by
  unfold name?
  cases info.kind <;> rfl

end Resolver
end PropertyBinding
