import PropertyBinding.Resolver

/-! # Naming tables: resolvers given as data

A table names single members by rules and all others by one general way.  It may
pass over members that are not public, and it may be told to give up on some names.
-/
namespace PropertyBinding

/-- A rule that names the members of one declared name. -/
structure NamingRule where
  declared : String
  /-- The kinds of members that the rule is for. -/
  kinds : List MemberKind
  /-- The property, or none to skip the member. -/
  property : Option String

/-- How members are named that no rule speaks of. -/
inductive NamingWay where
  /-- By their declared name. -/
  | declared
  /-- By the property they access. -/
  | property
  /-- By the word for their kind. -/
  | kind
  /-- By the name of their type. -/
  | type
  /-- By their first attribute, key and value. -/
  | remark
  /-- Not at all. -/
  | none

/-- A resolver given as data. -/
structure NamingTable where
  /-- Declared names at which the resolver ends without an answer. -/
  panicOn : List String := []
  /-- Whether members that are not public are passed over. -/
  publicOnly : Bool := false
  rules : List NamingRule := []
  otherwise : NamingWay := .none

namespace NamingTable

/-- The property of a member that no rule speaks of. -/
def general (way : NamingWay) (info : MemberInfo) : Option String :=
  match way with
  | .declared => some info.name
  | .property =>
    match info.kind.role? with
    | some role => some (Naming.property role info.name)
    | none => some info.name
  | .kind => some info.kind.word
  | .type => some info.type.name
  | .remark => info.attributes.head?.map fun remark => remark.1 ++ "=" ++ remark.2
  | .none => none

/-- The property of a member: the first rule for it counts. -/
def name? (table : NamingTable) (info : MemberInfo) : Except Panic (Option String) :=
  if table.panicOn.contains info.name then .error .panic
  else if table.publicOnly && !info.isPublic then .ok none
  else
    let fits (rule : NamingRule) : Bool :=
      rule.declared == info.name && rule.kinds.contains info.kind
    match table.rules.find? fits with
    | some rule => .ok rule.property
    | none => .ok (general table.otherwise info)

/-- The resolver of a table. -/
def resolver (table : NamingTable) (id : String) (access : AccessPolicy) : Resolver :=
  Resolver.ofFunction id access fun info _ => table.name? info

end NamingTable
end PropertyBinding
