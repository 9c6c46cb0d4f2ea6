import PropertyBinding.Codec
import PropertyBinding.ValueType

/-! # Members: the parts of an instance that can be mapped

A member is a field, or one of the two methods of an accessor pair.  What is known
about it without touching an instance is its `MemberInfo`, which name resolvers
see.  Its `Slot` holds the handles that read and write the member on an instance;
the type of a handle follows from the value type of the slot.

A member is well-formed when the slot is of the declared type and has the handles
that its kind requires.  `Member.problem?` finds the first reason why it is not.
-/
namespace PropertyBinding

/-- How a member is reached on an instance. -/
inductive MemberKind where
  | field | getter | setter
  deriving DecidableEq, Repr

namespace MemberKind

/-- The word for a kind in artifacts. -/
def word : MemberKind → String
  | field => "field" | getter => "getter" | setter => "setter"

/-- The word for a kind in messages. -/
def title : MemberKind → String
  | field => "Field" | getter => "Getter" | setter => "Setter"

def all : List MemberKind :=
  [field, getter, setter]

/-- Fields and setters are written when an instance is filled. -/
def canFill : MemberKind → Bool
  | getter => false
  | _ => true

/-- Fields and getters are read when an instance is extracted. -/
def canExtract : MemberKind → Bool
  | setter => false
  | _ => true

end MemberKind

/-- What is known about a member without touching an instance. -/
structure MemberInfo where
  name : String
  type : ValueType
  kind : MemberKind
  isPublic : Bool := true
  /-- A static member belongs to the type and is never mapped. -/
  isStatic : Bool := false
  /-- Remarks attached to the member, in order; a key may stand twice. -/
  attributes : List (String × String) := []

namespace MemberInfo

/-- The first attribute of a key. -/
def attribute? (info : MemberInfo) (key : String) : Option String :=
  (info.attributes.find? fun remark => remark.1 == key).map Prod.snd

end MemberInfo

/-- A handle that reads a member of a type.  Only an opaque object can fail to be read. -/
abbrev ReadHandle (α : Type) : ValueType → Type
  | .scalar s => α → s.Carrier
  | .value => α → Value
  | .object _ => α → Except Error Value

/-- A handle that writes a member of a type and gives back the changed instance.  Only
an opaque object can refuse to be written. -/
abbrev WriteHandle (α : Type) : ValueType → Type
  | .scalar s => α → s.Carrier → α
  | .value => α → Value → α
  | .object _ => α → Value → Except Error Unit × α

namespace Codec

variable {α β : Type}

/-- The read handle of an opaque member. -/
def reader (codec : Codec β) (get : α → β) : α → Except Error Value :=
  fun subject => codec.toValue (get subject)

/-- The write handle of an opaque member.  Data that cannot be read leave the instance
as it is. -/
def writer (codec : Codec β) (set : α → β → α) : α → Value → Except Error Unit × α :=
  fun subject value =>
    match codec.ofValue value with
    | .ok data => (.ok (), set subject data)
    | .error error => (.error error, subject)

end Codec

/-- The access handles of a member and the type they operate on. -/
structure Slot (α : Type) where
  type : ValueType
  read : Option (ReadHandle α type)
  write : Option (WriteHandle α type)

namespace Slot

variable {α : Type}

def hasRead (slot : Slot α) : Bool :=
  slot.read.isSome

def hasWrite (slot : Slot α) : Bool :=
  slot.write.isSome

end Slot

/-- A member of instances of `α`. -/
structure Member (α : Type) where
  info : MemberInfo
  slot : Slot α

/-- What is wrong with a member. -/
inductive MemberProblem where
  /-- The handles operate on another type than the declared one. -/
  | typeDiffers (declared handles : ValueType)
  /-- A field lacks a handle. -/
  | fieldIncomplete
  /-- A getter has no read handle. -/
  | getterUnreadable
  /-- A setter has no write handle. -/
  | setterUnwritable
  deriving DecidableEq

/-- The wording of a problem. -/
def MemberProblem.message : MemberProblem → String
  | typeDiffers declared handles =>
    s!"declared as {declared.name} but its handles operate on {handles.name}"
  | fieldIncomplete => "a field needs both a read and a write handle"
  | getterUnreadable => "a getter has no read handle"
  | setterUnwritable => "a setter has no write handle"

namespace Member

variable {α : Type}

/-- A field with both handles. -/
def field (name : String) (type : ValueType) (read : ReadHandle α type)
    (write : WriteHandle α type) : Member α :=
  ⟨{ name, type, kind := .field }, ⟨type, some read, some write⟩⟩

/-- A getter method. -/
def getter (name : String) (type : ValueType) (read : ReadHandle α type) : Member α :=
  ⟨{ name, type, kind := .getter }, ⟨type, some read, none⟩⟩

/-- A setter method. -/
def setter (name : String) (type : ValueType) (write : WriteHandle α type) : Member α :=
  ⟨{ name, type, kind := .setter }, ⟨type, none, some write⟩⟩

/-- The member of a kind over two handles, of which the kind takes those it needs. -/
def ofKind (kind : MemberKind) (name : String) (type : ValueType) (read : ReadHandle α type)
    (write : WriteHandle α type) : Member α :=
  match kind with
  | .field => field name type read write
  | .getter => getter name type read
  | .setter => setter name type write

def nonPublic (member : Member α) : Member α :=
  { member with info.isPublic := false }

def static (member : Member α) : Member α :=
  { member with info.isStatic := true }

/-- Attach one more attribute. -/
def withAttribute (member : Member α) (key value : String) : Member α :=
  { member with info.attributes := member.info.attributes ++ [(key, value)] }

/-- Whether the member is only mapped by force. -/
def forced (member : Member α) : Bool :=
  !member.info.isPublic

/-- The first thing wrong with a member: its type, then the handles of its kind. -/
def problem? (member : Member α) : Option MemberProblem :=
  if member.slot.type ≠ member.info.type then
    some (.typeDiffers member.info.type member.slot.type)
  else
    match member.info.kind with
    | .field => if member.slot.hasRead && member.slot.hasWrite then none else some .fieldIncomplete
    | .getter => if member.slot.hasRead then none else some .getterUnreadable
    | .setter => if member.slot.hasWrite then none else some .setterUnwritable

/-- The error of a member that is not well-formed. -/
def malformed (typeName : String) (member : Member α) (problem : MemberProblem) : Error :=
  .malformedMember typeName member.info.name problem.message

/-- Members made for their kind have nothing wrong. -/
@[simp] theorem problem?_ofKind (kind : MemberKind) (name : String) (type : ValueType)
    (read : ReadHandle α type) (write : WriteHandle α type) :
    (ofKind kind name type read write).problem? = none := by
  cases kind <;> simp [ofKind, field, getter, setter, problem?, Slot.hasRead, Slot.hasWrite]

end Member
end PropertyBinding
