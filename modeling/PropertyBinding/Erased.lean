import PropertyBinding.Converter

/-! # Erased converters: calls on instances of an unknown type

Where converters of several types are kept side by side, an instance and a converter
each carry their type along.  A call compares the two first and then runs the
converter; an instance of another type is refused and nothing is read or written.
-/
namespace PropertyBinding

variable {Ty σ : Type} {Data : Ty → Type}

/-- An instance of some type. -/
structure AnyInstance (Data : Ty → Type) where
  type : Ty
  subject : Data type

/-- A converter for some type. -/
structure AnyConverter (Data : Ty → Type) where
  type : Ty
  converter : Converter (Data type)

namespace AnyConverter

/-- A new instance of the converter's type, if that has a constructor. -/
def create? (any : AnyConverter Data) : Option (AnyInstance Data) :=
  any.converter.create?.map fun subject => ⟨any.type, subject⟩

variable [DecidableEq Ty]

/-- Fill an instance, if it is of the converter's type. -/
def fillFrom (any : AnyConverter Data) (source : Source σ) (target : AnyInstance Data) (state : σ) :
    Except Error Unit × AnyInstance Data × σ :=
  if same : target.type = any.type then
    let (result, subject, state) := any.converter.fillFrom source (same ▸ target.subject) state
    (result, ⟨any.type, subject⟩, state)
  else (.error any.converter.foreignInstance, target, state)

/-- Extract an instance, if it is of the converter's type. -/
def extractTo (any : AnyConverter Data) (sink : Sink σ) (target : AnyInstance Data) (state : σ) :
    Except Error Unit × σ :=
  if same : target.type = any.type then
    any.converter.extractTo sink (same ▸ target.subject) state
  else (.error any.converter.foreignInstance, state)

end AnyConverter
end PropertyBinding
