import PropertyBinding.Scalar

/-! # Stores: by-name access to properties

A `Source` answers reads by property name and a `Sink` takes writes; each has a
state of its own, which a call may change even if it fails.  The access to values
is all that a store must give.  The nine typed accesses go through it unless the
store has a quicker way: reads narrow the value they get, writes widen the scalar
they are given.
-/
namespace PropertyBinding

/-- A store to read from. -/
structure Source (σ : Type) where
  /-- Read a property as a value. -/
  readValue : String → σ → Except Error Value × σ
  /-- Read a property as a scalar. -/
  read : (s : Scalar) → String → σ → Except Error s.Carrier × σ := fun s property state =>
    let (result, state) := readValue property state
    (result.bind (s.narrow property), state)

/-- A store to write to. -/
structure Sink (σ : Type) where
  /-- Write a value under a property. -/
  writeValue : String → Value → σ → Except Error Unit × σ
  /-- Write a scalar under a property. -/
  write : (s : Scalar) → String → s.Carrier → σ → Except Error Unit × σ :=
    fun s property data state => writeValue property (s.widen data) state

namespace Source

variable {σ : Type}

/-- The source that only knows how to read values. -/
def ofReadValue (readValue : String → σ → Except Error Value × σ) : Source σ where
  readValue := readValue

@[simp] theorem read_ofReadValue (readValue : String → σ → Except Error Value × σ)
    (s : Scalar) (property : String) (state : σ) :
    (ofReadValue readValue).read s property state =
      ((readValue property state).1.bind (s.narrow property), (readValue property state).2) := rfl

end Source

namespace Sink

variable {σ : Type}

/-- The sink that only knows how to write values. -/
def ofWriteValue (writeValue : String → Value → σ → Except Error Unit × σ) : Sink σ where
  writeValue := writeValue

@[simp] theorem write_ofWriteValue (writeValue : String → Value → σ → Except Error Unit × σ)
    (s : Scalar) (property : String) (data : s.Carrier) (state : σ) :
    (ofWriteValue writeValue).write s property data state =
      writeValue property (s.widen data) state := rfl

end Sink
end PropertyBinding
