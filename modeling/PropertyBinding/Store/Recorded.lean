import PropertyBinding.Store

/-! # Recorded stores: a store that keeps the list of its calls

Wrapped around a store, a recorder notes every call before it is made.  It can also
be told to refuse some properties, so that a call for them fails where it stands.
-/
namespace PropertyBinding

/-- A call of a store. -/
inductive Call where
  | readValue (property : String)
  | read (s : Scalar) (property : String)
  | writeValue (property : String) (value : Value)
  | write (s : Scalar) (property : String) (data : s.Carrier)

namespace Call

/-- The property that a call is about. -/
def property : Call → String
  | readValue property => property
  | read _ property => property
  | writeValue property _ => property
  | write _ property _ => property

end Call

/-- A store's state with the calls that were made, in order. -/
structure Recorded (σ : Type) where
  state : σ
  /-- The properties whose calls fail. -/
  refused : List String := []
  calls : List Call := []

namespace Recorded

variable {σ β : Type}

/-- Note a call, and make it unless its property is refused. -/
def perform (recorded : Recorded σ) (call : Call) (run : σ → Except Error β × σ) :
    Except Error β × Recorded σ :=
  let calls := recorded.calls ++ [call]
  if recorded.refused.contains call.property then
    (.error (.other s!"refused '{call.property}'"), { recorded with calls })
  else
    let (result, state) := run recorded.state
    (result, { recorded with state, calls })

@[simp] theorem calls_perform (recorded : Recorded σ) (call : Call)
    (run : σ → Except Error β × σ) :
    (recorded.perform call run).2.calls = recorded.calls ++ [call] := by
  unfold perform
  split <;> rfl

end Recorded

/-- A source whose calls are recorded. -/
def Source.recorded {σ : Type} (source : Source σ) : Source (Recorded σ) where
  readValue property state := state.perform (.readValue property) (source.readValue property)
  read s property state := state.perform (.read s property) (source.read s property)

/-- A sink whose calls are recorded. -/
def Sink.recorded {σ : Type} (sink : Sink σ) : Sink (Recorded σ) where
  writeValue property value state :=
    state.perform (.writeValue property value) (sink.writeValue property value)
  write s property data state :=
    state.perform (.write s property data) (sink.write s property data)

end PropertyBinding
