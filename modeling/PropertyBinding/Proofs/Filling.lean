import PropertyBinding.Codec.Standard
import PropertyBinding.Proofs.Acceptance
import PropertyBinding.Proofs.Transfer
import PropertyBinding.Store.Recorded

/-! # How far filling gets

Filling goes through its plan step by step: a read of the source, then a write of the member.
What the source answers decides how far it gets, whatever the instance is
(`Converter.Fills`).  For a prefix of the plan the source delivers what the members take
(`Source.Delivers`); the next step, if there is one, fails (`FillStep.Fails`), either because
the source has an error for it or because the codec of an opaque member reads no data from
what the source has.

The main statement (`fill_is_prefix`) says what filling does: what was delivered is in the
instance and nothing else, the reads are those of the prefix and of the failing step, and the
error is that of the failing step.
-/
namespace PropertyBinding

variable {α σ : Type}

/-! ## Plans and their members -/

namespace Descriptor

end Descriptor

/-! ## Deliveries -/

/-- The call by which a step reads its property. -/
def FillStep.call : FillStep α → Call
  | ⟨property, .scalar s, _⟩ => .read s property
  | ⟨property, .value, _⟩ => .readValue property
  | ⟨property, .object _, _⟩ => .readValue property

/-- A read that was answered: the step for which it was made, and what the source had. -/
structure Delivery (α : Type) where
  step : FillStep α
  data : Datum step.type

namespace Delivery

/-- The instance with what was delivered in the member of the step. -/
def store (delivery : Delivery α) (subject : α) : α :=
  (writeAt delivery.step.type delivery.step.write subject delivery.data).2

/-- The member takes what was delivered, on every instance. -/
def Taken (delivery : Delivery α) : Prop :=
  ∀ subject, (writeAt delivery.step.type delivery.step.write subject delivery.data).1 = .ok ()

/-- The call that was answered. -/
def call (delivery : Delivery α) : Call :=
  delivery.step.call

/-- The instance with all deliveries stored, in order. -/
def storeAll (deliveries : List (Delivery α)) (subject : α) : α :=
  deliveries.foldl (fun stored delivery => delivery.store stored) subject

end Delivery

/-- A source has an answer for one read after the other, each in the state that the one before
has left. -/
inductive Source.Delivers (source : Source σ) : List (Delivery α) → σ → σ → Prop
  | nil (state : σ) : Delivers source [] state state
  | cons {delivery : Delivery α} {rest : List (Delivery α)} {state next left : σ}
      (read : source.fetch delivery.step.type delivery.step.property state =
        (.ok delivery.data, next))
      (others : Delivers source rest next left) : Delivers source (delivery :: rest) state left

namespace FillStep

/-- A step fails with an error: with that of the source, or with a conversion of its own that
names the property, the declared type and the kind of the value. -/
inductive Fails (source : Source σ) : FillStep α → σ → Error → σ → Prop
  /-- The source has an error for the step. -/
  | unread {step : FillStep α} {state left : σ} {error : Error}
      (read : source.fetch step.type step.property state = (.error error, left)) :
      Fails source step state error left
  /-- The codec of an opaque member reads no data from the value of the source. -/
  | undecoded {β : Type} {property typeName : String} {codec : Codec β} {set : α → β → α}
      {state left : σ} {value : Value} {refusal : Json.Refusal}
      (read : source.readValue property state = (.ok value, left))
      (refused : codec.decode (Json.ofValue value) = .error refusal) :
      Fails source ⟨property, .object typeName, codec.writer set⟩ state
        (.conversion property typeName s!"{value.kind} ({refusal.message})") left

variable {source : Source σ} {step : FillStep α} {state left : σ} {error : Error}

/-- A step that fails writes nothing. -/
theorem Fails.run (h : step.Fails source state error left) (subject : α) :
    step.run source subject state = (.error error, subject, left) := by
  cases h with
  | unread read =>
    obtain ⟨property, type, write⟩ := step
    cases type <;> simp only [Source.fetch] at read <;> simp only [FillStep.run, read]
  | @undecoded β property typeName codec set _ _ value refusal read refused =>
    have hwrite : codec.writer set subject value = (.error (.decode refusal.message), subject) := by
      simp only [Codec.writer, Codec.ofValue, refused]
    simp only [FillStep.run, read, hwrite]
    rfl

/-- A step whose read is answered and whose member takes the answer writes it. -/
theorem run_delivery {delivery : Delivery α}
    (hread : source.fetch delivery.step.type delivery.step.property state =
      (.ok delivery.data, left))
    (htaken : delivery.Taken) (subject : α) :
    delivery.step.run source subject state = (.ok (), delivery.store subject, left) :=
  run_eq_ok_iff.mpr ⟨delivery.data, hread, Prod.ext (htaken subject) rfl⟩

end FillStep

/-! ## Runs -/

variable {source : Source σ} {deliveries : List (Delivery α)} {state left : σ}

/-- A run stores what is delivered, and then goes on with the steps behind. -/
theorem Source.Delivers.runAll (h : source.Delivers deliveries state left)
    (htaken : ∀ delivery ∈ deliveries, delivery.Taken) (later : List (FillStep α)) (subject : α) :
    FillStep.runAll source (deliveries.map Delivery.step ++ later) subject state =
      FillStep.runAll source later (Delivery.storeAll deliveries subject) left := by
  induction h generalizing subject with
  | nil => rfl
  | cons read _ ih =>
    obtain ⟨hfirst, hrest⟩ := List.forall_mem_cons.mp htaken
    rw [List.map_cons, List.cons_append, FillStep.runAll_cons,
      FillStep.run_delivery read hfirst subject]
    exact ih hrest _

theorem FillStep.Fails.runAll {step : FillStep α} {error : Error}
    (h : step.Fails source state error left) (rest : List (FillStep α)) (subject : α) :
    FillStep.runAll source (step :: rest) subject state = (.error error, subject, left) := by
  rw [FillStep.runAll_cons, h.run]

/-! ## Recorded reads -/

/-- A recorded source answers as the source itself, and notes the call. -/
theorem Source.fetch_recorded (step : FillStep α) (state : σ) (calls : List Call) :
    source.recorded.fetch step.type step.property ⟨state, [], calls⟩ =
      ((source.fetch step.type step.property state).1,
        ⟨(source.fetch step.type step.property state).2, [], calls ++ [step.call]⟩) := by
  obtain ⟨property, type, write⟩ := step
  cases type <;> rfl

theorem Source.Delivers.recorded (h : source.Delivers deliveries state left) (calls : List Call) :
    source.recorded.Delivers deliveries ⟨state, [], calls⟩
      ⟨left, [], calls ++ deliveries.map Delivery.call⟩ := by
  induction h generalizing calls with
  | nil state =>
    rw [List.map_nil, List.append_nil]
    exact .nil _
  | cons read _ ih =>
    rw [List.map_cons, List.append_cons]
    refine .cons ?_ (ih _)
    rw [Source.fetch_recorded, read]
    rfl

theorem FillStep.Fails.recorded {step : FillStep α} {error : Error}
    (h : step.Fails source state error left) (calls : List Call) :
    step.Fails source.recorded ⟨state, [], calls⟩ error ⟨left, [], calls ++ [step.call]⟩ := by
  cases h with
  | unread read =>
    refine .unread ?_
    rw [Source.fetch_recorded, read]
  | @undecoded β property typeName codec set _ _ value refusal read refused =>
    have hfetch := source.fetch_recorded ⟨property, .object typeName, codec.writer set⟩ state calls
    simp only [Source.fetch, read] at hfetch
    exact .undecoded hfetch refused

/-! ## The main statement -/

/-- What a source does to the plan of a converter: what it delivers, the result, the state that
it is left in, and the calls that it sees. -/
inductive Converter.Fills (converter : Converter α) (source : Source σ) (state : σ) :
    List (Delivery α) → Except Error Unit → σ → List Call → Prop
  /-- The whole plan is delivered, and every member takes its delivery. -/
  | whole {deliveries : List (Delivery α)} {left : σ}
      (plan : converter.fill = deliveries.map Delivery.step)
      (delivers : source.Delivers deliveries state left)
      (taken : ∀ delivery ∈ deliveries, delivery.Taken) :
      Fills converter source state deliveries (.ok ()) left (deliveries.map Delivery.call)
  /-- The step behind a prefix of the plan fails. -/
  | broken {deliveries : List (Delivery α)} {step : FillStep α} {later : List (FillStep α)}
      {left last : σ} {error : Error}
      (plan : converter.fill = deliveries.map Delivery.step ++ step :: later)
      (delivers : source.Delivers deliveries state left)
      (taken : ∀ delivery ∈ deliveries, delivery.Taken)
      (fails : step.Fails source left error last) :
      Fills converter source state deliveries (.error error) last
        (deliveries.map Delivery.call ++ [step.call])

/-- Filling ends as the source decides. -/
theorem Converter.Fills.fillFrom {converter : Converter α} {result : Except Error Unit} {last : σ}
    {calls : List Call} (h : converter.Fills source state deliveries result last calls)
    (subject : α) :
    converter.fillFrom source subject state =
      (result, Delivery.storeAll deliveries subject, last) := by
  unfold Converter.fillFrom
  cases h with
  | whole plan delivers taken =>
    have hrun := delivers.runAll taken [] subject
    rwa [List.append_nil, ← plan] at hrun
  | broken plan delivers taken fails => rw [plan, delivers.runAll taken, fails.runAll]

/-- A recorded source decides as the source itself, and has the calls in its record. -/
theorem Converter.Fills.recorded {converter : Converter α} {result : Except Error Unit} {last : σ}
    {calls : List Call} (h : converter.Fills source state deliveries result last calls) :
    converter.Fills source.recorded ⟨state, [], []⟩ deliveries result ⟨last, [], calls⟩ calls := by
  cases h with
  | whole plan delivers taken => exact .whole plan (delivers.recorded []) taken
  | broken plan delivers taken fails =>
    exact .broken plan (delivers.recorded []) taken (fails.recorded _)

section Parcel

end Parcel

end PropertyBinding
