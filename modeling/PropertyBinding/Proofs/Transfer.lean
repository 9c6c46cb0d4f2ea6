import PropertyBinding.Proofs.Realization

/-! # Data that travel through entries

Members of all value types are read and written alike through their `Datum`: the data of a
scalar, or a value.  A datum travels through entries as a value and comes back
(`Datum.ofValue_toValue`).  An extraction leaves the datum of every step under its property
(`ExtractStep.runAll_entries`).  Filling from there writes one datum after the other; if the
handles read back what was written and the writes spare each other, every member then
reads what was stored (`Pair.runAll_entries`).
-/
namespace PropertyBinding

variable {α : Type}

/-! ## Data of members -/

/-- What a member of a type is read as and written with. -/
abbrev Datum : ValueType → Type
  | .scalar s => s.Carrier
  | .value => Value
  | .object _ => Value

namespace Datum

/-- The value as which a datum travels. -/
def toValue : {type : ValueType} → Datum type → Value
  | .scalar s, data => s.widen data
  | .value, value => value
  | .object _, value => value

/-- The datum that the value of a property stands for. -/
def ofValue : (type : ValueType) → (property : String) → Value → Except Error (Datum type)
  | .scalar s, property, value => s.narrow property value
  | .value, _, value => .ok value
  | .object _, _, value => .ok value

/-- A datum comes back from its value; for a single-precision float this is asked for. -/
theorem ofValue_toValue {type : ValueType} {property : String}
    (h : type = .scalar .f32 → ∀ x, Scalar.f32.narrow property (Scalar.f32.widen x) = .ok x)
    (data : Datum type) : ofValue type property data.toValue = .ok data := by
  cases type with
  | value => rfl
  | object _ => rfl
  | scalar s =>
    by_cases hs : s = .f32
    · subst hs
      exact h rfl data
    · exact s.narrow_widen property data hs

end Datum

/-- Read a member of an instance. -/
def readAt : (type : ValueType) → ReadHandle α type → α → Except Error (Datum type)
  | .scalar _, read, subject => .ok (read subject)
  | .value, read, subject => .ok (read subject)
  | .object _, read, subject => read subject

/-- Write a member of an instance. -/
def writeAt : (type : ValueType) → WriteHandle α type → α → Datum type → Except Error Unit × α
  | .scalar _, write, subject, data => (.ok (), write subject data)
  | .value, write, subject, value => (.ok (), write subject value)
  | .object _, write, subject, value => write subject value

/-- Read a property by the access of a type. -/
def Source.fetch {σ : Type} (source : Source σ) :
    (type : ValueType) → (property : String) → σ → Except Error (Datum type) × σ
  | .scalar s, property, state => source.read s property state
  | .value, property, state => source.readValue property state
  | .object _, property, state => source.readValue property state

/-- A write passes exactly if its property is read and the member takes what was read. -/
theorem FillStep.run_eq_ok_iff {σ : Type} {step : FillStep α} {source : Source σ}
    {subject after : α} {state left : σ} :
    step.run source subject state = (.ok (), after, left) ↔
      ∃ data, source.fetch step.type step.property state = (.ok data, left) ∧
        writeAt step.type step.write subject data = (.ok (), after) := by
  obtain ⟨property, type, write⟩ := step
  cases type with
  | scalar s =>
    simp only [run, Source.fetch, writeAt]
    cases hr : source.read s property state with
    | mk result next => cases result <;> simp [and_comm]
  | value =>
    simp only [run, Source.fetch, writeAt]
    cases hr : source.readValue property state with
    | mk result next => cases result <;> simp [and_comm]
  | object typeName =>
    simp only [run, Source.fetch, writeAt]
    cases hr : source.readValue property state with
    | mk result next =>
      cases result with
      | error error => simp
      | ok value =>
        -- a refusal is put into other words, and so stays one
        simp only [Prod.mk.injEq, mapError_eq_ok_iff]
        constructor
        · rintro ⟨hwrite, hafter, hleft⟩
          exact ⟨value, ⟨rfl, hleft⟩, Prod.ext hwrite hafter⟩
        · rintro ⟨data, ⟨hdata, hleft⟩, hwrite⟩
          cases hdata
          rw [hwrite]
          exact ⟨rfl, rfl, hleft⟩

/-- A run passes exactly if the first step does and then the others. -/
theorem FillStep.runAll_cons_eq_ok_iff {σ : Type} {step : FillStep α} {rest : List (FillStep α)}
    {source : Source σ} {subject after : α} {state left : σ} :
    runAll source (step :: rest) subject state = (.ok (), after, left) ↔
      ∃ next between, step.run source subject state = (.ok (), next, between) ∧
        runAll source rest next between = (.ok (), after, left) := by
  rw [runAll_cons]
  cases hrun : step.run source subject state with
  | mk result carried =>
    obtain ⟨next, between⟩ := carried
    cases result <;> simp [and_assoc]

/-- What is read on some instance can be written to every other, and is then read there. -/
def Lawful (type : ValueType) (read : ReadHandle α type) (write : WriteHandle α type) : Prop :=
  ∀ a data, readAt type read a = .ok data →
    ∀ b, ∃ after, writeAt type write b data = (.ok (), after) ∧ readAt type read after = .ok data

/-- A write does not change what a handle reads. -/
def Spares (type other : ValueType) (write : WriteHandle α type) (read : ReadHandle α other) :
    Prop :=
  ∀ b data, readAt other read (writeAt type write b data).2 = readAt other read b

/-- An opaque member is lawful if its codec reads back what it wrote, and its data are where
they were put. -/
theorem Codec.lawful {β : Type} {codec : Codec β} {get : α → β} {set : α → β → α}
    (hcodec : ∀ data value, codec.toValue data = .ok value → codec.ofValue value = .ok data)
    (hset : ∀ a data, get (set a data) = data) (typeName : String) :
    Lawful (.object typeName) (codec.reader get) (codec.writer set) := by
  intro a value ha b
  have hback : codec.ofValue value = .ok (get a) := hcodec (get a) value ha
  refine ⟨set b (get a), ?_, ?_⟩
  · show codec.writer set b value = _
    unfold Codec.writer
    rw [hback]
  · show codec.toValue (get (set b (get a))) = .ok value
    rw [hset]
    exact ha

/-- An opaque member spares what its data have no part in. -/
theorem Codec.spares {β : Type} {codec : Codec β} {set : α → β → α} {other : ValueType}
    {read : ReadHandle α other}
    (h : ∀ a data, readAt other read (set a data) = readAt other read a) (typeName : String) :
    Spares (.object typeName) other (codec.writer set) read := by
  intro b value
  show readAt other read (codec.writer set b value).2 = readAt other read b
  unfold Codec.writer
  cases codec.ofValue value with
  | error error => rfl
  | ok data => exact h b data

/-! ## Steps over entries -/

theorem ExtractStep.run_entries (step : ExtractStep α) (subject : α)
    (held : List (String × Value)) :
    step.run Sink.entries subject held =
      match readAt step.type step.read subject with
      | .ok data => (.ok (), Entries.insert held step.property data.toValue)
      | .error error => (.error error, held) := by
  obtain ⟨property, type, read⟩ := step
  cases type with
  | scalar s => rfl
  | value => rfl
  | object typeName =>
    simp only [run, readAt]
    cases read subject with
    | ok value => rfl
    | error error => rfl

/-- What is read from entries is what the value under the property stands for. -/
theorem Source.fetch_entries (type : ValueType) (property : String)
    (held : List (String × Value)) :
    Source.entries.fetch type property held =
      (Datum.ofValue type property ((Entries.get? held property).getD .null), held) := by
  cases type <;> rfl

theorem FillStep.run_entries {step : FillStep α} {subject after : α}
    {held : List (String × Value)} {value : Value} {data : Datum step.type}
    (hg : Entries.get? held step.property = some value)
    (hd : Datum.ofValue step.type step.property value = .ok data)
    (hw : writeAt step.type step.write subject data = (.ok (), after)) :
    step.run Source.entries subject held = (.ok (), after, held) := by
  refine run_eq_ok_iff.mpr ⟨data, ?_, hw⟩
  rw [Source.fetch_entries, hg, Option.getD_some, hd]

/-- An extraction leaves the datum of every step under the property of the step. -/
theorem ExtractStep.runAll_entries {steps : List (ExtractStep α)} {subject : α}
    {held entries : List (String × Value)}
    (h : runAll Sink.entries subject steps held = (.ok (), entries))
    (hd : (steps.map property).Nodup) :
    (∀ step ∈ steps, ∃ data, readAt step.type step.read subject = .ok data ∧
      Entries.get? entries step.property = some data.toValue) ∧
    ∀ p, p ∉ steps.map property → Entries.get? entries p = Entries.get? held p := by
  induction steps generalizing held with
  | nil =>
    cases h
    exact ⟨fun _ hs => (nomatch hs), fun _ _ => rfl⟩
  | cons first rest ih =>
    obtain ⟨hfirst, hrest⟩ := List.nodup_cons.mp hd
    rw [runAll_cons, run_entries] at h
    cases hread : readAt first.type first.read subject with
    | error error =>
      rw [hread] at h
      cases h
    | ok data =>
      rw [hread] at h
      obtain ⟨hdata, hother⟩ := ih h hrest
      constructor
      · intro step hs
        rcases List.mem_cons.mp hs with rfl | hs
        · refine ⟨data, hread, ?_⟩
          -- no later step has this property, so its entry stays
          rw [hother _ hfirst, Entries.get?_insert_self]
        · exact hdata step hs
      · intro p hp
        obtain ⟨hne, hp⟩ := not_or.mp (fun hmem => hp (List.mem_cons.mpr hmem))
        rw [hother p hp, Entries.get?_insert_of_ne held data.toValue hne]

/-! ## Filling back -/

/-- A property that is extracted by one handle and filled by another. -/
structure Pair (α : Type) where
  property : String
  type : ValueType
  read : ReadHandle α type
  write : WriteHandle α type

namespace Pair

def extract (pair : Pair α) : ExtractStep α :=
  ⟨pair.property, pair.type, pair.read⟩

def fill (pair : Pair α) : FillStep α :=
  ⟨pair.property, pair.type, pair.write⟩

/-- What the pair reads on an instance. -/
def datum (pair : Pair α) (subject : α) : Except Error (Datum pair.type) :=
  readAt pair.type pair.read subject

/-- The entries hold what the pair reads on an instance, in a form that can be read back. -/
def Stored (pair : Pair α) (subject : α) (entries : List (String × Value)) : Prop :=
  ∃ data value, pair.datum subject = .ok data ∧
    Entries.get? entries pair.property = some value ∧
    Datum.ofValue pair.type pair.property value = .ok data

/-- Filling from what was stored gives every pair its datum, and every handle that all the
writes spare reads as before. -/
theorem runAll_entries {pairs : List (Pair α)} {a : α} {entries : List (String × Value)}
    (hlawful : ∀ pair ∈ pairs, Lawful pair.type pair.read pair.write)
    (hapart : pairs.Pairwise fun first later => Spares later.type first.type later.write first.read)
    (hstored : ∀ pair ∈ pairs, pair.Stored a entries) (b : α) :
    ∃ after, FillStep.runAll Source.entries (pairs.map fill) b entries = (.ok (), after, entries) ∧
      (∀ pair ∈ pairs, pair.datum after = pair.datum a) ∧
      ∀ other : Pair α, (∀ pair ∈ pairs, Spares pair.type other.type pair.write other.read) →
        other.datum after = other.datum b := by
  induction pairs generalizing b with
  | nil => exact ⟨b, rfl, fun _ hp => (nomatch hp), fun _ _ => rfl⟩
  | cons first rest ih =>
    obtain ⟨hfirst, hrest⟩ := List.pairwise_cons.mp hapart
    -- the first write puts the stored datum back, and the rest goes on from there
    obtain ⟨data, value, hdata, hget, hback⟩ := hstored first List.mem_cons_self
    obtain ⟨written, hwrite, hread⟩ := hlawful first List.mem_cons_self a data hdata b
    have hstep : first.fill.run Source.entries b entries = (.ok (), written, entries) :=
      FillStep.run_entries hget hback hwrite
    obtain ⟨after, hrun, hsame, hspared⟩ :=
      ih (fun pair hp => hlawful pair (List.mem_cons_of_mem _ hp)) hrest
        (fun pair hp => hstored pair (List.mem_cons_of_mem _ hp)) written
    refine ⟨after, ?_, ?_, ?_⟩
    · rw [List.map_cons, FillStep.runAll_cons, hstep]
      exact hrun
    · intro pair hp
      rcases List.mem_cons.mp hp with rfl | hp
      · -- the later writes spare what was read back right after its own
        rw [hspared pair hfirst, hdata]
        exact hread
      · exact hsame pair hp
    · intro other hother
      rw [hspared other fun pair hp => hother pair (List.mem_cons_of_mem _ hp)]
      have hwritten := hother first List.mem_cons_self b data
      rw [hwrite] at hwritten
      exact hwritten

end Pair
end PropertyBinding
