import PropertyBinding.Codec.Standard
import PropertyBinding.Proofs.Acceptance
import PropertyBinding.Proofs.Transfer
import PropertyBinding.Store.Recorded

/-! # How far extraction gets

Extraction goes through its plan step by step: the member is read, and what it reads as is
written to the sink (`Converter.Extracts`).  The sink takes the readings of a prefix of the
plan (`Sink.Takes`); the next step, if there is one, fails (`ExtractStep.Fails`), either because
an opaque member has no value, and then nothing is written for it, or because the sink refuses
what is written.

Entries refuse nothing.  There the prefix overrides what was held, and of several steps with
one property the last one counts (`Entries.Overridden`).
-/
namespace PropertyBinding

variable {α σ : Type}

/-! ## Entries that are overridden -/

namespace Entries

variable {β : Type}

/-- Entries are those that were held, with pairs put in one after the other: under the key of
pairs stands what the last of them has, and nothing else has changed. -/
structure Overridden (pairs held left : List (String × β)) : Prop where
  last : ∀ before pair after, pairs = before ++ pair :: after →
    (∀ later ∈ after, pair.1 ≠ later.1) → get? left pair.1 = some pair.2
  other : ∀ key, (∀ pair ∈ pairs, key ≠ pair.1) → get? left key = get? held key
  keys : ∀ key, key ∈ Entries.keys left ↔ key ∈ pairs.map Prod.fst ∨ key ∈ Entries.keys held
  sorted : Sorted held → Sorted left

theorem overridden_foldl (pairs held : List (String × β)) :
    Overridden pairs held
      (pairs.foldl (fun entries pair => insert entries pair.1 pair.2) held) where
  last := by
    rintro before pair after rfl hlast
    rw [List.foldl_append, List.foldl_cons, get?_foldl_of_not_mem hlast, get?_insert_self]
  other key h := get?_foldl_of_not_mem h held
  keys key := mem_keys_foldl
  sorted h := sorted_foldl h pairs

end Entries

/-! ## Plans and their members -/

/-- A read is the one that a step plans: under the property of the step, of the member that
the step names, and of the type with which this member is declared. -/
structure Descriptor.PlansRead (descriptor : Descriptor α) (step : Step) (access : ExtractStep α) :
    Prop where
  property : access.property = step.property
  member : ∃ member, descriptor.members[step.index]? = some member ∧
    member.info.name = step.member ∧ member.info.type = access.type ∧
    ∃ write, member.slot = ⟨access.type, some access.read, write⟩

theorem Descriptor.plansRead_of_extractStep {descriptor : Descriptor α} {artifact : Artifact}
    {step : Step} {access : ExtractStep α} (h : descriptor.extractStep artifact step = .ok access) :
    descriptor.PlansRead step access := by
  obtain ⟨⟨info, type, read', write⟩, hfits, read, hread, rfl⟩ :=
    descriptor.extractStep_eq_ok_iff.mp h
  exact ⟨rfl, _, hfits.found, hfits.name, hfits.type.trans hfits.slot_type.symm, write,
    congrArg (Slot.mk type · write) hread⟩

/-! ## Readings -/

/-- Write a datum by the access of its type. -/
def Sink.put (sink : Sink σ) :
    (type : ValueType) → (property : String) → Datum type → σ → Except Error Unit × σ
  | .scalar s, property, data, state => sink.write s property data state
  | .value, property, value, state => sink.writeValue property value state
  | .object _, property, value, state => sink.writeValue property value state

/-- A step and what its member reads as. -/
structure Reading (α : Type) where
  step : ExtractStep α
  data : Datum step.type

namespace Reading

/-- The member reads so on an instance. -/
def Of (reading : Reading α) (subject : α) : Prop :=
  readAt reading.step.type reading.step.read subject = .ok reading.data

/-- The entry that the reading becomes. -/
def entry (reading : Reading α) : String × Value :=
  (reading.step.property, reading.data.toValue)

/-- The call by which a reading is written. -/
def call : Reading α → Call
  | ⟨⟨property, .scalar s, _⟩, data⟩ => .write s property data
  | ⟨⟨property, .value, _⟩, value⟩ => .writeValue property value
  | ⟨⟨property, .object _, _⟩, value⟩ => .writeValue property value

end Reading

/-- A sink takes one write after the other, each in the state that the one before has left. -/
inductive Sink.Takes (sink : Sink σ) : List (Reading α) → σ → σ → Prop
  | nil (state : σ) : Takes sink [] state state
  | cons {reading : Reading α} {rest : List (Reading α)} {state next left : σ}
      (taken : sink.put reading.step.type reading.step.property reading.data state = (.ok (), next))
      (others : Takes sink rest next left) : Takes sink (reading :: rest) state left

namespace ExtractStep

/-- A step fails with an error, and with these calls of the sink. -/
inductive Fails (sink : Sink σ) (subject : α) :
    ExtractStep α → σ → List Call → Error → σ → Prop
  /-- An opaque member has no value, and the sink is not called. -/
  | unread {property typeName : String} {read : ReadHandle α (.object typeName)} {state : σ}
      {error : Error} (failed : read subject = .error error) :
      Fails sink subject ⟨property, .object typeName, read⟩ state [] error state
  /-- The sink refuses what the member reads as. -/
  | refused {reading : Reading α} {state left : σ} {error : Error} (read : reading.Of subject)
      (refusal : sink.put reading.step.type reading.step.property reading.data state =
        (.error error, left)) :
      Fails sink subject reading.step state [reading.call] error left

variable {sink : Sink σ} {subject : α} {step : ExtractStep α} {state left : σ} {error : Error}
  {calls : List Call}

/-- A reading is written as it is. -/
theorem run_reading {reading : Reading α} (h : reading.Of subject) (sink : Sink σ) (state : σ) :
    reading.step.run sink subject state =
      sink.put reading.step.type reading.step.property reading.data state := by
  obtain ⟨⟨property, type, read⟩, data⟩ := reading
  cases type with
  | scalar s =>
    cases h
    rfl
  | value =>
    cases h
    rfl
  | object typeName =>
    have hread : read subject = .ok data := h
    simp only [run, hread]
    rfl

theorem Fails.run (h : step.Fails sink subject state calls error left) :
    step.run sink subject state = (.error error, left) := by
  cases h with
  | unread failed => simp only [ExtractStep.run, failed]
  | refused read refusal => rw [run_reading read, refusal]

/-- The sink takes what the member of a step reads as, or the step fails. -/
theorem taken_or_fails (step : ExtractStep α) (sink : Sink σ) (subject : α) (state : σ) :
    (∃ (data : Datum step.type) (left : σ), Reading.Of ⟨step, data⟩ subject ∧
        sink.put step.type step.property data state = (.ok (), left)) ∨
      ∃ calls error left, step.Fails sink subject state calls error left := by
  cases hread : readAt step.type step.read subject with
  | ok data =>
    have hof : Reading.Of ⟨step, data⟩ subject := hread
    cases hput : sink.put step.type step.property data state with
    | mk result left =>
      cases result with
      | ok _ => exact .inl ⟨data, left, hof, hput⟩
      | error error => exact .inr ⟨_, error, left, .refused hof hput⟩
  | error error =>
    obtain ⟨property, type, read⟩ := step
    cases type with
    | scalar s => cases hread
    | value => cases hread
    | object typeName => exact .inr ⟨[], error, state, .unread hread⟩

end ExtractStep

/-! ## Runs -/

variable {sink : Sink σ} {readings : List (Reading α)} {subject : α} {state left : σ}

/-- The longest prefix of a plan whose readings a sink takes, and the failure of the step
behind it. -/
theorem exists_readings (steps : List (ExtractStep α)) (sink : Sink σ) (subject : α) (state : σ) :
    ∃ readings later left, steps = readings.map Reading.step ++ later ∧
      (∀ reading ∈ readings, reading.Of subject) ∧ sink.Takes readings state left ∧
      (later = [] ∨ ∃ step rest calls error last, later = step :: rest ∧
        step.Fails sink subject left calls error last) := by
  induction steps generalizing state with
  | nil => exact ⟨[], [], state, rfl, fun _ h => (nomatch h), .nil state, .inl rfl⟩
  | cons step rest ih =>
    rcases step.taken_or_fails sink subject state with
      ⟨data, next, hread, htaken⟩ | ⟨calls, error, last, hfails⟩
    · obtain ⟨readings, later, left, hsteps, hreadings, htakes, hend⟩ := ih next
      refine ⟨⟨step, data⟩ :: readings, later, left, ?_,
        List.forall_mem_cons.mpr ⟨hread, hreadings⟩, .cons htaken htakes, hend⟩
      rw [List.map_cons, List.cons_append, ← hsteps]
    · exact ⟨[], step :: rest, state, rfl, fun _ h => (nomatch h), .nil state,
        .inr ⟨step, rest, calls, error, last, rfl, hfails⟩⟩

/-- A run writes what the sink takes, and then goes on with the steps behind. -/
theorem Sink.Takes.runAll (h : sink.Takes readings state left)
    (hreadings : ∀ reading ∈ readings, reading.Of subject) (later : List (ExtractStep α)) :
    ExtractStep.runAll sink subject (readings.map Reading.step ++ later) state =
      ExtractStep.runAll sink subject later left := by
  induction h with
  | nil => rfl
  | cons taken _ ih =>
    obtain ⟨hfirst, hrest⟩ := List.forall_mem_cons.mp hreadings
    rw [List.map_cons, List.cons_append, ExtractStep.runAll_cons, ExtractStep.run_reading hfirst,
      taken]
    exact ih hrest

theorem ExtractStep.Fails.runAll {step : ExtractStep α} {calls : List Call} {error : Error}
    (h : step.Fails sink subject state calls error left) (rest : List (ExtractStep α)) :
    ExtractStep.runAll sink subject (step :: rest) state = (.error error, left) := by
  rw [ExtractStep.runAll_cons, h.run]

/-! ## Recorded writes -/

/-- A recorded sink takes what the sink itself takes, and notes the call. -/
theorem Sink.put_recorded (sink : Sink σ) (reading : Reading α) (state : σ) (calls : List Call) :
    sink.recorded.put reading.step.type reading.step.property reading.data ⟨state, [], calls⟩ =
      ((sink.put reading.step.type reading.step.property reading.data state).1,
        ⟨(sink.put reading.step.type reading.step.property reading.data state).2, [],
          calls ++ [reading.call]⟩) := by
  obtain ⟨⟨property, type, read⟩, data⟩ := reading
  cases type <;> rfl

theorem Sink.Takes.recorded (h : sink.Takes readings state left) (calls : List Call) :
    sink.recorded.Takes readings ⟨state, [], calls⟩
      ⟨left, [], calls ++ readings.map Reading.call⟩ := by
  induction h generalizing calls with
  | nil state =>
    rw [List.map_nil, List.append_nil]
    exact .nil _
  | cons taken _ ih =>
    rw [List.map_cons, List.append_cons]
    refine .cons ?_ (ih _)
    rw [Sink.put_recorded, taken]

theorem ExtractStep.Fails.recorded {step : ExtractStep α} {made : List Call} {error : Error}
    (h : step.Fails sink subject state made error left) (calls : List Call) :
    step.Fails sink.recorded subject ⟨state, [], calls⟩ made error ⟨left, [], calls ++ made⟩ := by
  cases h with
  | unread failed =>
    rw [List.append_nil]
    exact .unread failed
  | refused read refusal =>
    refine .refused read ?_
    rw [Sink.put_recorded, refusal]

/-! ## Extraction to entries -/

theorem Sink.put_entries (reading : Reading α) (held : List (String × Value)) :
    Sink.entries.put reading.step.type reading.step.property reading.data held =
      (.ok (), Entries.insert held reading.entry.1 reading.entry.2) := by
  obtain ⟨⟨property, type, read⟩, data⟩ := reading
  cases type <;> rfl

/-- The entries of the readings override those that were held. -/
theorem Sink.Takes.overridden {held entries : List (String × Value)}
    (h : Sink.entries.Takes readings held entries) :
    Entries.Overridden (readings.map Reading.entry) held entries := by
  have hfold : entries = (readings.map Reading.entry).foldl
      (fun entries pair => Entries.insert entries pair.1 pair.2) held := by
    induction h with
    | nil => rfl
    | cons taken _ ih =>
      rw [Sink.put_entries] at taken
      cases taken
      exact ih
  rw [hfold]
  exact Entries.overridden_foldl _ held

/-- Entries refuse nothing, so that only an opaque member can fail. -/
theorem ExtractStep.Fails.of_entries {step : ExtractStep α} {held entries : List (String × Value)}
    {calls : List Call} {error : Error}
    (h : step.Fails Sink.entries subject held calls error entries) :
    entries = held ∧ readAt step.type step.read subject = .error error := by
  cases h with
  | unread failed => exact ⟨rfl, failed⟩
  | refused read refusal =>
    rw [Sink.put_entries] at refusal
    cases refusal

/-! ## The main statement -/

/-- What a sink does to the plan of a converter for an instance: the readings that it takes,
the result, the state that it is left in, and the calls that it sees. -/
inductive Converter.Extracts (converter : Converter α) (sink : Sink σ) (subject : α) (state : σ) :
    List (Reading α) → Except Error Unit → σ → List Call → Prop
  /-- The whole plan is read and taken. -/
  | whole {readings : List (Reading α)} {left : σ}
      (plan : converter.extract = readings.map Reading.step)
      (read : ∀ reading ∈ readings, reading.Of subject)
      (takes : sink.Takes readings state left) :
      Extracts converter sink subject state readings (.ok ()) left (readings.map Reading.call)
  /-- The step behind a prefix of the plan fails. -/
  | broken {readings : List (Reading α)} {step : ExtractStep α} {later : List (ExtractStep α)}
      {left last : σ} {calls : List Call} {error : Error}
      (plan : converter.extract = readings.map Reading.step ++ step :: later)
      (read : ∀ reading ∈ readings, reading.Of subject)
      (takes : sink.Takes readings state left)
      (fails : step.Fails sink subject left calls error last) :
      Extracts converter sink subject state readings (.error error) last
        (readings.map Reading.call ++ calls)

namespace Converter

variable {converter : Converter α} {result : Except Error Unit} {calls : List Call}

theorem exists_extracts (converter : Converter α) (sink : Sink σ) (subject : α) (state : σ) :
    ∃ readings result last calls,
      converter.Extracts sink subject state readings result last calls := by
  obtain ⟨readings, later, left, hplan, hread, htakes, hend⟩ :=
    exists_readings converter.extract sink subject state
  rcases hend with rfl | ⟨step, rest, calls, error, last, rfl, hfails⟩
  · rw [List.append_nil] at hplan
    exact ⟨_, _, _, _, .whole hplan hread htakes⟩
  · exact ⟨_, _, _, _, .broken hplan hread htakes hfails⟩

/-- Extraction ends as the sink decides. -/
theorem Extracts.extractTo (h : converter.Extracts sink subject state readings result left calls) :
    converter.extractTo sink subject state = (result, left) := by
  unfold Converter.extractTo
  cases h with
  | whole plan read takes =>
    have hrun := takes.runAll read []
    rwa [List.append_nil, ← plan] at hrun
  | broken plan read takes fails => rw [plan, takes.runAll read, fails.runAll]

/-- A recorded sink decides as the sink itself, and has the calls in its record. -/
theorem Extracts.recorded (h : converter.Extracts sink subject state readings result left calls) :
    converter.Extracts sink.recorded subject ⟨state, [], []⟩ readings result ⟨left, [], calls⟩
      calls := by
  cases h with
  | whole plan read takes => exact .whole plan read (takes.recorded [])
  | broken plan read takes fails =>
    exact .broken plan read (takes.recorded []) (fails.recorded _)

/-- The readings override what was held, and only an opaque member ends an extraction to
entries early. -/
theorem Extracts.overridden {held entries : List (String × Value)}
    (h : converter.Extracts Sink.entries subject held readings result entries calls) :
    Entries.Overridden (readings.map Reading.entry) held entries ∧
      ((result = .ok () ∧ converter.extract = readings.map Reading.step) ∨
        ∃ step later error, converter.extract = readings.map Reading.step ++ step :: later ∧
          readAt step.type step.read subject = .error error ∧ result = .error error) := by
  cases h with
  | whole plan read takes => exact ⟨takes.overridden, .inl ⟨rfl, plan⟩⟩
  | broken plan read takes fails =>
    obtain ⟨rfl, hunread⟩ := fails.of_entries
    exact ⟨takes.overridden, .inr ⟨_, _, _, plan, hunread, rfl⟩⟩

/-- The readings of an extraction are those of the instance. -/
theorem Extracts.read (h : converter.Extracts sink subject state readings result left calls) :
    ∀ reading ∈ readings, reading.Of subject := by
  cases h with
  | whole plan read takes => exact read
  | broken plan read takes fails => exact read

end Converter

namespace Descriptor

variable {descriptor : Descriptor α} {artifact : Artifact} {converter : Converter α}

theorem plansRead_of_realize (hr : descriptor.realize artifact = .ok converter) :
    List.Forall₂ descriptor.PlansRead artifact.extract converter.extract := by
  obtain ⟨-, -, -, hextract, -⟩ := descriptor.realize_eq_ok_iff.mp hr
  exact hextract.imp fun _ _ => plansRead_of_extractStep

/-- The extracted properties are those of the prepared reads. -/
theorem extractProperties_of_realize (hr : descriptor.realize artifact = .ok converter) :
    converter.extractProperties = converter.extract.map ExtractStep.property := by
  unfold Converter.extractProperties
  rw [artifact_of_realize hr]
  exact map_eq_map_of_forall₂ ((plansRead_of_realize hr).imp fun _ _ h => h.property.symm)

/-- The entries of an instance are there exactly if all its members can be read, and then
have the properties of the extraction as their keys, in order. -/
theorem toEntries_of_realize (hr : descriptor.realize artifact = .ok converter) (subject : α) :
    ((∃ entries, converter.toEntries subject = .ok entries) ↔
      ∀ access ∈ converter.extract, ∃ data, readAt access.type access.read subject = .ok data) ∧
    ∀ entries, converter.toEntries subject = .ok entries → Entries.Sorted entries ∧
      ∀ key, key ∈ Entries.keys entries ↔ key ∈ converter.extractProperties := by
  obtain ⟨readings, result, entries, calls, hextracts⟩ :=
    converter.exists_extracts Sink.entries subject []
  obtain ⟨hoverridden, hend⟩ := hextracts.overridden
  unfold Converter.toEntries
  rw [hextracts.extractTo]
  rcases hend with ⟨rfl, hplan⟩ | ⟨step, later, error, hplan, hunread, rfl⟩
  · refine ⟨iff_of_true ⟨entries, rfl⟩ ?_, ?_⟩
    · rw [hplan]
      exact List.forall_mem_map.mpr fun reading hmem =>
        ⟨reading.data, hextracts.read reading hmem⟩
    · rintro _ ⟨⟩
      refine ⟨hoverridden.sorted List.Pairwise.nil, fun key => ?_⟩
      rw [hoverridden.keys, extractProperties_of_realize hr, hplan, List.map_map, List.map_map]
      exact or_iff_left List.not_mem_nil
  · refine ⟨iff_of_false ?_ ?_, ?_⟩
    · rintro ⟨_, ⟨⟩⟩
    · intro hall
      obtain ⟨data, hread⟩ := hall step (hplan ▸ List.mem_append_right _ List.mem_cons_self)
      rw [hunread] at hread
      cases hread
    · rintro _ ⟨⟩

end Descriptor

/-- **Extraction writes its plan, and the last write of a property counts.**  A converter that
is realized has one read for each planned step.  Of these a prefix is read on the instance and
taken by the sink, write by write.  If this is the whole plan, extraction passes.  Otherwise
the step behind it fails: either its opaque member has no value, and the sink is not called
for it, or the sink refuses it; its error is that of extraction, and no later step calls the
sink.  Held entries are overridden by what was read, and only an opaque member ends that early.
The entries of an instance have exactly the extracted properties. -/
theorem extract_writes_plan (descriptor : Descriptor α) (artifact : Artifact)
    (converter : Converter α) (hr : descriptor.realize artifact = .ok converter) :
    List.Forall₂ descriptor.PlansRead artifact.extract converter.extract ∧
    (∀ (σ : Type) (sink : Sink σ) (subject : α) (state : σ), ∃ readings result last calls,
      converter.Extracts sink subject state readings result last calls ∧
        converter.extractTo sink subject state = (result, last) ∧
        converter.extractTo sink.recorded subject ⟨state, [], []⟩ = (result, ⟨last, [], calls⟩)) ∧
    (∀ (subject : α) (held : List (String × Value)),
      ∃ (readings : List (Reading α)) (result : Except Error Unit)
        (entries : List (String × Value)),
        converter.extractTo Sink.entries subject held = (result, entries) ∧
        (∀ reading ∈ readings, reading.Of subject) ∧
        Entries.Overridden (readings.map Reading.entry) held entries ∧
        ((result = .ok () ∧ converter.extract = readings.map Reading.step) ∨
          ∃ step later error, converter.extract = readings.map Reading.step ++ step :: later ∧
            readAt step.type step.read subject = .error error ∧ result = .error error)) ∧
    ∀ subject,
      ((∃ entries, converter.toEntries subject = .ok entries) ↔
        ∀ access ∈ converter.extract, ∃ data, readAt access.type access.read subject = .ok data) ∧
      ∀ entries, converter.toEntries subject = .ok entries → Entries.Sorted entries ∧
        ∀ key, key ∈ Entries.keys entries ↔ key ∈ converter.extractProperties := by
  refine ⟨Descriptor.plansRead_of_realize hr, fun σ sink subject state => ?_,
    fun subject held => ?_, Descriptor.toEntries_of_realize hr⟩
  · obtain ⟨readings, result, last, calls, h⟩ := converter.exists_extracts sink subject state
    exact ⟨readings, result, last, calls, h, h.extractTo, h.recorded.extractTo⟩
  · obtain ⟨readings, result, entries, calls, h⟩ :=
      converter.exists_extracts Sink.entries subject held
    exact ⟨readings, result, entries, h.extractTo, h.read, h.overridden⟩

section Shelf

/-- Instances of two numbers and a text. -/
abbrev Shelf : Type := Int32 × Int32 × String

/-- Texts, of which the empty one has no tree. -/
def Codec.nonempty : Codec String where
  encode s := if s = "" then .error "no text" else .ok (.string s)
  decode := text.decode

/-- Two numbers, and an opaque field between them. -/
def shelf : Descriptor Shelf where
  typePath := "Shelf"
  typeName := "Shelf"
  members := [
    .field "row" (.scalar .i32) (fun a => a.1) fun a n => (n, a.2),
    .field "note" (.object "Note") (Codec.nonempty.reader fun a => a.2.2)
      (Codec.nonempty.writer fun a note => (a.1, a.2.1, note)),
    .field "column" (.scalar .i32) (fun a => a.2.1) fun a n => (a.1, n, a.2.2)]

/-- Both numbers are extracted under one property. -/
def shelfArtifact : Artifact where
  name := "ShelfBean"
  typePath := "Shelf"
  resolver := "default"
  constructor := none
  fill := []
  extract := [
    ⟨0, "place", "row", .field, .scalar .i32, false⟩,
    ⟨1, "note", "note", .field, .object "Note", false⟩,
    ⟨2, "place", "column", .field, .scalar .i32, false⟩]

/-- Of the numbers of a shelf the column stays, unless the note between them has no tree: then
the row does. -/
theorem extract_writes_plan_shelf :
    ∃ converter, shelf.realize shelfArtifact = .ok converter ∧
      (∃ readings : List (Reading Shelf), converter.extract = readings.map Reading.step ∧
        Entries.Overridden (readings.map Reading.entry)
          [("place", .null), ("zip", .integer 9)]
          [("note", .string "new"), ("place", .integer 2), ("zip", .integer 9)]) ∧
      ∃ (readings : List (Reading Shelf)) (step : ExtractStep Shelf)
        (later : List (ExtractStep Shelf)),
        converter.extract = readings.map Reading.step ++ step :: later ∧
        readAt step.type step.read (1, 2, "") = .error (.encode "no text") ∧
        Entries.Overridden (readings.map Reading.entry)
          [("place", .null), ("zip", .integer 9)] [("place", .integer 1), ("zip", .integer 9)] := by
  refine ⟨_, rfl, ?_⟩
  obtain ⟨-, -, hentries, -⟩ := extract_writes_plan shelf shelfArtifact _ rfl
  constructor
  · obtain ⟨readings, result, entries, hrun, -, hoverridden, hend⟩ :=
      hentries (1, 2, "new") [("place", .null), ("zip", .integer 9)]
    obtain rfl : _ = entries := congrArg Prod.snd hrun
    rcases hend with ⟨-, hplan⟩ | ⟨step, later, error, -, -, hresult⟩
    · exact ⟨readings, hplan, hoverridden⟩
    · cases (congrArg Prod.fst hrun).trans hresult
  · obtain ⟨readings, result, entries, hrun, -, hoverridden, hend⟩ :=
      hentries (1, 2, "") [("place", .null), ("zip", .integer 9)]
    obtain rfl : _ = entries := congrArg Prod.snd hrun
    rcases hend with ⟨hresult, -⟩ | ⟨step, later, error, hplan, hunread, hresult⟩
    · cases (congrArg Prod.fst hrun).trans hresult
    · obtain rfl : _ = error := Except.error.inj ((congrArg Prod.fst hrun).trans hresult)
      exact ⟨readings, step, later, hplan, hunread, hoverridden⟩

end Shelf

end PropertyBinding
