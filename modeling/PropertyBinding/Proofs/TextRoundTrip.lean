import PropertyBinding.JsonText
import PropertyBinding.Proofs.ParsedText
import PropertyBinding.Proofs.RoundTrip
import PropertyBinding.Proofs.Transparency
import PropertyBinding.Proofs.TypedAccess

/-! # Instances are read back from their text

The text of an instance is that of the object it is extracted to.  Such an object holds the
trees of the entries that the same extraction leaves elsewhere (`ExtractStep.runAll_json`), it
is parsed back from its text (`JsonObject.parse_text`), and it fills an instance as the
entries do if their values come back from the trees (`FillStep.runAll_json`).  So what fills
back from entries fills back from text, if text carries what was extracted
(`Descriptor.Carried`), and through a cache, whatever it served before
(`Cache.readText_writeText`).
-/
namespace PropertyBinding

variable {α : Type}

/-- An object takes what entries take, as trees. -/
theorem ExtractStep.run_json (step : ExtractStep α) (subject : α)
    (entries : List (String × Value)) :
    step.run Sink.json subject (.ofEntries entries) =
      ((step.run Sink.entries subject entries).1,
        .ofEntries (step.run Sink.entries subject entries).2) := by
  obtain ⟨property, type, read⟩ := step
  cases type with
  | scalar s =>
    show (Except.ok (), JsonObject.put _ property (Json.ofScalar s (read subject))) = _
    rw [Json.ofScalar_eq, JsonObject.put_ofEntries]
    rfl
  | value =>
    show (Except.ok (), JsonObject.put _ property (Json.ofValue (read subject))) = _
    rw [JsonObject.put_ofEntries]
    rfl
  | object typeName =>
    simp only [run]
    cases read subject with
    | error error => rfl
    | ok value =>
      show (Except.ok (), JsonObject.put _ property (Json.ofValue value)) = _
      rw [JsonObject.put_ofEntries]
      rfl

theorem ExtractStep.runAll_json (steps : List (ExtractStep α)) (subject : α)
    (entries : List (String × Value)) :
    runAll Sink.json subject steps (.ofEntries entries) =
      ((runAll Sink.entries subject steps entries).1,
        .ofEntries (runAll Sink.entries subject steps entries).2) := by
  induction steps generalizing entries with
  | nil => rfl
  | cons first rest ih =>
    rw [runAll_cons, runAll_cons, run_json]
    cases first.run Sink.entries subject entries with
    | mk result left =>
      cases result with
      | error error => rfl
      | ok _ => exact ih left

/-- Every value comes back from its tree. -/
def Entries.Restored (entries : List (String × Value)) : Prop :=
  ∀ entry ∈ entries, Value.ofJson (Json.ofValue entry.2) = entry.2

theorem Entries.Restored.getD {entries : List (String × Value)} (h : Entries.Restored entries)
    (property : String) :
    Value.ofJson (Json.ofValue ((Entries.get? entries property).getD .null)) =
      (Entries.get? entries property).getD .null := by
  cases hget : Entries.get? entries property with
  | none => rfl
  | some value => exact h (property, value) (Entries.mem_of_get?_eq_some hget)

/-- What entries hold is read from the object whose trees lead back to it. -/
theorem Source.fetch_json {entries : List (String × Value)} {type : ValueType}
    {property : String} {data : Datum type} (hback : Entries.Restored entries)
    (h : Datum.ofValue type property ((Entries.get? entries property).getD .null) = .ok data) :
    Source.json.fetch type property (.ofEntries entries) = (.ok data, .ofEntries entries) := by
  have hvalue := hback.getD property
  have hlookup := JsonObject.lookup_ofEntries entries property
  generalize (Entries.get? entries property).getD .null = value at h hvalue hlookup
  cases type with
  | scalar s =>
    refine Prod.ext ?_ rfl
    show ((JsonObject.ofEntries entries).lookup property).bind (Json.narrow s property) = _
    rw [hlookup]
    refine (((Json.ofValue value).narrow_alike s property).ok_iff data).mpr ?_
    rw [hvalue]
    exact h
  | value | object typeName =>
    refine Prod.ext ?_ rfl
    show ((JsonObject.ofEntries entries).lookup property).map Value.ofJson = _
    rw [hlookup, Except.map, hvalue]
    exact h

/-- An object fills as the entries do that its trees lead back to. -/
theorem FillStep.runAll_json {steps : List (FillStep α)} {subject after : α}
    {entries left : List (String × Value)} (hback : Entries.Restored entries)
    (h : runAll Source.entries steps subject entries = (.ok (), after, left)) :
    runAll Source.json steps subject (.ofEntries entries) =
      (.ok (), after, .ofEntries entries) := by
  induction steps generalizing subject with
  | nil =>
    cases h
    rfl
  | cons first rest ih =>
    obtain ⟨next, state, hfirst, hrest⟩ := runAll_cons_eq_ok_iff.mp h
    obtain ⟨data, hfetch, hwrite⟩ := run_eq_ok_iff.mp hfirst
    rw [Source.fetch_entries] at hfetch
    obtain ⟨hdata, rfl⟩ := Prod.mk.inj hfetch
    have hjson := Source.fetch_json hback hdata
    exact runAll_cons_eq_ok_iff.mpr
      ⟨next, _, run_eq_ok_iff.mpr ⟨data, hjson, hwrite⟩, ih hrest⟩

/-! ## Members that text carries -/

/-- The types whose data text carries unchanged, as far as their values are textual. -/
def ValueType.isTextual : ValueType → Bool
  | .scalar .f32 | .scalar .f64 | .object _ => false
  | _ => true

theorem Scalar.textual_widen {s : Scalar} (h : (ValueType.scalar s).isTextual = true)
    (data : s.Carrier) (depth : Nat) : (s.widen data).Textual depth := by
  cases s with
  | i8 | i16 | i32 | i64 => exact .integer depth _
  | f32 | f64 => cases h
  | bool => exact .bool depth _
  | char | string => exact .string depth _

/-- Textual data are extracted to textual entries. -/
theorem ExtractStep.runAll_textual {steps : List (ExtractStep α)} {subject : α}
    {entries : List (String × Value)} {depth : Nat}
    (hsteps : ∀ step ∈ steps, ∃ data, readAt step.type step.read subject = .ok data ∧
      data.toValue.Textual depth)
    (hentries : (Value.map entries).Textual (depth + 1)) :
    ∃ left, runAll Sink.entries subject steps entries = (.ok (), left) ∧
      (Value.map left).Textual (depth + 1) := by
  induction steps generalizing entries with
  | nil => exact ⟨entries, rfl, hentries⟩
  | cons first rest ih =>
    obtain ⟨data, hread, htextual⟩ := hsteps first List.mem_cons_self
    obtain ⟨left, hrun, hleft⟩ := ih (fun step hs => hsteps step (List.mem_cons_of_mem _ hs))
      (hentries.insert first.property htextual)
    refine ⟨left, ?_, hleft⟩
    rw [runAll_cons, run_entries, hread]
    exact hrun

namespace Descriptor

variable {descriptor : Descriptor α} {artifact : Artifact} {converter : Converter α}

/-- Text carries all that an artifact extracts from an instance: no member is a float or
opaque, and a value holds no floats and no bytes and is nested so little that the object
around it is still within bounds. -/
structure Carried (descriptor : Descriptor α) (artifact : Artifact) (subject : α) : Prop where
  types : ∀ step ∈ artifact.extract, step.type.isTextual = true
  values : ∀ step ∈ artifact.extract, ∀ read, descriptor.Reads step .value read →
    (read subject).Textual 126

theorem Carried.textual {subject : α} (hcarried : descriptor.Carried artifact subject)
    (hr : descriptor.realize artifact = .ok converter) :
    ∀ access ∈ converter.extract, ∃ data, readAt access.type access.read subject = .ok data ∧
      data.toValue.Textual 126 := by
  obtain ⟨-, -, -, hextract, -, -⟩ := descriptor.realize_eq_ok_iff.mp hr
  intro access ha
  obtain ⟨step, hs, hprepared⟩ := exists_mem_of_forall₂ hextract.flip access ha
  have hread : ∀ (type : ValueType) (read : ReadHandle α type), type.isTextual = true →
      descriptor.Reads step type read →
      ∃ data, readAt type read subject = .ok data ∧ data.toValue.Textual 126 := by
    intro type read htype hreads
    cases type with
    | scalar s => exact ⟨_, rfl, s.textual_widen htype _ _⟩
    | value => exact ⟨_, rfl, hcarried.values step hs read hreads⟩
    | object typeName => cases htype
  obtain ⟨read, hreads, rfl⟩ := reads_of_extractStep hprepared
  exact hread _ read (hcarried.types step hs) hreads

/-- What a realized converter extracted from one instance to an object is parsed back from
the object's text, and fills another instance. -/
theorem Reversible.refills_parsed (hrev : descriptor.Reversible artifact)
    (hr : descriptor.realize artifact = .ok converter) {a : α}
    (hcarried : descriptor.Carried artifact a) :
    ∃ object, converter.extractTo Sink.json a {} = (.ok (), object) ∧
      JsonObject.parse object.text = .ok object ∧
      ∀ b, ∃ after, converter.fillFrom Source.json b object = (.ok (), after, object) ∧
        ∀ f ∈ artifact.fill, ∀ e ∈ artifact.extract, e.property = f.property →
          ∀ type read, descriptor.Reads e type read →
            readAt type read after = readAt type read a := by
  have hnone : (Value.map []).Textual Json.maxDepth := .map .nil fun _ he => nomatch he
  obtain ⟨entries, hrun, htextual⟩ :=
    ExtractStep.runAll_textual (hcarried.textual hr) hnone
  have hentries : converter.toEntries a = .ok entries := by
    simp only [Converter.toEntries, Converter.extractTo, hrun]
    rfl
  have hback : Entries.Restored entries := by
    cases htextual with
    | map sorted hall => exact fun entry he => (hall entry he).ofJson_ofValue
  refine ⟨.ofEntries entries, ?_, JsonObject.parse_text htextual, fun b => ?_⟩
  · have hjson := ExtractStep.runAll_json converter.extract a []
    rw [hrun] at hjson
    exact hjson
  · obtain ⟨after, hfilled, hsame⟩ := hrev.refills hr hentries b
    exact ⟨after, FillStep.runAll_json hback hfilled, hsame⟩

end Descriptor

namespace Cache

variable {Ty : Type} {Data : Ty → Type} [DecidableEq Ty]

variable {cache left : Cache Ty Data} {type : Ty} {description : Description (Data type)}
  {shared : Shared (Data type)}

/-- The text of an instance is that of the object it is extracted to. -/
theorem writeText_of_compile
    (hc : cache.compile type description Resolver.default = (.ok shared, left))
    {subject : Data type} {object : JsonObject}
    (hx : shared.converter.extractTo Sink.json subject {} = (.ok (), object)) :
    cache.writeText type description subject = (.ok object.text, left) := by
  unfold writeText
  rw [hc]
  simp only [bind, Except.bind, hx]
  rfl

/-- An instance is read by filling a new one from the object that the text spells. -/
theorem readText_of_compile
    (hc : cache.compile type description Resolver.default = (.ok shared, left))
    {text : String} {object after : JsonObject} {blank created : Data type}
    (hp : JsonObject.parse text = .ok object) (hb : shared.converter.create? = some blank)
    (hf : shared.converter.fillFrom Source.json blank object = (.ok (), created, after)) :
    cache.readText type description text = (.ok created, left) := by
  have hcreate : shared.converter.createFrom Source.json object = (.ok (some created), after) := by
    simp only [Converter.createFrom, hb, hf]
    rfl
  unfold readText
  rw [hc]
  simp only [hp, Fault.ofError, Except.mapError, bind, Except.bind, hcreate]
  rfl

/-- **An instance is read back from its text.**  Let a cache have served any calls, and let
it answer a request for the converter of a type that has a constructor, under the default
resolver.  If what the converter maps can be filled back, and text carries what it extracts
from an instance, then the instance is written, and what is written is read as an instance
on which every filled property reads as on the first. -/
theorem readText_writeText (describe : (type : Ty) → Description (Data type))
    (requests : List (Request Ty)) (type : Ty) (descriptor : Descriptor (Data type))
    (hdescribe : describe type = .ok descriptor) (hmade : descriptor.constructors ≠ [])
    (shared : Shared (Data type))
    (hcompile : (((empty : Cache Ty Data).after describe requests).compile type (describe type)
      Resolver.default).1 = .ok shared)
    (hrev : descriptor.Reversible shared.converter.artifact) (subject : Data type)
    (hcarried : descriptor.Carried shared.converter.artifact subject) :
    ∃ text created,
      let cache := (empty : Cache Ty Data).after describe requests
      let written := cache.writeText type (describe type) subject
      written.1 = .ok text ∧ (written.2.readText type (describe type) text).1 = .ok created ∧
      ∀ f ∈ shared.converter.artifact.fill, ∀ e ∈ shared.converter.artifact.extract,
        e.property = f.property → ∀ type read, descriptor.Reads e type read →
          readAt type read created = readAt type read subject := by
  obtain ⟨left, hanswer⟩ : ∃ left, ((empty : Cache Ty Data).after describe requests).compile type
      (describe type) Resolver.default = (.ok shared, left) := ⟨_, Prod.ext hcompile rfl⟩
  have hways := ((empty : Cache Ty Data).after describe requests).compiles type (describe type)
    Resolver.default
  rw [hcompile] at hways
  obtain ⟨found, name, planned, hfound, hplan, hsame, hr⟩ :=
    (realized_empty.after requests).of_compile_eq_ok hways
  obtain rfl : found = descriptor := Except.ok.inj (hfound.symm.trans hdescribe)
  -- the kept converter has the constructor that is planned for its type
  obtain ⟨choice, hchoice⟩ := Descriptor.exists_constructor_of_plan hplan hmade
  obtain ⟨-, -, hconstructor⟩ := (Artifact.sameMapping_iff _ _).mp hsame
  obtain ⟨blank, hblank⟩ :=
    Descriptor.exists_create_of_realize hr (hconstructor.symm.trans hchoice)
  obtain ⟨object, hextracted, hparsed, hfills⟩ := hrev.refills_parsed hr hcarried
  obtain ⟨created, hfilled, hreads⟩ := hfills blank
  have hwritten := writeText_of_compile hanswer hextracted
  have hread := readText_of_compile (compile_again hanswer) hparsed hblank hfilled
  refine ⟨object.text, created, ?_, ?_, hreads⟩
  · rw [hwritten]
  · rw [hwritten, hread]

section Sheet

/-- Instances of a number, a value and a total. -/
abbrev Sheet : Type := Int64 × Value × Int32

/-- A field, a getter with its setter, and a getter alone. -/
def sheet : Descriptor Sheet where
  typePath := "Sheet"
  typeName := "Sheet"
  members := [
    .field "n" (.scalar .i64) (fun a => a.1) fun a n => (n, a.2),
    .getter "getData" .value fun a => a.2.1,
    .setter "setData" .value fun a data => (a.1, data, a.2.2),
    .getter "getTotal" (.scalar .i32) fun a => a.2.2]
  constructors := [.ofDefault (0, .null, 0)]

def sheetArtifact : Artifact where
  name := "SheetBean"
  typePath := "Sheet"
  resolver := Resolver.defaultId
  constructor := some ⟨0, []⟩
  fill := [⟨0, "n", "n", .field, .scalar .i64, false⟩,
    ⟨2, "data", "setData", .setter, .value, false⟩]
  extract := [⟨0, "n", "n", .field, .scalar .i64, false⟩,
    ⟨1, "data", "getData", .getter, .value, false⟩,
    ⟨3, "total", "getTotal", .getter, .scalar .i32, false⟩]

theorem reversible_sheet : sheet.Reversible sheetArtifact where
  distinct_fill := by decide
  distinct_extract := by decide
  paired := by decide
  lawful := by
    intro f hf e he hproperty type write read ⟨_, hm, _, hs⟩ ⟨_, hm', _, hs'⟩
    simp only [sheetArtifact, List.mem_cons, List.not_mem_nil, or_false] at hf he
    rcases hf with rfl | rfl <;> rcases he with rfl | rfl | rfl <;>
      first | (exfalso; revert hproperty; decide) | (cases hm; cases hm'; cases hs; cases hs')
    · intro a n ha b
      cases ha
      exact ⟨_, rfl, rfl⟩
    · intro a data ha b
      cases ha
      exact ⟨_, rfl, rfl⟩
  apart := by
    intro f hf g hg hne e he hproperty type write other read ⟨_, hm, _, hs⟩ ⟨_, hm', _, hs'⟩
    have hdiffers : e.property ≠ f.property :=
      hproperty.trans_ne (Descriptor.property_ne_of_ne (by decide) hf hg hne).symm
    simp only [sheetArtifact, List.mem_cons, List.not_mem_nil, or_false] at hf hg he
    rcases hf with rfl | rfl <;> rcases he with rfl | rfl | rfl <;>
      first | (exfalso; revert hdiffers; decide) | (cases hm; cases hm'; cases hs; cases hs')
    · exact fun _ _ => rfl
    · exact fun _ _ => rfl
    · exact fun _ _ => rfl
    · exact fun _ _ => rfl
  single := Descriptor.single_of_forall_ne (by decide)

/-- Arrays in arrays. -/
def tower : Nat → Value
  | 0 => .null
  | depth + 1 => .array [tower depth]

theorem textual_tower (depth : Nat) : (tower depth).Textual depth := by
  induction depth with
  | zero => exact .null 0
  | succ depth ih => exact .array (List.forall_mem_singleton.mpr ih)

/-- The least number, keys and texts that are escaped, as many levels as there may be, and a
total. -/
def page : Sheet :=
  (Int64.minValue, .map [("\x00\"", .array [.null, .string "é😀\n"]), ("k", tower 125)], 7)

theorem carried_page : sheet.Carried sheetArtifact page where
  types := by decide
  values := by
    intro step hs read ⟨_, hm, _, hslot⟩
    simp only [sheetArtifact, List.mem_cons, List.not_mem_nil, or_false] at hs
    rcases hs with rfl | rfl | rfl <;> cases hm <;> cases hslot
    refine .map (List.pairwise_pair.mpr (by decide)) ?_
    simp only [List.forall_mem_cons, List.not_mem_nil, false_implies, implies_true, and_true]
    refine ⟨.array ?_, textual_tower 125⟩
    simp only [List.forall_mem_cons, List.not_mem_nil, false_implies, implies_true, and_true]
    exact ⟨.null _, .string _ _⟩

/-- The page is written, and what is written is read as a page with the same number and
value. -/
theorem readText_writeText_sheet :
    let describe : Unit → Description Sheet := fun _ => .ok sheet
    let cache : Cache Unit fun _ => Sheet := empty
    sheet.constructors ≠ [] ∧ sheet.Reversible sheetArtifact ∧ sheet.Carried sheetArtifact page ∧
      ∃ text created, (cache.writeText () (describe ()) page).1 = .ok text ∧
        ((cache.writeText () (describe ()) page).2.readText () (describe ()) text).1 =
          .ok created ∧
        created.1 = page.1 ∧ created.2.1 = page.2.1 := by
  intro describe cache
  have hmade : sheet.constructors ≠ [] := List.cons_ne_nil _ _
  obtain ⟨text, created, hwritten, hread, hsame⟩ :=
    readText_writeText describe [] () sheet rfl hmade _ rfl reversible_sheet page carried_page
  refine ⟨hmade, reversible_sheet, carried_page, text, created, hwritten, hread, ?_, ?_⟩
  · exact Except.ok.inj (hsame _ (.head _) _ (.head _) rfl _ _ ⟨_, rfl, _, rfl⟩)
  · exact Except.ok.inj
      (hsame _ (.tail _ (.head _)) _ (.tail _ (.head _)) rfl _ _ ⟨_, rfl, _, rfl⟩)

/-- The total is written to the text of the same page and not read back from it: it has no
setter, so nothing fills it. -/
theorem getter_not_read_back :
    let describe : Unit → Description Sheet := fun _ => .ok sheet
    let cache : Cache Unit fun _ => Sheet := empty
    sheet.constructors ≠ [] ∧
      (∃ shared, (cache.compile () (describe ()) Resolver.default).1 = .ok shared ∧
        shared.converter.artifact = sheetArtifact) ∧
      sheet.Reversible sheetArtifact ∧ sheet.Carried sheetArtifact page ∧
      ∃ text created, (cache.writeText () (describe ()) page).1 = .ok text ∧
        ((cache.writeText () (describe ()) page).2.readText () (describe ()) text).1 =
          .ok created ∧
        ∃ e ∈ sheetArtifact.extract, ∃ read, sheet.Reads e (.scalar .i32) read ∧
          read created ≠ read page := by
  intro describe cache
  refine ⟨List.cons_ne_nil _ _, ⟨_, rfl, rfl⟩, reversible_sheet, carried_page, ?_⟩
  have hr : sheet.realize sheetArtifact = .ok _ := rfl
  have hcompile : cache.compile () (describe ()) Resolver.default = (.ok ⟨0, _⟩, _) := rfl
  obtain ⟨object, hextracted, hparsed, hfills⟩ := reversible_sheet.refills_parsed hr carried_page
  obtain ⟨created, hfilled, -⟩ := hfills ((0, .null, 0) : Sheet)
  have hwritten := writeText_of_compile hcompile hextracted
  have hread := readText_of_compile (compile_again hcompile) hparsed rfl hfilled
  -- the two writes are those of the number and the value, so the total stays that of a new sheet
  have htotal : created.2.2 = 0 := by
    obtain ⟨_, _, hfirst, hrest⟩ := FillStep.runAll_cons_eq_ok_iff.mp hfilled
    obtain ⟨_, -, hwrite⟩ := FillStep.run_eq_ok_iff.mp hfirst
    obtain ⟨_, _, hsecond, hend⟩ := FillStep.runAll_cons_eq_ok_iff.mp hrest
    obtain ⟨_, -, hwrite'⟩ := FillStep.run_eq_ok_iff.mp hsecond
    cases hwrite
    cases hwrite'
    cases hend
    rfl
  refine ⟨object.text, created, by rw [hwritten], by rw [hwritten, hread], ?_⟩
  refine ⟨_, .tail _ (.tail _ (.head _)), fun a => a.2.2, ⟨_, rfl, _, rfl⟩, ?_⟩
  show created.2.2 ≠ 7
  rw [htotal]
  decide

end Sheet

end Cache
end PropertyBinding
