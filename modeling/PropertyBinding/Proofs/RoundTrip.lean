import Mathlib.Data.List.Nodup
import PropertyBinding.Codec.Standard
import PropertyBinding.Proofs.Planning
import PropertyBinding.Proofs.Transfer

/-! # Extracting and filling back

What one instance was extracted to fills another one so that every member that filling
writes reads on it as on the first, whatever the other one held before
(`Descriptor.fill_of_extract`).  `Descriptor.Reversible` lists what this asks of the
members that an artifact maps: each filled property is also extracted, under handles that
read back what was written and that the other writes spare.

A realized converter carries the handles of the members that its artifact names
(`Descriptor.writes_of_fillStep`, `Descriptor.reads_of_extractStep`), so its steps are made
of the pairs for which `Pair.runAll_entries` was proved.
-/
namespace PropertyBinding

variable {α : Type}

namespace Descriptor

/-- What an artifact maps can be filled back from what was extracted. -/
structure Reversible (descriptor : Descriptor α) (artifact : Artifact) : Prop where
  distinct_fill : (artifact.fill.map Step.property).Nodup
  distinct_extract : (artifact.extract.map Step.property).Nodup
  /-- Every filled property is extracted as well. -/
  paired : ∀ f ∈ artifact.fill, ∃ e ∈ artifact.extract, e.property = f.property ∧ e.type = f.type
  lawful : ∀ f ∈ artifact.fill, ∀ e ∈ artifact.extract, e.property = f.property →
    ∀ type write read, descriptor.Writes f type write → descriptor.Reads e type read →
      Lawful type read write
  /-- To write a member leaves alone what is read under the other filled properties. -/
  apart : ∀ f ∈ artifact.fill, ∀ g ∈ artifact.fill, f ≠ g →
    ∀ e ∈ artifact.extract, e.property = g.property →
      ∀ type write other read, descriptor.Writes f type write → descriptor.Reads e other read →
        Spares type other write read
  /-- A single-precision float comes back from the double that it travels as. -/
  single : ∀ f ∈ artifact.fill, f.type = .scalar .f32 →
    ∀ x, Scalar.f32.narrow f.property (Scalar.f32.widen x) = .ok x

variable {descriptor : Descriptor α} {step : Step} {artifact : Artifact}

/-- Where no single-precision float is filled, there is none that must come back. -/
theorem single_of_forall_ne (h : ∀ f ∈ artifact.fill, f.type ≠ .scalar .f32) :
    ∀ f ∈ artifact.fill, f.type = .scalar .f32 →
      ∀ x, Scalar.f32.narrow f.property (Scalar.f32.widen x) = .ok x :=
  fun f hf htype => absurd htype (h f hf)

/-- Distinct steps of filling are about distinct properties. -/
theorem property_ne_of_ne (hdistinct : (artifact.fill.map Step.property).Nodup) {f g : Step}
    (hf : f ∈ artifact.fill) (hg : g ∈ artifact.fill) (hne : f ≠ g) : f.property ≠ g.property :=
  fun hsame => hne (List.inj_on_of_nodup_map hdistinct hf hg hsame)

/-- What one handle of a step reads alike on two instances, all its handles do: there is no
other. -/
theorem Reads.alike {type other : ValueType} {read : ReadHandle α type}
    {read' : ReadHandle α other} (h : descriptor.Reads step type read)
    (h' : descriptor.Reads step other read') (a b : α)
    (hsame : readAt type read a = readAt type read b) :
    readAt other read' a = readAt other read' b := by
  obtain ⟨member, hm, write, hs⟩ := h
  obtain ⟨member', hm', write', hs'⟩ := h'
  obtain rfl : member = member' := Option.some.inj (hm.symm.trans hm')
  rw [hs] at hs'
  cases hs'
  exact hsame

/-- What a step of filling and a step of extraction under its property make. -/
structure Pairs (descriptor : Descriptor α) (artifact : Artifact) (converter : Converter α)
    (f : Step) (pair : Pair α) : Prop where
  property : f.property = pair.property
  filled : descriptor.fillStep artifact f = .ok pair.fill
  writes : descriptor.Writes f pair.type pair.write
  extracted : pair.extract ∈ converter.extract
  reads : ∃ e ∈ artifact.extract, e.property = f.property ∧ descriptor.Reads e pair.type pair.read
  single : pair.type = .scalar .f32 →
    ∀ x, Scalar.f32.narrow pair.property (Scalar.f32.widen x) = .ok x

variable {converter : Converter α}

/-- Every step of filling makes a pair. -/
theorem Reversible.exists_pair (hrev : descriptor.Reversible artifact)
    (hr : descriptor.realize artifact = .ok converter) {f : Step} (hf : f ∈ artifact.fill) :
    ∃ pair, descriptor.Pairs artifact converter f pair := by
  obtain ⟨-, -, hfill, hextract, -, -⟩ := descriptor.realize_eq_ok_iff.mp hr
  obtain ⟨filled, -, hfilled⟩ := exists_mem_of_forall₂ hfill f hf
  obtain ⟨e, he, hproperty, htype⟩ := hrev.paired f hf
  obtain ⟨extracted, hmem, hextracted⟩ := exists_mem_of_forall₂ hextract e he
  obtain ⟨write, hwrites, rfl⟩ := writes_of_fillStep hfilled
  have hreads : ∃ read, descriptor.Reads e e.type read ∧
      (⟨e.property, e.type, read⟩ : ExtractStep α) ∈ converter.extract := by
    obtain ⟨read, hreads, rfl⟩ := reads_of_extractStep hextracted
    exact ⟨read, hreads, hmem⟩
  -- the handle of the extracted step is one for the type of the filled step
  rw [htype, hproperty] at hreads
  obtain ⟨read, hreads, hmem⟩ := hreads
  exact ⟨⟨f.property, f.type, read, write⟩, rfl, hfilled, hwrites, hmem,
    ⟨e, he, hproperty, hreads⟩, hrev.single f hf⟩

/-- The steps of filling are those of pairs, and these have what filling back asks for. -/
theorem Reversible.exists_pairs (hrev : descriptor.Reversible artifact)
    (hr : descriptor.realize artifact = .ok converter) :
    ∃ pairs : List (Pair α), converter.fill = pairs.map Pair.fill ∧
      List.Forall₂ (descriptor.Pairs artifact converter) artifact.fill pairs ∧
      (∀ pair ∈ pairs, Lawful pair.type pair.read pair.write) ∧
      pairs.Pairwise fun first later =>
        Spares later.type first.type later.write first.read := by
  obtain ⟨-, -, hfill, -, -, -⟩ := descriptor.realize_eq_ok_iff.mp hr
  obtain ⟨pairs, hpairs⟩ := exists_forall₂ fun f hf => hrev.exists_pair hr hf
  -- preparing the recorded steps has one outcome, be it read off the converter or the pairs
  have hsteps : converter.fill = pairs.map Pair.fill := by
    have hmade : artifact.fill.mapM (descriptor.fillStep artifact) = .ok (pairs.map Pair.fill) := by
      rw [mapM_eq_ok_iff, List.forall₂_map_right_iff]
      exact hpairs.imp fun f pair h => h.filled
    exact Except.ok.inj ((mapM_eq_ok_iff.mpr hfill).symm.trans hmade)
  have hproperties : artifact.fill.map Step.property = pairs.map Pair.property :=
    map_eq_map_of_forall₂ (hpairs.imp fun f pair h => h.property)
  have hsource : ∀ pair ∈ pairs, ∃ f ∈ artifact.fill, descriptor.Pairs artifact converter f pair :=
    exists_mem_of_forall₂ hpairs.flip
  refine ⟨pairs, hsteps, hpairs, ?_, ?_⟩
  · intro pair hp
    obtain ⟨f, hf, h⟩ := hsource pair hp
    obtain ⟨e, he, hproperty, hreads⟩ := h.reads
    exact hrev.lawful f hf e he hproperty _ _ _ h.writes hreads
  · have hdistinct : pairs.Pairwise fun first later => first.property ≠ later.property := by
      rw [← List.pairwise_map, ← hproperties]
      exact hrev.distinct_fill
    refine hdistinct.imp_of_mem fun {first later} hfirst hlater hne => ?_
    obtain ⟨g, hg, h⟩ := hsource first hfirst
    obtain ⟨f, hf, h'⟩ := hsource later hlater
    obtain ⟨e, he, hproperty, hreads⟩ := h.reads
    have hfg : f ≠ g := by
      rintro rfl
      exact hne (h.property.symm.trans h'.property)
    exact hrev.apart f hf g hg hfg e he hproperty _ _ _ _ h'.writes hreads

/-- What a realized converter extracted from one instance fills another one. -/
theorem Reversible.refills (hrev : descriptor.Reversible artifact)
    (hr : descriptor.realize artifact = .ok converter) {a : α} {entries : List (String × Value)}
    (hentries : converter.toEntries a = .ok entries) (b : α) :
    ∃ after, converter.fillFrom Source.entries b entries = (.ok (), after, entries) ∧
      ∀ f ∈ artifact.fill, ∀ e ∈ artifact.extract, e.property = f.property →
        ∀ type read, descriptor.Reads e type read →
          readAt type read after = readAt type read a := by
  obtain ⟨pairs, hsteps, hpairs, hlawful, hapart⟩ := hrev.exists_pairs hr
  obtain ⟨-, -, -, hextract, -, -⟩ := descriptor.realize_eq_ok_iff.mp hr
  -- the prepared reads have the properties of the recorded steps
  have hdistinct : (converter.extract.map ExtractStep.property).Nodup := by
    have hsame : artifact.extract.map Step.property =
        converter.extract.map ExtractStep.property := by
      refine map_eq_map_of_forall₂ (hextract.imp fun e access h => ?_)
      obtain ⟨read, -, rfl⟩ := reads_of_extractStep h
      rfl
    rw [← hsame]
    exact hrev.distinct_extract
  have hrun : ExtractStep.runAll Sink.entries a converter.extract [] = (.ok (), entries) := by
    unfold Converter.toEntries Converter.extractTo at hentries
    obtain ⟨_, hok, hheld⟩ := map_eq_ok_iff.mp hentries
    exact Prod.ext hok hheld
  obtain ⟨hdata, -⟩ := ExtractStep.runAll_entries hrun hdistinct
  have hstored : ∀ pair ∈ pairs, pair.Stored a entries := by
    intro pair hp
    obtain ⟨f, hf, h⟩ := exists_mem_of_forall₂ hpairs.flip pair hp
    obtain ⟨data, hread, hget⟩ := hdata pair.extract h.extracted
    exact ⟨data, data.toValue, hread, hget, Datum.ofValue_toValue h.single data⟩
  obtain ⟨after, hfilled, hsame, -⟩ := Pair.runAll_entries hlawful hapart hstored b
  refine ⟨after, ?_, ?_⟩
  · unfold Converter.fillFrom
    rw [hsteps]
    exact hfilled
  · intro f hf e he hproperty type read hreads
    obtain ⟨pair, hp, h⟩ := exists_mem_of_forall₂ hpairs f hf
    obtain ⟨e', he', hproperty', hreads'⟩ := h.reads
    -- no other step extracts the property
    obtain rfl : e' = e :=
      List.inj_on_of_nodup_map hrev.distinct_extract he' he (hproperty'.trans hproperty.symm)
    exact hreads'.alike hreads after a (hsame pair hp)

/-- **What was extracted fills back.**  Let the artifact be planned for a descriptor under a
resolver, and reversible.  Then it is realized, and what the converter extracts from one
instance fills any other one; after that every filled property reads as on the first. -/
theorem fill_of_extract (descriptor : Descriptor α) (resolver : Resolver) (name : String)
    (artifact : Artifact) (hplan : descriptor.plan resolver name = .ok artifact)
    (hrev : descriptor.Reversible artifact) :
    ∃ converter, descriptor.realize artifact = .ok converter ∧
      ∀ a b entries, converter.toEntries a = .ok entries →
        ∃ after, converter.fillFrom Source.entries b entries = (.ok (), after, entries) ∧
          ∀ f ∈ artifact.fill, ∀ e ∈ artifact.extract, e.property = f.property →
            ∀ type read, descriptor.Reads e type read →
              readAt type read after = readAt type read a := by
  obtain ⟨converter, hr⟩ := exists_realize_of_plan hplan
  exact ⟨converter, hr, fun a b entries hentries => hrev.refills hr hentries b⟩

section Card

/-- Instances of a number, a character and a text. -/
abbrev Card : Type := Int32 × Char × String

/-- A field, a getter with its setter, and an opaque field. -/
def card : Descriptor Card where
  typePath := "Card"
  typeName := "Card"
  members := [
    .field "n" (.scalar .i32) (fun a => a.1) fun a n => (n, a.2),
    .getter "initial" (.scalar .char) fun a => a.2.1,
    .setter "initial" (.scalar .char) fun a c => (a.1, c, a.2.2),
    .field "note" (.object "Note") (Codec.text.reader fun a => a.2.2)
      (Codec.text.writer fun a text => (a.1, a.2.1, text))]

def cardArtifact : Artifact where
  name := "Card#1"
  typePath := "Card"
  resolver := "plain"
  constructor := none
  fill := [⟨0, "n", "n", .field, .scalar .i32, false⟩,
    ⟨2, "initial", "initial", .setter, .scalar .char, false⟩,
    ⟨3, "note", "note", .field, .object "Note", false⟩]
  extract := [⟨0, "n", "n", .field, .scalar .i32, false⟩,
    ⟨1, "initial", "initial", .getter, .scalar .char, false⟩,
    ⟨3, "note", "note", .field, .object "Note", false⟩]

theorem plan_card :
    card.plan (.ofFunction "plain" .publicOnly fun info _ => .ok (some info.name)) "Card#1" =
      .ok cardArtifact := rfl

theorem ofValue_text (data : String) (value : Value) (h : Codec.text.toValue data = .ok value) :
    Codec.text.ofValue value = .ok data := by
  cases h
  rfl

theorem reversible_card : card.Reversible cardArtifact where
  distinct_fill := by decide
  distinct_extract := by decide
  paired := by decide
  lawful := by
    intro f hf e he hproperty type write read ⟨_, hm, _, hs⟩ ⟨_, hm', _, hs'⟩
    simp only [cardArtifact, List.mem_cons, List.not_mem_nil, or_false] at hf he
    rcases hf with rfl | rfl | rfl <;> rcases he with rfl | rfl | rfl <;>
      first | (exfalso; revert hproperty; decide) | (cases hm; cases hm'; cases hs; cases hs')
    · intro a n ha b
      cases ha
      exact ⟨_, rfl, rfl⟩
    · intro a c ha b
      cases ha
      exact ⟨_, rfl, rfl⟩
    · exact Codec.lawful ofValue_text (fun _ _ => rfl) "Note"
  apart := by
    intro f hf g hg hne e he hproperty type write other read ⟨_, hm, _, hs⟩ ⟨_, hm', _, hs'⟩
    have hdiffers : e.property ≠ f.property :=
      hproperty.trans_ne (property_ne_of_ne (by decide) hf hg hne).symm
    simp only [cardArtifact, List.mem_cons, List.not_mem_nil, or_false] at hf he
    rcases hf with rfl | rfl | rfl <;> rcases he with rfl | rfl | rfl <;>
      first | (exfalso; revert hdiffers; decide) | (cases hm; cases hm'; cases hs; cases hs')
    · exact fun _ _ => rfl
    · exact fun _ _ => rfl
    · exact fun _ _ => rfl
    · exact fun _ _ => rfl
    · refine Codec.spares ?_ "Note"
      intro a text
      rfl
    · refine Codec.spares ?_ "Note"
      intro a text
      rfl
  single := single_of_forall_ne (by decide)

/-- A card is extracted, and whatever is filled with it becomes the same card. -/
theorem fill_of_extract_card :
    ∃ converter entries, card.realize cardArtifact = .ok converter ∧
      converter.toEntries ((7 : Int32), 'k', "seven") = .ok entries ∧
      ∀ b, converter.fillFrom Source.entries b entries =
        (.ok (), ((7 : Int32), 'k', "seven"), entries) := by
  obtain ⟨converter, hr, hall⟩ :=
    fill_of_extract card _ "Card#1" cardArtifact plan_card reversible_card
  have hmade : card.realize cardArtifact = .ok _ := rfl
  obtain rfl := Except.ok.inj (hmade.symm.trans hr)
  refine ⟨_, _, hmade, rfl, fun b => ?_⟩
  obtain ⟨⟨n, initial, note⟩, hfilled, hreads⟩ := hall ((7 : Int32), 'k', "seven") b _ rfl
  have hn := hreads _ (.head _) _ (.head _) rfl _ _ ⟨_, rfl, _, rfl⟩
  have hinitial := hreads _ (.tail _ (.head _)) _ (.tail _ (.head _)) rfl _ _ ⟨_, rfl, _, rfl⟩
  have hnote := hreads _ (.tail _ (.tail _ (.head _))) _ (.tail _ (.tail _ (.head _))) rfl _ _
    ⟨_, rfl, _, rfl⟩
  cases hn
  cases hinitial
  cases hnote
  exact hfilled

end Card

end Descriptor
end PropertyBinding
