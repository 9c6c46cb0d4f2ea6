import PropertyBinding.Proofs.Acceptance
import PropertyBinding.Proofs.ArtifactText
import PropertyBinding.Proofs.Transparency

/-! # Which members are mapped

A static member is not to be mapped, a direction is to use the members of its kinds only,
and a step is to be marked as forced exactly if its member is not public
(`Descriptor.MapsProperly`).  A plan sees to all of that (`Descriptor.honest_of_plan`).  A
realization sees to none of it: what it makes of an artifact is proper exactly if the
artifact is honest (`Descriptor.proper_iff`).

So a converter is proper unless somebody hands in a dishonest artifact.  For a cache this is
a question of where its converters come from: each was made by one of the calls
(`Cache.makes_of_after`), and those that a plan made are proper.
-/
namespace PropertyBinding

variable {α Ty : Type} {Data : Ty → Type}

/-- Whether a direction uses the members of a kind. -/
def Direction.suits (kind : MemberKind) : Direction → Bool
  | fill => kind.canFill
  | extract => kind.canExtract

/-- A mark is the one of a member exactly if it stands where the member is not public. -/
theorem Member.marked_iff {member : Member α} {mark : Bool} :
    (mark = true ↔ member.info.isPublic = false) ↔ mark = member.forced := by
  unfold Member.forced
  cases mark <;> cases member.info.isPublic <;> decide

namespace Descriptor

variable (descriptor : Descriptor α)

/-- A step maps a member that may be mapped in its direction, and is marked as forced
exactly if the member is not public. -/
def MapsProperly (direction : Direction) (step : Step) : Prop :=
  ∃ member, descriptor.members[step.index]? = some member ∧
    member.info.isStatic = false ∧ direction.suits member.info.kind = true ∧
    (step.forced = true ↔ member.info.isPublic = false)

/-- Each access of a converter is that of a member which its step maps properly. -/
structure Proper (converter : Converter α) : Prop where
  fill : List.Forall₂ (fun step access =>
    descriptor.MapsProperly .fill step ∧ descriptor.RecordsWrite step access)
    converter.artifact.fill converter.fill
  extract : List.Forall₂ (fun step access =>
    descriptor.MapsProperly .extract step ∧ descriptor.RecordsRead step access)
    converter.artifact.extract converter.extract

/-- What a realization does not ask of a step: that its kind is one of the direction, that
the member at its place is not static, and that its mark is the one of that member. -/
structure HonestStep (direction : Direction) (step : Step) : Prop where
  suits : direction.suits step.kind = true
  nonstatic : ∀ member, descriptor.members[step.index]? = some member →
    member.info.isStatic = false
  marked : ∀ member, descriptor.members[step.index]? = some member →
    step.forced = member.forced

/-- All steps of an artifact are honest. -/
def Honest (artifact : Artifact) : Prop :=
  ∀ direction : Direction, ∀ step ∈ direction.steps artifact, descriptor.HonestStep direction step

variable {descriptor} {artifact : Artifact} {converter : Converter α}

/-! ## What is realized -/

theorem Fits.mapsProperly_iff {direction : Direction} {step : Step} {member : Member α}
    (h : descriptor.Fits step member) :
    descriptor.MapsProperly direction step ↔ descriptor.HonestStep direction step := by
  constructor
  · rintro ⟨found, hf, hstatic, hsuits, hforced⟩
    obtain rfl : member = found := Option.some.inj (h.found.symm.trans hf)
    refine ⟨h.kind ▸ hsuits, fun other ho => ?_, fun other ho => ?_⟩
    · cases h.found.symm.trans ho
      exact hstatic
    · cases h.found.symm.trans ho
      exact Member.marked_iff.mp hforced
  · intro hs
    exact ⟨member, h.found, hs.nonstatic member h.found, h.kind.symm ▸ hs.suits,
      Member.marked_iff.mpr (hs.marked member h.found)⟩

/-- Each step of a realized artifact stands for a member. -/
theorem exists_fits_of_realize (h : descriptor.realize artifact = .ok converter)
    (direction : Direction) :
    ∀ step ∈ direction.steps artifact, ∃ member, descriptor.Fits step member := by
  obtain ⟨-, -, hfill, hextract, -, -⟩ := descriptor.realize_eq_ok_iff.mp h
  intro step hs
  cases direction with
  | fill =>
    obtain ⟨access, -, haccess⟩ := exists_mem_of_forall₂ hfill step hs
    obtain ⟨member, hm, -⟩ := descriptor.fillStep_eq_ok_iff.mp haccess
    exact ⟨member, hm⟩
  | extract =>
    obtain ⟨access, -, haccess⟩ := exists_mem_of_forall₂ hextract step hs
    obtain ⟨member, hm, -⟩ := descriptor.extractStep_eq_ok_iff.mp haccess
    exact ⟨member, hm⟩

/-- What is realized is proper exactly if its artifact is honest. -/
theorem proper_iff (h : descriptor.realize artifact = .ok converter) :
    descriptor.Proper converter ↔ descriptor.Honest artifact := by
  have hrecords := records_of_realize h
  have hstep (direction : Direction) : ∀ step ∈ direction.steps artifact,
      (descriptor.MapsProperly direction step ↔ descriptor.HonestStep direction step) := by
    intro step hs
    obtain ⟨member, hm⟩ := exists_fits_of_realize h direction step hs
    exact hm.mapsProperly_iff
  constructor
  · rintro ⟨hfill, hextract⟩ direction step hs
    rw [hrecords.kept] at hfill hextract
    refine (hstep direction step hs).mp ?_
    cases direction with
    | fill => exact ((List.forall₂_and_left _ _).mp hfill).1 step hs
    | extract => exact ((List.forall₂_and_left _ _).mp hextract).1 step hs
  · intro hhonest
    constructor
    · rw [hrecords.kept]
      exact (List.forall₂_and_left _ _).mpr
        ⟨fun step hs => (hstep .fill step hs).mpr (hhonest .fill step hs), hrecords.fill⟩
    · rw [hrecords.kept]
      exact (List.forall₂_and_left _ _).mpr
        ⟨fun step hs => (hstep .extract step hs).mpr (hhonest .extract step hs),
          hrecords.extract⟩

/-! ## What is planned -/

/-- A planned step is honest in each direction that uses its kind. -/
theorem honestStep_of_mem_steps {resolver : Resolver} {steps : List Step}
    (h : descriptor.steps resolver = .ok steps) {s : Step} (hs : s ∈ steps)
    {direction : Direction} (hk : direction.suits s.kind = true) :
    descriptor.HonestStep direction s := by
  obtain ⟨k, member, property, hfound, hv, rfl⟩ := mem_stepsFrom h hs
  -- the step was made for the member at its own place
  have hplace : descriptor.members[(step (0 + k) member property).index]? = some member := by
    simpa [step] using hfound
  refine ⟨hk, fun other ho => ?_, fun other ho => ?_⟩
  · cases hplace.symm.trans ho
    exact member.nonstatic_of_mapped hv
  · cases hplace.symm.trans ho
    rfl

/-- A plan is honest. -/
theorem honest_of_plan {resolver : Resolver} {name : String}
    (h : descriptor.plan resolver name = .ok artifact) : descriptor.Honest artifact := by
  obtain ⟨steps, hsteps, rfl⟩ := plan_eq_ok_iff.mp h
  intro direction s hs
  cases direction with
  | fill =>
    obtain ⟨hmem, hk⟩ := List.mem_filter.mp hs
    exact honestStep_of_mem_steps hsteps hmem hk
  | extract =>
    obtain ⟨hmem, hk⟩ := List.mem_filter.mp hs
    exact honestStep_of_mem_steps hsteps hmem hk

/-- Honesty is a matter of the mapping. -/
theorem Honest.of_sameMapping {other : Artifact} (h : descriptor.Honest artifact)
    (hs : artifact.sameMapping other = true) : descriptor.Honest other := by
  obtain ⟨hfill, hextract, -⟩ := (Artifact.sameMapping_iff _ _).mp hs
  intro direction step hstep
  have hsteps : direction.steps other = direction.steps artifact := by
    cases direction with
    | fill => exact hfill.symm
    | extract => exact hextract.symm
  exact h direction step (hsteps ▸ hstep)

end Descriptor

/-! ## The converters of a cache -/

/-- A converter that a call makes is proper exactly if its artifact is honest, and fails to
be so only if that artifact was handed in. -/
theorem Request.Makes.proper_iff {describe : (type : Ty) → Description (Data type)}
    {request : Request Ty} {type : Ty} {converter : Converter (Data type)}
    (h : request.Makes describe type converter) :
    ∃ descriptor, describe type = .ok descriptor ∧
      (descriptor.Proper converter ↔ descriptor.Honest converter.artifact) ∧
      (¬descriptor.Proper converter → ∃ s, request = .install type s ∧
        Artifact.ofSymbols s = .ok converter.artifact) := by
  cases h with
  | compile ht hp hr =>
    have hproper := (Descriptor.proper_iff hr).mpr (Descriptor.honest_of_plan hp)
    refine ⟨_, ht, ?_, fun hn => absurd hproper hn⟩
    rw [Descriptor.artifact_of_realize hr]
    exact Descriptor.proper_iff hr
  | install ht hd hr =>
    rw [Descriptor.artifact_of_realize hr]
    exact ⟨_, ht, Descriptor.proper_iff hr, fun _ => ⟨_, rfl, hd⟩⟩

namespace Cache

variable [DecidableEq Ty]

/-- **Only a dishonest artifact has members mapped that should not be.**  A converter that
is compiled is proper, whatever was installed before.  A converter that is linked or
installed is proper exactly if its artifact is honest: nothing else is asked of it than what
makes it fit.  An installation that answers with an improper converter does so because these
symbols, or those of an earlier call, hold its artifact. -/
theorem proper_iff_honest (describe : (type : Ty) → Description (Data type))
    (requests : List (Request Ty)) (type : Ty) :
    let cache := (empty : Cache Ty Data).after describe requests
    (∀ resolver shared, (cache.compile type (describe type) resolver).1 = .ok shared →
      ∃ descriptor, describe type = .ok descriptor ∧ descriptor.Proper shared.converter) ∧
    (∀ s converter, (describe type).link s = .ok converter →
      ∃ descriptor artifact, describe type = .ok descriptor ∧
        Artifact.ofSymbols s = .ok artifact ∧ converter.artifact = artifact ∧
        (descriptor.Proper converter ↔ descriptor.Honest artifact)) ∧
    ∀ s shared, (cache.install type (describe type) s).1 = .ok shared →
      ∃ descriptor, describe type = .ok descriptor ∧
        (descriptor.Proper shared.converter ↔ descriptor.Honest shared.converter.artifact) ∧
        (¬descriptor.Proper shared.converter →
          ∃ given, .install type given ∈ requests ++ [.install type s] ∧
            Artifact.ofSymbols given = .ok shared.converter.artifact) := by
  intro cache
  refine ⟨fun resolver shared hok => ?_, fun s converter hok => ?_, fun s shared hok => ?_⟩
  · have hways := cache.compiles type (describe type) resolver
    rw [hok] at hways
    obtain ⟨descriptor, name, planned, ht, hp, hsame, hr⟩ :=
      (realized_empty.after requests).of_compile_eq_ok hways
    -- a kept converter is only handed out if it maps as the plan does
    have hhonest := (Descriptor.honest_of_plan hp).of_sameMapping hsame
    exact ⟨descriptor, ht, (Descriptor.proper_iff hr).mpr hhonest⟩
  · obtain ⟨descriptor, artifact, ht, hd, hr⟩ := Description.link_eq_ok_iff.mp hok
    exact ⟨descriptor, artifact, ht, hd, Descriptor.artifact_of_realize hr,
      Descriptor.proper_iff hr⟩
  · have hmade : ∃ request ∈ requests ++ [.install type s],
        request.Makes describe type shared.converter := by
      have hways := cache.installs type (describe type) s
      rw [hok] at hways
      generalize (cache.install type (describe type) s).2 = left at hways
      cases hways with
      | kept hd hkept hl =>
        rcases makes_of_after empty requests hkept with hempty | ⟨request, hr, hmakes⟩
        · cases hempty
        · exact ⟨request, List.mem_append_left _ hr, hmakes⟩
      | made hd hv hl ht hr => exact ⟨_, List.mem_append_right _ (by simp), .install ht hd hr⟩
    obtain ⟨request, hrequest, hmakes⟩ := hmade
    obtain ⟨descriptor, ht, hiff, hgiven⟩ := hmakes.proper_iff
    refine ⟨descriptor, ht, hiff, fun hn => ?_⟩
    obtain ⟨given, rfl, hd⟩ := hgiven hn
    exact ⟨given, hrequest, hd⟩

section Tally

/-- A type of counts: one that is static, one with a getter over both handles, and one that
is not public. -/
def tally : Descriptor Int32 where
  typePath := "Tally"
  typeName := "Tally"
  members :=
    [(Member.field "total" (.scalar .i32) (fun n => n) fun _ n => n).static,
      ⟨{ name := "getN", type := .scalar .i32, kind := .getter },
        ⟨.scalar .i32, some fun n => n, some fun _ n => n⟩⟩,
      (Member.field "hidden" (.scalar .i32) (fun n => n) fun _ n => n).nonPublic]

/-- A step that is not marked as forced. -/
def tallyStep (index : Nat) (member : String) (kind : MemberKind) : Step :=
  ⟨index, member, member, kind, .scalar .i32, false⟩

/-- An artifact for counts that fills by one step. -/
def tallyArtifact (step : Step) : Artifact :=
  ⟨"Tally#1", "Tally", Resolver.defaultId, none, [step], []⟩

/-- A converter that is not proper is linked from the bytes of the artifact of a step. -/
def LinksImproperly (step : Step) : Prop :=
  ∃ converter,
    Description.link (.ok tally) (Json.symbols (tallyArtifact step).toBytes) = .ok converter ∧
      converter.artifact = tallyArtifact step ∧ ¬tally.Proper converter

/-- It is enough that the step fits and is not honest. -/
theorem linksImproperly_of_realize {step : Step} {converter : Converter Int32}
    (hplace : step.index < UInt64.size) (hr : tally.realize (tallyArtifact step) = .ok converter)
    (hs : ¬tally.HonestStep .fill step) : LinksImproperly step := by
  have haddressable : (tallyArtifact step).Addressable := by
    refine ⟨fun _ hc => (nomatch hc), fun other ho => ?_, fun _ ho => (nomatch ho)⟩
    rwa [List.mem_singleton.mp ho]
  have hread := Artifact.ofSymbols_toBytes haddressable
  refine ⟨converter, Description.link_eq_ok_iff.mpr ⟨tally, _, rfl, hread, hr⟩,
    Descriptor.artifact_of_realize hr, ?_⟩
  rw [Descriptor.proper_iff hr]
  exact fun h => hs (h .fill step List.mem_cons_self)

/-- The static member, the getter and the unmarked member are each filled by a converter
that is linked. -/
theorem link_fills_improperly :
    LinksImproperly (tallyStep 0 "total" .field) ∧
      LinksImproperly (tallyStep 1 "getN" .getter) ∧
      LinksImproperly (tallyStep 2 "hidden" .field) := by
  have htotal : ¬tally.HonestStep .fill (tallyStep 0 "total" .field) := fun h =>
    Bool.noConfusion (h.nonstatic _ rfl)
  have hgetter : ¬tally.HonestStep .fill (tallyStep 1 "getN" .getter) := fun h =>
    Bool.noConfusion h.suits
  have hhidden : ¬tally.HonestStep .fill (tallyStep 2 "hidden" .field) := fun h =>
    Bool.noConfusion (h.marked _ rfl)
  refine ⟨?_, ?_, ?_⟩
  · exact linksImproperly_of_realize (by decide) rfl htotal
  · exact linksImproperly_of_realize (by decide) rfl hgetter
  · exact linksImproperly_of_realize (by decide) rfl hhidden

end Tally

end Cache
end PropertyBinding
