import PropertyBinding.Proofs.ArtifactText
import PropertyBinding.Proofs.Transparency

/-! # To precompile is to compile

A type can be planned into bytes, from which a converter is linked later, or a cache can
build a converter at once.  Both plan alike, since a plan does not depend on the name it is
made under, so either both fail with one fault or none does; and the converters differ
in the name of their artifact only (`Description.link_precompiled`).

The bytes hold the whole plan, and a realization asks nothing of it that a plan does not see
to, so that linking never fails on them.  The places that a plan names are those of
members and constructors, which fit a machine word (`Descriptor.Addressable`).
-/
namespace PropertyBinding

variable {α Ty : Type} {Data : Ty → Type}

namespace Descriptor

/-- The places of all members and constructors fit a machine word, as those of a list in
memory do. -/
structure Addressable (descriptor : Descriptor α) : Prop where
  members : descriptor.members.length ≤ UInt64.size
  constructors : descriptor.constructors.length ≤ UInt64.size

variable {descriptor : Descriptor α} {resolver : Resolver} {name : String} {artifact : Artifact}

/-- The places of a plan are those of members and of a constructor. -/
theorem Addressable.of_plan (ha : descriptor.Addressable)
    (h : descriptor.plan resolver name = .ok artifact) : artifact.Addressable := by
  obtain ⟨steps, hsteps, rfl⟩ := plan_eq_ok_iff.mp h
  have hplace : ∀ s ∈ steps, s.index < UInt64.size := by
    intro s hs
    obtain ⟨member, hfits⟩ := fits_of_mem_steps hsteps hs
    obtain ⟨hlt, -⟩ := List.getElem?_eq_some_iff.mp hfits.found
    exact Nat.lt_of_lt_of_le hlt ha.members
  refine ⟨fun choice hc => ?_, fun s hs => ?_, fun s hs => ?_⟩
  · obtain ⟨⟨place, types⟩, hcheapest, rfl⟩ := Option.map_eq_some_iff.mp hc
    obtain ⟨k, constructor, hfirst, rfl, -⟩ := cheapestFrom?_eq_some hcheapest
    obtain ⟨hlt, -⟩ := List.getElem?_eq_some_iff.mp hfirst.found
    rw [Nat.zero_add]
    exact Nat.lt_of_lt_of_le hlt ha.constructors
  · exact hplace s (List.mem_filter.mp hs).1
  · exact hplace s (List.mem_filter.mp hs).1

theorem name_of_plan (h : descriptor.plan resolver name = .ok artifact) :
    artifact.name = name := by
  obtain ⟨steps, -, rfl⟩ := plan_eq_ok_iff.mp h
  rfl

end Descriptor

namespace Cache

/-- What cannot be planned under one name cannot be built. -/
theorem synthesize_of_compile_error {description : Description α} {resolver : Resolver}
    {name : String} {fault : Fault} (h : description.compile name resolver = .error fault)
    (loader : Loader) : synthesize description resolver loader = .error fault := by
  cases description with
  | error stopped =>
    cases h
    rfl
  | ok descriptor =>
    have hplan : descriptor.plan resolver name = .error fault := h
    unfold synthesize
    change (descriptor.plan resolver (Artifact.nameFor descriptor.typePath resolver.id) >>= _) = _
    rw [descriptor.plan_name_irrelevant resolver name, hplan]
    rfl

/-- What can be planned under one name is built under its own, if that is not taken. -/
theorem synthesize_of_plan {descriptor : Descriptor α} {resolver : Resolver} {name : String}
    {artifact : Artifact} {converter : Converter α}
    (hp : descriptor.plan resolver name = .ok artifact)
    (hr : descriptor.realize artifact = .ok converter) :
    ∃ loader, synthesize (.ok descriptor) resolver {} = .ok ({ converter with
      artifact := { artifact with
        name := Artifact.nameFor descriptor.typePath resolver.id } }, loader) := by
  -- the name is all that differs from the plan that was realized
  have hsame : Artifact.sameMapping { artifact with
      name := Artifact.nameFor descriptor.typePath resolver.id } artifact = true :=
    (Artifact.sameMapping_iff _ _).mpr ⟨rfl, rfl, rfl⟩
  exact ⟨_, synthesize_eq_ok_iff.mpr ⟨descriptor, _, rfl, Descriptor.plan_rename hp _,
    descriptor.realize_of_sameMapping hr rfl hsame, Loader.define_of_get?_eq_none rfl⟩⟩

variable [DecidableEq Ty]

/-- A new cache answers with what it builds. -/
theorem compile_empty (type : Ty) (description : Description (Data type)) (resolver : Resolver) :
    ((empty : Cache Ty Data).compile type description resolver).1 =
      (synthesize description resolver {}).map fun made => ⟨0, made.1⟩ := by
  have hempty : (empty : Cache Ty Data).place type resolver.id = .empty := rfl
  have hloader : (empty : Cache Ty Data).loader = {} := rfl
  unfold compile
  simp only [hempty, hloader]
  cases synthesize description resolver {} <;> rfl

end Cache

namespace Description

/-- **To precompile is to compile.**  A type is planned into bytes exactly if a new cache
builds a converter for it, and fails with the same fault otherwise.  From these bytes a
converter is linked, and it is the built one but for the name of its artifact. -/
theorem link_precompiled [DecidableEq Ty] (type : Ty) (description : Description (Data type))
    (resolver : Resolver) (name : String)
    (h : ∀ descriptor, description = .ok descriptor → descriptor.Addressable) :
    let precompiled := (description.compile name resolver).map Artifact.toBytes
    let compiled := ((Cache.empty : Cache Ty Data).compile type description resolver).1
    ((∃ bytes, precompiled = .ok bytes) ↔ ∃ shared, compiled = .ok shared) ∧
    (∀ fault, precompiled = .error fault ↔ compiled = .error fault) ∧
    ∀ bytes, precompiled = .ok bytes → ∃ shared linked, compiled = .ok shared ∧
      description.link (Json.symbols bytes) = .ok linked ∧
      linked.artifact =
        { shared.converter.artifact with name := name } ∧
      linked.Alike shared.converter := by
  intro precompiled compiled
  have hpre : precompiled = (description.compile name resolver).map Artifact.toBytes := rfl
  have hcompiled : compiled =
      (Cache.synthesize description resolver {}).map fun made => ⟨0, made.1⟩ :=
    Cache.compile_empty type description resolver
  cases hc : description.compile name resolver with
  | error fault =>
    rw [hc] at hpre
    rw [Cache.synthesize_of_compile_error hc] at hcompiled
    rw [hpre, hcompiled]
    simp [Except.map]
  | ok artifact =>
    obtain ⟨descriptor, rfl, hp⟩ := compile_eq_ok_iff.mp hc
    obtain ⟨converter, hr⟩ := Descriptor.exists_realize_of_plan hp
    obtain ⟨loader, hs⟩ := Cache.synthesize_of_plan hp hr
    have hread := Artifact.ofSymbols_toBytes ((h descriptor rfl).of_plan hp)
    have hlink : link (.ok descriptor) (Json.symbols artifact.toBytes) = .ok converter :=
      link_eq_ok_iff.mpr ⟨descriptor, artifact, rfl, hread, hr⟩
    have hname : artifact.name = name := Descriptor.name_of_plan hp
    rw [hc] at hpre
    rw [hs] at hcompiled
    rw [hpre, hcompiled]
    refine ⟨by simp [Except.map], by simp [Except.map], fun bytes hbytes => ?_⟩
    cases hbytes
    refine ⟨_, converter, rfl, hlink, ?_, converter.alike_with_artifact _⟩
    rw [Descriptor.artifact_of_realize hr, ← hname]

/-- A count is precompiled under a name with quotes and linked; one that is not public is
denied by both ways to a resolver that names it all the same. -/
theorem link_precompiled_count :
    let count (n : Member Int32) : Description Int32 := .ok ⟨"Count", "Count", [n], [.ofDefault 0]⟩
    let n : Member Int32 := .field "n" (.scalar .i32) (fun n => n) fun _ n => n
    let plain : Resolver := .ofFunction "plain" .publicOnly fun info _ => .ok (some info.name)
    let cache := (Cache.empty : Cache Unit fun _ => Int32)
    (∀ n descriptor, count n = .ok descriptor → descriptor.Addressable) ∧
    (∃ bytes shared linked,
      ((count n).compile "the \"Count\"" plain).map Artifact.toBytes = .ok bytes ∧
      (cache.compile () (count n) plain).1 = .ok shared ∧
      (count n).link (Json.symbols bytes) = .ok linked ∧
      linked.artifact = { shared.converter.artifact with name := "the \"Count\"" } ∧
      linked.Alike shared.converter) ∧
    (cache.compile () (count n.nonPublic) plain).1 =
      .error (.failed (.accessDenied "Count" "n" "plain")) := by
  intro count n plain cache
  have h : ∀ n descriptor, count n = .ok descriptor → descriptor.Addressable := by
    intro n descriptor hd
    have hone : 1 ≤ UInt64.size := by decide
    cases hd
    exact ⟨hone, hone⟩
  refine ⟨h, ?_, ?_⟩
  · obtain ⟨-, -, hlinked⟩ := @link_precompiled Unit (fun _ => Int32) _ () (count n) plain
      "the \"Count\"" (h n)
    obtain ⟨shared, linked, hshared, hlink, hartifact, halike⟩ := hlinked _ rfl
    exact ⟨_, shared, linked, rfl, hshared, hlink, hartifact, halike⟩
  · obtain ⟨-, hfault, -⟩ := @link_precompiled Unit (fun _ => Int32) _ () (count n.nonPublic)
      plain "the \"Count\"" (h n.nonPublic)
    exact (hfault _).mp rfl

end Description
end PropertyBinding
