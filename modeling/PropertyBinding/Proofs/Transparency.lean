import PropertyBinding.Proofs.Provenance

/-! # A cache is transparent

A converter may be kept from an earlier resolver of the same identifier, or from an
artifact that was made elsewhere.  Whatever calls came before, a caller gets it only if
planning afresh with its own resolver gives the same mapping, and then it does what a
converter built afresh does (`Cache.compile_as_fresh`).

The invariant is `Cache.Realized`: every kept converter is the realization of the
artifact that it carries, since the call that made it has realized it.
-/
namespace PropertyBinding

variable {α Ty : Type} {Data : Ty → Type}

namespace Descriptor

/-- A plan under another name is the same plan. -/
theorem plan_rename {descriptor : Descriptor α} {resolver : Resolver} {name : String}
    {artifact : Artifact} (h : descriptor.plan resolver name = .ok artifact) (other : String) :
    descriptor.plan resolver other = .ok { artifact with name := other } := by
  rw [descriptor.plan_name_irrelevant resolver name other, h]
  rfl

theorem typePath_of_plan {descriptor : Descriptor α} {resolver : Resolver} {name : String}
    {artifact : Artifact} (h : descriptor.plan resolver name = .ok artifact) :
    artifact.typePath = descriptor.typePath := by
  obtain ⟨steps, -, rfl⟩ := plan_eq_ok_iff.mp h
  rfl

end Descriptor

namespace Cache

variable [DecidableEq Ty] (describe : (type : Ty) → Description (Data type))

/-- Every kept converter is the realization of its own artifact. -/
def Realized (cache : Cache Ty Data) : Prop :=
  ∀ type id shared, cache.place type id = .filled shared →
    ∃ descriptor, describe type = .ok descriptor ∧
      descriptor.realize shared.converter.artifact = .ok shared.converter

variable {describe} {cache : Cache Ty Data}

omit [DecidableEq Ty] in
theorem realized_empty : Realized describe (empty : Cache Ty Data) := by
  intro type id shared h
  cases h

/-- A run of calls keeps the invariant, since what it leaves was kept before or was made by
one of the calls. -/
theorem Realized.after (h : Realized describe cache) (requests : List (Request Ty)) :
    Realized describe (cache.after describe requests) := by
  intro type id shared hs
  rcases makes_of_after cache requests hs with hbefore | ⟨request, -, hmakes⟩
  · exact h type id shared hbefore
  · exact hmakes.realized

/-- A converter is only handed out to a resolver that plans its mapping. -/
theorem Realized.of_compile_eq_ok (h : Realized describe cache) {type : Ty} {resolver : Resolver}
    {shared : Shared (Data type)} {left : Cache Ty Data}
    (hc : Compiles cache type (describe type) resolver (.ok shared) left) :
    ∃ descriptor name planned, describe type = .ok descriptor ∧
      descriptor.plan resolver name = .ok planned ∧
      planned.sameMapping shared.converter.artifact = true ∧
      descriptor.realize shared.converter.artifact = .ok shared.converter := by
  cases hc with
  | hit hp ha =>
    obtain ⟨planned, hcompile, hsame⟩ := agree_eq_ok_iff.mp ha
    obtain ⟨descriptor, ht, hplan⟩ := Description.compile_eq_ok_iff.mp hcompile
    obtain ⟨kept, hkept, hr⟩ := h type resolver.id shared hp
    -- the type tells the same shape as when the converter was kept
    obtain rfl : kept = descriptor := Except.ok.inj (hkept.symm.trans ht)
    exact ⟨kept, _, planned, ht, hplan, hsame, hr⟩
  | made hp hs =>
    -- nothing was kept, and the converter was planned by this very resolver
    obtain ⟨descriptor, artifact, ht, hplan, hr, -⟩ := synthesize_eq_ok_iff.mp hs
    obtain ⟨-, -, -, -, -, hart⟩ := descriptor.realize_eq_ok_iff.mp hr
    refine ⟨descriptor, _, artifact, ht, hplan, ?_, ?_⟩
    · exact (Artifact.sameMapping_iff _ _).mpr (by simp [hart])
    · simp only [hart]
      exact hr

/-- A request that was answered is answered alike the next time, and changes nothing. -/
theorem compile_again {left : Cache Ty Data} {type : Ty}
    {description : Description (Data type)} {resolver : Resolver} {shared : Shared (Data type)}
    (h : cache.compile type description resolver = (.ok shared, left)) :
    left.compile type description resolver = (.ok shared, left) := by
  have hways := cache.compiles type description resolver
  rw [h] at hways
  cases hways with
  | hit _ _ => exact h
  | made hp hs =>
    obtain ⟨descriptor, artifact, hd, hplan, hr, -⟩ := synthesize_eq_ok_iff.mp hs
    rename_i converter loader
    have hagree : agree description converter resolver = .ok () := by
      refine agree_eq_ok_iff.mpr ⟨{ artifact with name := converter.name }, ?_, ?_⟩
      · exact Description.compile_eq_ok_iff.mpr
          ⟨descriptor, hd, Descriptor.plan_rename hplan converter.name⟩
      · rw [Descriptor.artifact_of_realize hr]
        exact (Artifact.sameMapping_iff _ _).mpr ⟨rfl, rfl, rfl⟩
    unfold compile
    -- the place is the one that was just put
    simp only [publish, place_put_self, hagree]

/-- **A cache is transparent.**  After any run of calls, a converter that is handed out
to a resolver has the mapping which that resolver plans, under whatever name, and does
what a converter does that is planned and realized afresh.  A kept converter of another
mapping is a conflict. -/
theorem compile_as_fresh (describe : (type : Ty) → Description (Data type))
    (requests : List (Request Ty)) (type : Ty) (resolver : Resolver) (name : String) :
    let cache := (empty : Cache Ty Data).after describe requests
    (∀ shared, (cache.compile type (describe type) resolver).1 = .ok shared →
      ∃ descriptor planned fresh, describe type = .ok descriptor ∧
        descriptor.plan resolver name = .ok planned ∧
        planned.fill = shared.converter.artifact.fill ∧
        planned.extract = shared.converter.artifact.extract ∧
        planned.constructor = shared.converter.artifact.constructor ∧
        descriptor.realize planned = .ok fresh ∧ shared.converter.Alike fresh) ∧
    ∀ kept planned, cache.place type resolver.id = .filled kept →
      (describe type).compile name resolver = .ok planned →
      planned.sameMapping kept.converter.artifact = false →
      (cache.compile type (describe type) resolver).1 =
        .error (.failed (.artifactConflict kept.converter.name)) := by
  intro cache
  constructor
  · intro shared hok
    have hways := cache.compiles type (describe type) resolver
    rw [hok] at hways
    obtain ⟨descriptor, other, first, ht, hfirst, hsame, hr⟩ :=
      (realized_empty.after requests).of_compile_eq_ok hways
    -- the resolver was asked under the kept name, and any other gives the same plan
    have hplan := Descriptor.plan_rename hfirst name
    obtain ⟨hf, he, hc⟩ := (Artifact.sameMapping_iff _ _).mp hsame
    have hpath : first.typePath = shared.converter.artifact.typePath :=
      (Descriptor.typePath_of_plan hfirst).trans (descriptor.realize_eq_ok_iff.mp hr).1.symm
    have hfresh : descriptor.realize { first with name := name } =
        .ok { shared.converter with artifact := { first with name := name } } :=
      descriptor.realize_of_sameMapping hr hpath hsame
    exact ⟨descriptor, _, _, ht, hplan, hf, he, hc, hfresh,
      shared.converter.alike_with_artifact _⟩
  · intro kept planned hkept hcompile hdiffers
    obtain ⟨descriptor, ht, hplan⟩ := Description.compile_eq_ok_iff.mp hcompile
    have hrenamed : (describe type).compile kept.converter.name resolver =
        .ok { planned with name := kept.converter.name } :=
      Description.compile_eq_ok_iff.mpr
        ⟨descriptor, ht, Descriptor.plan_rename hplan kept.converter.name⟩
    unfold compile
    rw [hkept]
    simp only [agree_of_differs hrenamed hdiffers]

/-- Of two resolvers that go by the identifier of the default one, the one that names
alike shares its converter and the other is refused. -/
theorem compile_as_fresh_shared :
    let describe : Unit → Description Int32 := fun _ =>
      .ok ⟨"Count", "Count", [.field "n" (.scalar .i32) id fun _ n => n], [.ofDefault 0]⟩
    let named (name : String) : Resolver :=
      .ofFunction Resolver.defaultId .publicOnly fun _ _ => .ok (some name)
    let cache := (empty : Cache Unit fun _ => Int32).after describe [.compile () .default]
    (∃ shared, (cache.compile () (describe ()) (named "n")).1 = .ok shared ∧ shared.stamp = 0 ∧
      ∃ descriptor planned fresh, describe () = .ok descriptor ∧
        descriptor.plan (named "n") "afresh" = .ok planned ∧
        planned.fill = shared.converter.artifact.fill ∧
        planned.extract = shared.converter.artifact.extract ∧
        planned.constructor = shared.converter.artifact.constructor ∧
        descriptor.realize planned = .ok fresh ∧ shared.converter.Alike fresh) ∧
    (cache.compile () (describe ()) (named "m")).1 =
      .error (.failed (.artifactConflict (Artifact.nameFor "Count" Resolver.defaultId))) := by
  intro describe named cache
  constructor
  · exact ⟨_, rfl, rfl,
      (compile_as_fresh describe [.compile () .default] () (named "n") "afresh").1 _ rfl⟩
  · exact (compile_as_fresh describe [.compile () .default] () (named "m") "afresh").2 _ _
      rfl rfl (by decide)

end Cache
end PropertyBinding
