import PropertyBinding.Proofs.CacheCalls

/-! # Where the converters of a cache come from

Every converter that a cache keeps was made by one of the calls before: it was planned and
realized for a resolver, or realized from an artifact that was handed in (`Request.Makes`).
A call accounts for what it leaves, and so does a run (`Cache.makes_of_after`).
-/
namespace PropertyBinding

variable {Ty : Type} {Data : Ty → Type}

/-- A converter that a call makes, from what was planned or from what was handed in. -/
inductive Request.Makes (describe : (type : Ty) → Description (Data type)) :
    Request Ty → (type : Ty) → Converter (Data type) → Prop
  | compile {type : Ty} {resolver : Resolver} {descriptor : Descriptor (Data type)}
      {name : String} {artifact : Artifact} {converter : Converter (Data type)}
      (ht : describe type = .ok descriptor) (hp : descriptor.plan resolver name = .ok artifact)
      (hr : descriptor.realize artifact = .ok converter) :
      Makes describe (.compile type resolver) type converter
  | install {type : Ty} {s : List Json.Symbol} {descriptor : Descriptor (Data type)}
      {artifact : Artifact} {converter : Converter (Data type)}
      (ht : describe type = .ok descriptor) (hd : Artifact.ofSymbols s = .ok artifact)
      (hr : descriptor.realize artifact = .ok converter) :
      Makes describe (.install type s) type converter

/-- What a call makes is realized for its type, from the artifact that it carries. -/
theorem Request.Makes.realized {describe : (type : Ty) → Description (Data type)}
    {request : Request Ty} {type : Ty} {converter : Converter (Data type)}
    (h : request.Makes describe type converter) :
    ∃ descriptor, describe type = .ok descriptor ∧
      descriptor.realize converter.artifact = .ok converter := by
  cases h with
  | compile ht _ hr => exact ⟨_, ht, by rwa [Descriptor.artifact_of_realize hr]⟩
  | install ht _ hr => exact ⟨_, ht, by rwa [Descriptor.artifact_of_realize hr]⟩

namespace Cache

variable [DecidableEq Ty] (describe : (type : Ty) → Description (Data type))

/-- What is kept after a call was kept before, or the call made it. -/
def Accounts (request : Request Ty) (before left : Cache Ty Data) : Prop :=
  ∀ type id shared, left.place type id = .filled shared →
    before.place type id = .filled shared ∨ request.Makes describe type shared.converter

variable {describe} {cache : Cache Ty Data} {request : Request Ty} {type : Ty} {id : String}

namespace Accounts

omit [DecidableEq Ty] in
theorem unchanged : Accounts describe request cache cache :=
  fun _ _ _ h => .inl h

/-- All places but the one that something is put into stay as they are. -/
theorem put {content : Place (Data type)} (h : ∀ shared, content = .filled shared →
    request.Makes describe type shared.converter) :
    Accounts describe request cache (cache.put type id content) := by
  intro other otherId shared hs
  exact filled_of_put (P := fun type _ shared => request.Makes describe type shared.converter) h hs

theorem afterFault (fault : Fault) :
    Accounts describe request cache (cache.afterFault type id fault) := by
  cases fault with
  | failed error => exact .unchanged
  | panicked => exact .put fun _ hs => nomatch hs

theorem publish {converter : Converter (Data type)}
    (h : request.Makes describe type converter) :
    Accounts describe request cache (cache.publish type id converter).2 := by
  have hput : Accounts describe request cache
      (cache.put type id (.filled ⟨cache.stamp, converter⟩)) := by
    refine .put fun shared hs => ?_
    cases hs
    exact h
  exact hput

theorem of_compiles {resolver : Resolver} {result : Except Fault (Shared (Data type))}
    {left : Cache Ty Data} (h : Compiles cache type (describe type) resolver result left) :
    Accounts describe (.compile type resolver) cache left := by
  cases h with
  | poisoned _ => exact .unchanged
  | hit _ _ => exact .unchanged
  | refused _ _ => exact .afterFault _
  | failed _ _ => exact .afterFault _
  | made _ hs =>
    obtain ⟨descriptor, artifact, ht, hp, hr, -⟩ := synthesize_eq_ok_iff.mp hs
    exact publish (.compile ht hp hr)

theorem of_installs {s : List Json.Symbol} {result : Except Fault (Shared (Data type))}
    {left : Cache Ty Data} (h : Installs cache type (describe type) s result left) :
    Accounts describe (.install type s) cache left := by
  cases h with
  | undecoded _ => exact .unchanged
  | poisoned _ _ => exact .unchanged
  | conflict _ _ _ => exact .unchanged
  | kept _ _ _ => exact .unchanged
  | misfit _ _ _ _ _ => exact .unchanged
  | panicked _ _ _ _ => exact put fun _ hs => nomatch hs
  | made hd _ _ ht hr => exact publish (.install ht hd hr)

theorem serve (cache : Cache Ty Data) (request : Request Ty) :
    Accounts describe request cache (cache.serve describe request).2 := by
  cases request with
  | compile type resolver => exact of_compiles (cache.compiles type (describe type) resolver)
  | install type s => exact of_installs (cache.installs type (describe type) s)

end Accounts

/-- What is kept after a run of calls was kept before it, or one of the calls made it. -/
theorem makes_of_after (cache : Cache Ty Data) (requests : List (Request Ty)) {type : Ty}
    {id : String} {shared : Shared (Data type)}
    (h : (cache.after describe requests).place type id = .filled shared) :
    cache.place type id = .filled shared ∨
      ∃ request ∈ requests, request.Makes describe type shared.converter := by
  induction requests generalizing cache with
  | nil => exact .inl h
  | cons request rest ih =>
    rcases ih (cache.serve describe request).2 h with hleft | ⟨later, hl, hmakes⟩
    · rcases Accounts.serve cache request type id shared hleft with hbefore | hmakes
      · exact .inl hbefore
      · exact .inr ⟨request, List.mem_cons_self, hmakes⟩
    · exact .inr ⟨later, List.mem_cons_of_mem _ hl, hmakes⟩

end Cache
end PropertyBinding
