import PropertyBinding.Cache
import PropertyBinding.Proofs.Planning

/-! # What a call of a cache does

`Compiles` and `Installs` list the ways in which a call can end: for each way, what the
cache held before, what the caller gets and what is left.  `Cache.compiles` and
`Cache.installs` say that there are no others, so that a property of all calls is a
case analysis over the ways and never looks into the calls themselves.

A `Request` is a call that is still to be made; a run serves one request after the
other (`Cache.after`, `Cache.answers`).  Where the types may tell something else each time
they are asked, an `Attempt` carries what they tell (`Cache.attempted`, `Cache.replies`).
-/
namespace PropertyBinding

variable {α Ty : Type} {Data : Ty → Type}

/-- A call of a cache that is to be made. -/
inductive Request (Ty : Type) where
  | compile (type : Ty) (resolver : Resolver)
  | install (type : Ty) (s : List Json.Symbol)

/-- A request, and what the types tell of their shape while it is served: a type may stop
at one time and answer at another. -/
structure Attempt (Ty : Type) (Data : Ty → Type) where
  describe : (type : Ty) → Description (Data type)
  request : Request Ty

/-- A converter that a cache handed out, with its type. -/
structure Handed (Data : Ty → Type) where
  type : Ty
  shared : Shared (Data type)

namespace Cache

variable [DecidableEq Ty] (describe : (type : Ty) → Description (Data type))

/-- Make a call; each type tells the same shape whenever it is asked. -/
def serve (cache : Cache Ty Data) :
    Request Ty → Except Fault (Handed Data) × Cache Ty Data
  | .compile type resolver =>
    let (result, cache) := cache.compile type (describe type) resolver
    (result.map (Handed.mk type), cache)
  | .install type s =>
    let (result, cache) := cache.install type (describe type) s
    (result.map (Handed.mk type), cache)

/-- What a run of calls leaves. -/
def after (cache : Cache Ty Data) : List (Request Ty) → Cache Ty Data
  | [] => cache
  | request :: rest => (cache.serve describe request).2.after rest

/-- What a run of calls answers, in order. -/
def answers (cache : Cache Ty Data) : List (Request Ty) → List (Except Fault (Handed Data))
  | [] => []
  | request :: rest =>
    (cache.serve describe request).1 :: (cache.serve describe request).2.answers rest

/-- Make an attempt. -/
def attempt (cache : Cache Ty Data) (attempt : Attempt Ty Data) :
    Except Fault (Handed Data) × Cache Ty Data :=
  cache.serve attempt.describe attempt.request

/-- What a run of attempts leaves. -/
def attempted (cache : Cache Ty Data) : List (Attempt Ty Data) → Cache Ty Data
  | [] => cache
  | attempt :: rest => (cache.attempt attempt).2.attempted rest

/-- What a run of attempts answers, in order. -/
def replies (cache : Cache Ty Data) : List (Attempt Ty Data) → List (Except Fault (Handed Data))
  | [] => []
  | attempt :: rest => (cache.attempt attempt).1 :: (cache.attempt attempt).2.replies rest

theorem install_of_decoded {cache : Cache Ty Data} {type : Ty}
    {description : Description (Data type)} {s : List Json.Symbol} {artifact : Artifact}
    (h : Artifact.ofSymbols s = .ok artifact) :
    cache.install type description s = cache.installArtifact type description artifact := by
  unfold install
  rw [h]

end Cache

theorem ofError_eq_ok_iff {x : Except Error α} {a : α} : Fault.ofError x = .ok a ↔ x = .ok a :=
  mapError_eq_ok_iff

theorem ofPanic_eq_ok_iff {x : Except Panic α} {a : α} : Fault.ofPanic x = .ok a ↔ x = .ok a :=
  mapError_eq_ok_iff

/-- A description is planned exactly if it tells a descriptor that is. -/
theorem Description.compile_eq_ok_iff {description : Description α} {name : String}
    {resolver : Resolver} {artifact : Artifact} :
    description.compile name resolver = .ok artifact ↔
      ∃ descriptor, description = .ok descriptor ∧
        descriptor.plan resolver name = .ok artifact := by
  unfold compile
  simp only [bind_eq_ok_iff, ofPanic_eq_ok_iff]

/-- What is linked is the realization of the artifact that the symbols hold. -/
theorem Description.link_eq_ok_iff {description : Description α} {s : List Json.Symbol}
    {converter : Converter α} :
    description.link s = .ok converter ↔
      ∃ descriptor artifact, description = .ok descriptor ∧
        Artifact.ofSymbols s = .ok artifact ∧ descriptor.realize artifact = .ok converter := by
  unfold link
  simp only [bind_eq_ok_iff, ofPanic_eq_ok_iff, ofError_eq_ok_iff, exists_and_left]

namespace Loader

variable {loader : Loader} {artifact : Artifact}

theorem define_eq_ok_iff {defined : Artifact} :
    (loader.define artifact).1 = .ok defined ↔
      defined = artifact ∧
        (loader.get? artifact.name = none ∨ loader.get? artifact.name = some artifact) := by
  unfold define
  cases hg : loader.get? artifact.name with
  | none => simp [eq_comm]
  | some held =>
    by_cases hs : held = artifact
    · simp [hs, eq_comm]
    · simp [hs]

/-- A refused definition leaves no trace. -/
theorem define_of_error {error : Error} (h : (loader.define artifact).1 = .error error) :
    (loader.define artifact).2 = loader := by
  unfold define at h ⊢
  split at h
  · split at h
    · cases h
    · rename_i hs
      rw [if_neg hs]
  · cases h

theorem define_of_get?_eq_none (h : loader.get? artifact.name = none) :
    loader.define artifact = (.ok artifact, ⟨loader.defined ++ [artifact]⟩) := by
  unfold define
  rw [h]

theorem define_of_get?_eq_some (h : loader.get? artifact.name = some artifact) :
    loader.define artifact = (.ok artifact, loader) := by
  unfold define
  rw [h]
  exact if_pos rfl

/-- A name that is taken by another artifact is refused. -/
theorem define_of_ne {held : Artifact} (h : loader.get? artifact.name = some held)
    (hne : held ≠ artifact) :
    loader.define artifact = (.error (.artifactConflict artifact.name), loader) := by
  unfold define
  rw [h]
  exact if_neg hne

end Loader

namespace Cache

/-- A kept converter agrees with a resolver exactly if the resolver plans the same
mapping, under the kept name or any other. -/
theorem agree_eq_ok_iff {description : Description α} {converter : Converter α}
    {resolver : Resolver} :
    agree description converter resolver = .ok () ↔
      ∃ planned, description.compile converter.name resolver = .ok planned ∧
        planned.sameMapping converter.artifact = true := by
  unfold agree
  rw [bind_eq_ok_iff]
  refine exists_congr fun planned => and_congr_right fun _ => ?_
  cases planned.sameMapping converter.artifact <;> simp [pure, Except.pure, throw, throwThe,
    MonadExceptOf.throw]

/-- A kept converter that maps otherwise than a resolver plans is a conflict. -/
theorem agree_of_differs {description : Description α} {converter : Converter α}
    {resolver : Resolver} {planned : Artifact}
    (h : description.compile converter.name resolver = .ok planned)
    (hd : planned.sameMapping converter.artifact = false) :
    agree description converter resolver =
      .error (.failed (.artifactConflict converter.name)) := by
  unfold agree
  rw [h]
  show (if planned.sameMapping converter.artifact = true then _ else _) = _
  rw [hd]
  rfl

/-- What a synthesis gives is planned for the type, realized for it, and defined. -/
theorem synthesize_eq_ok_iff {description : Description α} {resolver : Resolver}
    {loader after : Loader} {converter : Converter α} :
    synthesize description resolver loader = .ok (converter, after) ↔
      ∃ descriptor artifact, description = .ok descriptor ∧
        descriptor.plan resolver (Artifact.nameFor descriptor.typePath resolver.id) =
          .ok artifact ∧
        descriptor.realize artifact = .ok converter ∧
        loader.define artifact = (.ok artifact, after) := by
  unfold synthesize
  simp only [bind_eq_ok_iff, ofPanic_eq_ok_iff, ofError_eq_ok_iff]
  constructor
  · rintro ⟨descriptor, hd, artifact, hp, made, hr, defined, hdef, h⟩
    cases h
    -- the converter carries the planned artifact, so that is the one defined
    obtain ⟨-, -, -, -, -, hart⟩ := descriptor.realize_eq_ok_iff.mp hr
    rw [hart] at hdef ⊢
    have hsame := (Loader.define_eq_ok_iff.mp hdef).1
    exact ⟨descriptor, artifact, hd, hp, hr, Prod.ext (hdef.trans (by rw [hsame])) rfl⟩
  · rintro ⟨descriptor, artifact, hd, hp, hr, hdef⟩
    obtain ⟨-, -, -, -, -, hart⟩ := descriptor.realize_eq_ok_iff.mp hr
    refine ⟨descriptor, hd, artifact, hp, converter, hr, artifact, ?_, ?_⟩
    · rw [hart, hdef]
    · rw [hart, hdef]
      rfl

variable [DecidableEq Ty]

/-- A place that is not the one something was put into. -/
theorem place_put_of_ne_key {cache : Cache Ty Data} {type : Ty} {id : String}
    {content : Place (Data type)} (key : Ty × String) (h : key ≠ (type, id)) :
    (cache.put type id content).place key.1 key.2 = cache.place key.1 key.2 := by
  refine place_put_of_ne cache type id content ?_
  rintro ⟨rfl, rfl⟩
  exact h rfl

/-- A place is in use after something is put into one exactly if it was before or is that one. -/
theorem place_put_ne_empty_iff {cache : Cache Ty Data} {type : Ty} {id : String}
    {content : Place (Data type)} (hc : content ≠ .empty) (key : Ty × String) :
    (cache.put type id content).place key.1 key.2 ≠ .empty ↔
      cache.place key.1 key.2 ≠ .empty ∨ key = (type, id) := by
  by_cases hsame : key = (type, id)
  · subst hsame
    simp [hc]
  · rw [place_put_of_ne_key key hsame, or_iff_left hsame]

/-- All places but the one that something is put into stay as they are, so a converter that is
found was there, or is what was put. -/
theorem filled_of_put {P : (type : Ty) → String → Shared (Data type) → Prop}
    {cache : Cache Ty Data} {type : Ty} {id : String} {content : Place (Data type)}
    (h : ∀ shared, content = .filled shared → P type id shared) {other : Ty} {otherId : String}
    {shared : Shared (Data other)}
    (hs : (cache.put type id content).place other otherId = .filled shared) :
    cache.place other otherId = .filled shared ∨ P other otherId shared := by
  by_cases hsame : type = other ∧ id = otherId
  · obtain ⟨rfl, rfl⟩ := hsame
    rw [place_put_self] at hs
    exact .inr (h shared hs)
  · rw [place_put_of_ne cache type id content hsame] at hs
    exact .inl hs

/-- The ways in which a request for a converter ends. -/
inductive Compiles (cache : Cache Ty Data) (type : Ty) (description : Description (Data type))
    (resolver : Resolver) : Except Fault (Shared (Data type)) → Cache Ty Data → Prop
  | poisoned (h : cache.place type resolver.id = .poisoned) :
      Compiles cache type description resolver (.error (.failed poisonedError)) cache
  /-- The kept converter maps as the resolver does. -/
  | hit {shared : Shared (Data type)} (h : cache.place type resolver.id = .filled shared)
      (ha : agree description shared.converter resolver = .ok ()) :
      Compiles cache type description resolver (.ok shared) cache
  /-- The kept converter does not, or the resolver gave no plan to compare it with. -/
  | refused {shared : Shared (Data type)} {fault : Fault}
      (h : cache.place type resolver.id = .filled shared)
      (ha : agree description shared.converter resolver = .error fault) :
      Compiles cache type description resolver (.error fault)
        (cache.afterFault type resolver.id fault)
  /-- Nothing was kept, and a converter is built. -/
  | made {converter : Converter (Data type)} {loader : Loader}
      (h : cache.place type resolver.id = .empty)
      (hs : synthesize description resolver cache.loader = .ok (converter, loader)) :
      Compiles cache type description resolver (.ok ⟨cache.stamp, converter⟩)
        { (cache.publish type resolver.id converter).2 with
          loader := loader, syntheses := cache.syntheses + 1 }
  /-- Nothing was kept, and none can be built. -/
  | failed {fault : Fault} (h : cache.place type resolver.id = .empty)
      (hs : synthesize description resolver cache.loader = .error fault) :
      Compiles cache type description resolver (.error fault)
        (cache.afterFault type resolver.id fault)

/-- The ways in which an installation ends. -/
inductive Installs (cache : Cache Ty Data) (type : Ty) (description : Description (Data type))
    (s : List Json.Symbol) : Except Fault (Shared (Data type)) → Cache Ty Data → Prop
  | undecoded {error : Error} (hd : Artifact.ofSymbols s = .error error) :
      Installs cache type description s (.error (.failed error)) cache
  | poisoned {artifact : Artifact} (hd : Artifact.ofSymbols s = .ok artifact)
      (h : cache.place type artifact.resolver = .poisoned) :
      Installs cache type description s (.error (.failed poisonedError)) cache
  /-- The name of the artifact is taken by another one. -/
  | conflict {artifact : Artifact} {error : Error} (hd : Artifact.ofSymbols s = .ok artifact)
      (h : cache.place type artifact.resolver ≠ .poisoned)
      (hl : (cache.loader.define artifact).1 = .error error) :
      Installs cache type description s (.error (.failed error)) cache
  /-- A converter is there already. -/
  | kept {artifact : Artifact} {loader : Loader} {shared : Shared (Data type)}
      (hd : Artifact.ofSymbols s = .ok artifact)
      (h : cache.place type artifact.resolver = .filled shared)
      (hl : cache.loader.define artifact = (.ok artifact, loader)) :
      Installs cache type description s (.ok shared) { cache with loader }
  /-- The type ends without telling its shape. -/
  | panicked {artifact : Artifact} {loader : Loader} {stopped : Panic}
      (hd : Artifact.ofSymbols s = .ok artifact)
      (h : cache.place type artifact.resolver = .empty)
      (hl : cache.loader.define artifact = (.ok artifact, loader))
      (ht : description = .error stopped) :
      Installs cache type description s (.error .panicked)
        (Cache.put { cache with loader } type artifact.resolver .poisoned)
  /-- The artifact is defined by now, and does not fit the type. -/
  | misfit {artifact : Artifact} {loader : Loader} {descriptor : Descriptor (Data type)}
      {error : Error} (hd : Artifact.ofSymbols s = .ok artifact)
      (h : cache.place type artifact.resolver = .empty)
      (hl : cache.loader.define artifact = (.ok artifact, loader))
      (ht : description = .ok descriptor) (hr : descriptor.realize artifact = .error error) :
      Installs cache type description s (.error (.failed error)) { cache with loader }
  | made {artifact : Artifact} {loader : Loader} {descriptor : Descriptor (Data type)}
      {converter : Converter (Data type)} (hd : Artifact.ofSymbols s = .ok artifact)
      (h : cache.place type artifact.resolver = .empty)
      (hl : cache.loader.define artifact = (.ok artifact, loader))
      (ht : description = .ok descriptor) (hr : descriptor.realize artifact = .ok converter) :
      Installs cache type description s (.ok ⟨cache.stamp, converter⟩)
        (publish { cache with loader } type artifact.resolver converter).2

/-- A request for a converter ends in one of its ways. -/
theorem compiles (cache : Cache Ty Data) (type : Ty) (description : Description (Data type))
    (resolver : Resolver) :
    Compiles cache type description resolver (cache.compile type description resolver).1
      (cache.compile type description resolver).2 := by
  unfold compile
  cases h : cache.place type resolver.id with
  | poisoned => exact .poisoned h
  | filled shared =>
    cases ha : agree description shared.converter resolver with
    | ok _ => simpa only [ha] using Compiles.hit h ha
    | error fault => simpa only [ha] using Compiles.refused h ha
  | empty =>
    cases hs : synthesize description resolver cache.loader with
    | ok made => exact .made h hs
    | error fault => exact .failed h hs

/-- An installation ends in one of its ways. -/
theorem installs (cache : Cache Ty Data) (type : Ty) (description : Description (Data type))
    (s : List Json.Symbol) :
    Installs cache type description s (cache.install type description s).1
      (cache.install type description s).2 := by
  unfold install
  cases hd : Artifact.ofSymbols s with
  | error error => exact .undecoded hd
  | ok artifact =>
    simp only [installArtifact]
    cases hl : cache.loader.define artifact with
    | mk result loader =>
      cases result with
      | error error =>
        have hr : (cache.loader.define artifact).1 = .error error := by rw [hl]
        cases h : cache.place type artifact.resolver with
        | poisoned => exact .poisoned hd h
        | filled shared => exact .conflict hd (by simp [h]) hr
        | empty => exact .conflict hd (by simp [h]) hr
      | ok defined =>
        -- the loader answers with an equal artifact, and the rest goes by that one
        have hsame : defined = artifact :=
          (Loader.define_eq_ok_iff.mp (by rw [hl])).1
        subst hsame
        cases h : cache.place type defined.resolver with
        | poisoned => exact .poisoned hd h
        | filled shared => exact .kept hd h hl
        | empty =>
          cases description with
          | error stopped => exact .panicked hd h hl rfl
          | ok descriptor =>
            simp only
            cases hr : descriptor.realize defined with
            | error error => exact .misfit hd h hl rfl hr
            | ok converter => exact .made hd h hl rfl hr

end Cache
end PropertyBinding
