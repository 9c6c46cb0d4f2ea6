import PropertyBinding.Proofs.CacheCalls

/-! # What a failed installation leaves behind

An installation defines its artifact first and only then looks whether the artifact fits
the type.  So one way of failing has a trace: the artifact is new to the loader, its
place is empty, and it does not fit (`Cache.Strands`).  It then stays defined without
a converter, and its name is taken for good, whatever calls follow
(`Cache.get?_after`).  A failure of any other way changes nothing
(`Cache.failed_install_unchanged_iff`).
-/
namespace PropertyBinding

variable {Ty : Type} {Data : Ty → Type}

namespace Loader

/-- A definition changes no name that is defined. -/
theorem get?_of_define {loader after : Loader} {name : String} {held artifact : Artifact}
    (h : loader.get? name = some held) (hd : loader.define artifact = (.ok artifact, after)) :
    after.get? name = some held := by
  have hkept := loader.get?_define artifact name
  rw [hd, h] at hkept
  exact hkept

theorem get?_append_self {loader : Loader} {artifact : Artifact}
    (h : loader.get? artifact.name = none) :
    (⟨loader.defined ++ [artifact]⟩ : Loader).get? artifact.name = some artifact := by
  have hd : (loader.define artifact).2.get? artifact.name = some artifact := by
    rw [get?_define, h]
    exact if_pos rfl
  rw [define_of_get?_eq_none h] at hd
  exact hd

end Loader

namespace Cache

variable [DecidableEq Ty]

/-- The symbols hold an artifact that an installation defines and then finds not to fit. -/
structure Strands (cache : Cache Ty Data) (type : Ty) (description : Description (Data type))
    (s : List Json.Symbol) (artifact : Artifact) : Prop where
  decoded : Artifact.ofSymbols s = .ok artifact
  vacant : cache.place type artifact.resolver = .empty
  /-- The name is not defined yet. -/
  unnamed : cache.loader.get? artifact.name = none
  unfit : ∃ descriptor error, description = .ok descriptor ∧
    descriptor.realize artifact = .error error

/-- Two caches answer every run of calls alike, and look up every name alike after it. -/
def AlikeLater (describe : (type : Ty) → Description (Data type)) (a b : Cache Ty Data) : Prop :=
  ∀ requests, a.answers describe requests = b.answers describe requests ∧
    ∀ name, (a.after describe requests).loader.get? name =
      (b.after describe requests).loader.get? name

variable {cache : Cache Ty Data} {type : Ty} {description : Description (Data type)}
  {s : List Json.Symbol} {artifact : Artifact}

/-- An installation that strands an artifact fails, and leaves it defined. -/
theorem Strands.install (h : cache.Strands type description s artifact) :
    (∃ error, (cache.install type description s).1 = .error (.failed error)) ∧
    (cache.install type description s).2 =
      { cache with loader := ⟨cache.loader.defined ++ [artifact]⟩ } := by
  obtain ⟨descriptor, error, rfl, hr⟩ := h.unfit
  rw [install_of_decoded h.decoded]
  simp only [installArtifact, h.vacant, Loader.define_of_get?_eq_none h.unnamed, hr]
  exact ⟨⟨error, rfl⟩, trivial⟩

/-- A stranded artifact shows in the loader at once. -/
theorem Strands.get?_left (h : cache.Strands type description s artifact) :
    (cache.install type description s).2.loader.get? artifact.name = some artifact := by
  rw [h.install.2]
  exact Loader.get?_append_self h.unnamed

/-- There is no other way to fail with a trace. -/
theorem install_of_failed {error : Error} {left : Cache Ty Data}
    (h : Installs cache type description s (.error (.failed error)) left) :
    left = cache ∨ ∃ artifact, cache.Strands type description s artifact := by
  cases h with
  | undecoded _ => exact .inl rfl
  | poisoned _ _ => exact .inl rfl
  | conflict _ _ _ => exact .inl rfl
  | @misfit artifact loader descriptor _ hd hv hl ht hr =>
    cases hg : cache.loader.get? artifact.name with
    | none => exact .inr ⟨artifact, hd, hv, hg, descriptor, error, ht, hr⟩
    | some held =>
      -- the very artifact was defined before, so to define it is to do nothing
      have hdefined : (cache.loader.define artifact).1 = .ok artifact := by rw [hl]
      have hheld : held = artifact := by
        rcases (Loader.define_eq_ok_iff.mp hdefined).2 with hnone | hsome
        · rw [hnone] at hg
          cases hg
        · exact Option.some.inj (hg.symm.trans hsome)
      subst hheld
      rw [Loader.define_of_get?_eq_some hg] at hl
      cases hl
      exact .inl rfl

/-- An artifact of a taken name is refused, unless its place is poisoned. -/
theorem install_of_taken {held : Artifact} (hd : Artifact.ofSymbols s = .ok artifact)
    (hp : cache.place type artifact.resolver ≠ .poisoned)
    (hg : cache.loader.get? artifact.name = some held) (hne : held ≠ artifact) :
    cache.install type description s =
      (.error (.failed (.artifactConflict artifact.name)), cache) := by
  rw [install_of_decoded hd]
  simp only [installArtifact, Loader.define_of_ne hg hne]

/-- A request for a converter defines a name at most, and changes none. -/
theorem get?_of_compiles {name : String} {held : Artifact} {resolver : Resolver}
    {result : Except Fault (Shared (Data type))} {left : Cache Ty Data}
    (h : cache.loader.get? name = some held)
    (hc : Compiles cache type description resolver result left) :
    left.loader.get? name = some held := by
  have hfault : ∀ fault, (cache.afterFault type resolver.id fault).loader.get? name =
      some held := by
    intro fault
    cases fault <;> exact h
  cases hc with
  | poisoned _ => exact h
  | hit _ _ => exact h
  | refused _ _ => exact hfault _
  | failed _ _ => exact hfault _
  | made _ hs =>
    obtain ⟨_, artifact, -, -, -, hl⟩ := synthesize_eq_ok_iff.mp hs
    exact Loader.get?_of_define h hl

/-- An installation defines a name at most, and changes none. -/
theorem get?_of_installs {name : String} {held : Artifact}
    {result : Except Fault (Shared (Data type))} {left : Cache Ty Data}
    (h : cache.loader.get? name = some held)
    (hi : Installs cache type description s result left) :
    left.loader.get? name = some held := by
  cases hi with
  | undecoded _ => exact h
  | poisoned _ _ => exact h
  | conflict _ _ _ => exact h
  | kept _ _ hl => exact Loader.get?_of_define h hl
  | panicked _ _ hl _ => exact Loader.get?_of_define h hl
  | misfit _ _ hl _ _ => exact Loader.get?_of_define h hl
  | made _ _ hl _ _ => exact Loader.get?_of_define h hl

/-- A name that is defined stays so, whatever calls follow. -/
theorem get?_after (describe : (type : Ty) → Description (Data type)) {name : String}
    {held : Artifact} (h : cache.loader.get? name = some held) (requests : List (Request Ty)) :
    (cache.after describe requests).loader.get? name = some held := by
  induction requests generalizing cache with
  | nil => exact h
  | cons request rest ih =>
    refine ih ?_
    cases request with
    | compile type resolver =>
      exact get?_of_compiles h (cache.compiles type (describe type) resolver)
    | install type s => exact get?_of_installs h (cache.installs type (describe type) s)

/-- **A failed installation changes nothing, or strands its artifact.**  The places and the
number of syntheses are those from before; the cache is the one from before, and answers
every later call and lookup as it would have, exactly if no artifact was stranded.  The name
of a stranded artifact is refused to every other artifact from then on. -/
theorem failed_install_unchanged_iff (describe : (type : Ty) → Description (Data type))
    (cache : Cache Ty Data) (type : Ty) (s : List Json.Symbol) (error : Error)
    (h : (cache.install type (describe type) s).1 = .error (.failed error)) :
    let left := (cache.install type (describe type) s).2
    left.place = cache.place ∧ left.keys = cache.keys ∧ left.syntheses = cache.syntheses ∧
    (left = cache ↔ ¬∃ artifact, cache.Strands type (describe type) s artifact) ∧
    (AlikeLater describe left cache ↔
      ¬∃ artifact, cache.Strands type (describe type) s artifact) ∧
    ∀ artifact, cache.Strands type (describe type) s artifact →
      ∀ requests other otherType symbols, other.name = artifact.name → other ≠ artifact →
        Artifact.ofSymbols symbols = .ok other →
        (left.after describe requests).place otherType other.resolver ≠ .poisoned →
        ((left.after describe requests).install otherType (describe otherType) symbols).1 =
          .error (.failed (.artifactConflict artifact.name)) := by
  intro left
  have hways := cache.installs type (describe type) s
  rw [h] at hways
  have hleft : left = cache ∨ ∃ artifact, cache.Strands type (describe type) s artifact :=
    install_of_failed hways
  have hkept : left.place = cache.place ∧ left.keys = cache.keys ∧
      left.syntheses = cache.syntheses := by
    rcases hleft with hsame | ⟨artifact, hs⟩
    · rw [hsame]
      exact ⟨rfl, rfl, rfl⟩
    · have hstranded : left = { cache with loader := ⟨cache.loader.defined ++ [artifact]⟩ } :=
        hs.install.2
      rw [hstranded]
      exact ⟨rfl, rfl, rfl⟩
  -- a stranded artifact is defined in one of the two loaders only, which tells them apart
  refine ⟨hkept.1, hkept.2.1, hkept.2.2, ⟨?_, hleft.resolve_right⟩, ⟨?_, ?_⟩, ?_⟩
  · rintro hsame ⟨artifact, hs⟩
    have hget : left.loader.get? artifact.name = some artifact := hs.get?_left
    rw [hsame, hs.unnamed] at hget
    cases hget
  · rintro hlater ⟨artifact, hs⟩
    have hget : left.loader.get? artifact.name = cache.loader.get? artifact.name :=
      -- the run without calls is enough
      (hlater []).2 artifact.name
    have hshows : left.loader.get? artifact.name = some artifact := hs.get?_left
    rw [hshows, hs.unnamed] at hget
    cases hget
  · intro hnone requests
    rw [hleft.resolve_right hnone]
    exact ⟨rfl, fun _ => rfl⟩
  · intro artifact hs requests other otherType symbols hname hne hd hp
    have hget : (left.after describe requests).loader.get? other.name = some artifact := by
      rw [hname]
      exact get?_after describe hs.get?_left requests
    rw [install_of_taken hd hp hget hne.symm, hname]

section Count

/-- A type of counts with one member. -/
def count : Unit → Description Int32 := fun _ =>
  .ok ⟨"Count", "Count", [.field "n" (.scalar .i32) id fun _ n => n], []⟩

/-- An artifact for counts that reads the member at a place. -/
def countArtifact (place : Nat) : Artifact where
  name := "Count#1"
  typePath := "Count"
  resolver := Resolver.defaultId
  constructor := none
  fill := []
  extract := [⟨place, "n", "n", .field, .scalar .i32, false⟩]

/-- Its text, for the digits of the place. -/
def countText (place : String) : List Json.Symbol :=
  Json.symbolsOfText
    ("[\"Count#1\",\"Count\",\"default\",null,[],[[" ++ place ++
      ",\"n\",\"n\",\"field\",\"i32\"]]]")

theorem ofSymbols_countText :
    Artifact.ofSymbols (countText "0") = .ok (countArtifact 0) ∧
      Artifact.ofSymbols (countText "3") = .ok (countArtifact 3) := by
  decide +kernel

/-- There is no member at place 3. -/
theorem strands_countText :
    (empty : Cache Unit fun _ => Int32).Strands () (count ()) (countText "3") (countArtifact 3) :=
  ⟨ofSymbols_countText.2, rfl, rfl, _, _, rfl, rfl⟩

/-- The misplaced artifact is refused, and is defined by now. -/
theorem failed_install_unchanged_iff_misplaced :
    let cache := (empty : Cache Unit fun _ => Int32)
    let left := (cache.install () (count ()) (countText "3")).2
    (∃ error, (cache.install () (count ()) (countText "3")).1 = .error (.failed error)) ∧
    left.place = cache.place ∧ left.syntheses = cache.syntheses ∧
    left ≠ cache ∧ ¬AlikeLater count left cache := by
  intro cache left
  obtain ⟨error, herror⟩ := strands_countText.install.1
  obtain ⟨hplace, -, hsyntheses, hsame, hlater, -⟩ :=
    failed_install_unchanged_iff count cache () (countText "3") error herror
  exact ⟨⟨error, herror⟩, hplace, hsyntheses, fun h => hsame.mp h ⟨_, strands_countText⟩,
    fun h => hlater.mp h ⟨_, strands_countText⟩⟩

/-- A refused artifact blocks its name: the correct one is accepted by the cache as it was,
and is a conflict afterwards. -/
theorem failed_install_blocks_name :
    let cache := (empty : Cache Unit fun _ => Int32)
    let left := (cache.install () (count ()) (countText "3")).2
    (cache.install () (count ()) (countText "3")).1 =
      .error (.failed (.artifactMismatch "Count#1" "Count" "no member #3 ('n')")) ∧
    cache.loader.get? "Count#1" = none ∧
    left.loader.get? "Count#1" = some (countArtifact 3) ∧
    (∃ shared, (cache.install () (count ()) (countText "0")).1 = .ok shared) ∧
    (left.install () (count ()) (countText "0")).1 =
      .error (.failed (.artifactConflict "Count#1")) := by
  intro cache left
  have hleft : left = { cache with loader := ⟨[countArtifact 3]⟩ } := strands_countText.install.2
  refine ⟨?_, rfl, ?_, ?_, ?_⟩
  · rw [install_of_decoded ofSymbols_countText.2]
    rfl
  · rw [hleft]
    rfl
  · rw [install_of_decoded ofSymbols_countText.1]
    exact ⟨_, rfl⟩
  · rw [hleft, install_of_decoded ofSymbols_countText.1]
    rfl

end Count

end Cache
end PropertyBinding
