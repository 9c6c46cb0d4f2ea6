import Mathlib.Logic.Function.Basic
import PropertyBinding.Erased
import PropertyBinding.Proofs.CacheCalls

/-! # Callers at once

Several callers share one cache.  Each makes one call, in atomic steps: it finds or creates
the entry of its key under the lock of the map, takes the lock of the entry when that is
free, works behind it, and lets go of it.  A definition in the loader is one step of its own.
The steps of different callers come in any order.

A converter that is published is recorded with its key (`Configuration.published`), and so is
a synthesis that is counted (`Configuration.counted`); no step reads these records.
What a caller does behind its lock without touching what others see is `Work`; it is made of
the parts of which the calls of a cache are made (`Cache.synthesize_eq_prepare`).
-/
namespace PropertyBinding

variable {α Caller Ty : Type} {Data : Ty → Type}

/-- The place that a call is for, unless its text is no artifact. -/
def Request.key? : Request Ty → Option (Ty × String)
  | .compile type resolver => some (type, resolver.id)
  | .install type s =>
    match Artifact.ofSymbols s with
    | .ok artifact => some (type, artifact.resolver)
    | .error _ => none

def Request.type : Request Ty → Ty
  | .compile type _ => type
  | .install type _ => type

theorem Request.type_of_key? {request : Request Ty} {key : Ty × String}
    (h : request.key? = some key) : key.1 = request.type := by
  cases request with
  | compile type resolver =>
    cases h
    rfl
  | install type s =>
    simp only [key?] at h
    split at h
    · cases h
      rfl
    · cases h

namespace Cache

/-- A converter that is planned and built, its artifact not yet defined. -/
def prepare (description : Description α) (resolver : Resolver) : Except Fault (Converter α) := do
  let descriptor ← Fault.ofPanic description
  let artifact ← descriptor.plan resolver (Artifact.nameFor descriptor.typePath resolver.id)
  Fault.ofError (descriptor.realize artifact)

/-- A synthesis prepares a converter and then defines its artifact. -/
theorem synthesize_eq_prepare (description : Description α) (resolver : Resolver)
    (loader : Loader) :
    synthesize description resolver loader = (do
      let converter ← prepare description resolver
      let (defined, loader) := loader.define converter.artifact
      let _ ← Fault.ofError defined
      return (converter, loader)) := by
  unfold synthesize prepare
  simp only [bind_assoc]

variable {description : Description α} {resolver : Resolver} {loader : Loader}

theorem prepare_of_synthesize_eq_ok {converter : Converter α} {after : Loader}
    (h : synthesize description resolver loader = .ok (converter, after)) :
    prepare description resolver = .ok converter ∧
      ∃ defined, loader.define converter.artifact = (.ok defined, after) := by
  rw [synthesize_eq_prepare, bind_eq_ok_iff] at h
  obtain ⟨made, hp, h⟩ := h
  cases hl : loader.define made.artifact with
  | mk result rest =>
    rw [hl] at h
    cases result with
    | error error => cases h
    | ok defined =>
      cases h
      exact ⟨hp, defined, hl⟩

theorem prepare_of_synthesize_eq_error {fault : Fault}
    (h : synthesize description resolver loader = .error fault) :
    prepare description resolver = .error fault ∨
      ∃ converter error, prepare description resolver = .ok converter ∧
        loader.define converter.artifact = (.error error, loader) ∧ fault = .failed error := by
  rw [synthesize_eq_prepare] at h
  cases hp : prepare description resolver with
  | error stopped =>
    rw [hp] at h
    cases h
    exact .inl rfl
  | ok made =>
    rw [hp] at h
    -- what was built is only refused by the loader, which then stays as it is
    refine .inr ⟨made, ?_⟩
    cases hl : loader.define made.artifact with
    | mk result rest =>
      change (do
        let (defined, loader) := loader.define made.artifact
        let _ ← Fault.ofError defined
        return (made, loader)) = Except.error fault at h
      rw [hl] at h
      cases result with
      | ok defined => cases h
      | error error =>
        cases h
        have hkept : (loader.define made.artifact).2 = loader :=
          Loader.define_of_error (by rw [hl])
        rw [hl] at hkept
        exact ⟨error, rfl, Prod.ext rfl hkept, rfl⟩

end Cache

namespace Interleaving

/-- A lock, and the place that it guards. -/
structure Entry (Caller : Type) (Data : Ty → Type) where
  owner : Option Caller := none
  content : Option (Handed Data) := none
  poisoned : Bool := false

/-- How far a caller has come behind a lock. -/
inductive Stage (Data : Ty → Type) where
  | entered
  /-- A converter is planned and built. -/
  | built (made : AnyConverter Data)
  /-- Its artifact is defined. -/
  | defined (made : AnyConverter Data)
  /-- The artifact to install is defined. -/
  | registered (artifact : Artifact)
  /-- A converter is to be published. -/
  | ready (made : AnyConverter Data)
  | leaving (result : Except Fault (Handed Data))

/-- Where a caller stands. -/
inductive Position (Data : Ty → Type) where
  | start
  | waiting (entry : Nat)
  | inside (entry : Nat) (stage : Stage Data)
  | answered (result : Except Fault (Handed Data))

structure Configuration (Caller Ty : Type) (Data : Ty → Type) where
  /-- The entries of the keys that were asked for. -/
  entries : Ty × String → Option Nat
  entry : Nat → Entry Caller Data
  /-- The number of entries that were created. -/
  allocated : Nat
  loader : Loader
  syntheses : Nat
  stamp : Nat
  position : Caller → Position Data
  /-- The converters that were published, in order. -/
  published : List ((Ty × String) × Handed Data)
  /-- The keys of the syntheses that were counted, in order. -/
  counted : List (Ty × String)

/-- Nobody has called yet. -/
def initial : Configuration Caller Ty Data where
  entries _ := none
  entry _ := {}
  allocated := 0
  loader := {}
  syntheses := 0
  stamp := 0
  position _ := .start
  published := []
  counted := []

/-- What a caller does behind a lock, other than to count and to publish: it sees the content
of its entry, and changes nothing but the loader. -/
inductive Work (describe : (type : Ty) → Description (Data type)) (request : Request Ty)
    (content : Option (Handed Data)) (loader : Loader) :
    Stage Data → Loader → Stage Data → Prop
  | hit {type : Ty} {resolver : Resolver} {shared : Shared (Data type)}
      (hr : request = .compile type resolver) (hc : content = some ⟨type, shared⟩)
      (ha : Cache.agree (describe type) shared.converter resolver = .ok ()) :
      Work describe request content loader .entered loader (.leaving (.ok ⟨type, shared⟩))
  | refused {type : Ty} {resolver : Resolver} {shared : Shared (Data type)} {fault : Fault}
      (hr : request = .compile type resolver) (hc : content = some ⟨type, shared⟩)
      (ha : Cache.agree (describe type) shared.converter resolver = .error fault) :
      Work describe request content loader .entered loader (.leaving (.error fault))
  | failed {type : Ty} {resolver : Resolver} {fault : Fault}
      (hr : request = .compile type resolver) (hc : content = none)
      (hp : Cache.prepare (describe type) resolver = .error fault) :
      Work describe request content loader .entered loader (.leaving (.error fault))
  | build {type : Ty} {resolver : Resolver} {converter : Converter (Data type)}
      (hr : request = .compile type resolver) (hc : content = none)
      (hp : Cache.prepare (describe type) resolver = .ok converter) :
      Work describe request content loader .entered loader (.built ⟨type, converter⟩)
  | define {made : AnyConverter Data} {defined : Artifact} {after : Loader}
      (hl : loader.define made.converter.artifact = (.ok defined, after)) :
      Work describe request content loader (.built made) after (.defined made)
  | conflict {made : AnyConverter Data} {error : Error} {after : Loader}
      (hl : loader.define made.converter.artifact = (.error error, after)) :
      Work describe request content loader (.built made) after (.leaving (.error (.failed error)))
  | register {type : Ty} {s : List Json.Symbol} {artifact defined : Artifact} {after : Loader}
      (hr : request = .install type s) (hd : Artifact.ofSymbols s = .ok artifact)
      (hl : loader.define artifact = (.ok defined, after)) :
      Work describe request content loader .entered after (.registered defined)
  | taken {type : Ty} {s : List Json.Symbol} {artifact : Artifact} {error : Error}
      {after : Loader} (hr : request = .install type s) (hd : Artifact.ofSymbols s = .ok artifact)
      (hl : loader.define artifact = (.error error, after)) :
      Work describe request content loader .entered after (.leaving (.error (.failed error)))
  | kept {type : Ty} {s : List Json.Symbol} {artifact : Artifact} {shared : Shared (Data type)}
      (hr : request = .install type s) (hc : content = some ⟨type, shared⟩) :
      Work describe request content loader (.registered artifact) loader
        (.leaving (.ok ⟨type, shared⟩))
  | panicked {type : Ty} {s : List Json.Symbol} {artifact : Artifact} {stopped : Panic}
      (hr : request = .install type s) (hc : content = none)
      (ht : describe type = .error stopped) :
      Work describe request content loader (.registered artifact) loader
        (.leaving (.error .panicked))
  | misfit {type : Ty} {s : List Json.Symbol} {artifact : Artifact}
      {descriptor : Descriptor (Data type)} {error : Error}
      (hr : request = .install type s) (hc : content = none)
      (ht : describe type = .ok descriptor) (hm : descriptor.realize artifact = .error error) :
      Work describe request content loader (.registered artifact) loader
        (.leaving (.error (.failed error)))
  | realize {type : Ty} {s : List Json.Symbol} {artifact : Artifact}
      {descriptor : Descriptor (Data type)} {converter : Converter (Data type)}
      (hr : request = .install type s) (hc : content = none)
      (ht : describe type = .ok descriptor) (hm : descriptor.realize artifact = .ok converter) :
      Work describe request content loader (.registered artifact) loader
        (.ready ⟨type, converter⟩)
  /-- The content is of another type than the one asked for, which never happens. -/
  | foreign {handed : Handed Data} {stage : Stage Data} (expected : String)
      (hs : (stage = .entered ∧ ∃ type resolver, request = .compile type resolver) ∨
        ∃ artifact, stage = .registered artifact)
      (hc : content = some handed) (ht : handed.type ≠ request.type) :
      Work describe request content loader stage loader
        (.leaving (.error (.failed (.foreignInstance expected))))

namespace Configuration

variable [DecidableEq Caller]

/-- A caller goes on to another position. -/
def move (c : Configuration Caller Ty Data) (p : Caller) (position : Position Data) :
    Configuration Caller Ty Data :=
  { c with position := Function.update c.position p position }

/-- Replace an entry. -/
def setEntry (c : Configuration Caller Ty Data) (n : Nat) (entry : Entry Caller Data) :
    Configuration Caller Ty Data :=
  { c with entry := Function.update c.entry n entry }

end Configuration

/-- Whether a call ends in supplied code that does not answer. -/
def stopped : Except Fault (Handed Data) → Bool
  | .error .panicked => true
  | _ => false

/-- The converter of a caller with the next stamp. -/
def Configuration.handed (c : Configuration Caller Ty Data) (made : AnyConverter Data) :
    Handed Data :=
  ⟨made.type, ⟨c.stamp, made.converter⟩⟩

section

variable [DecidableEq Caller] [DecidableEq Ty] (ask : Caller → Request Ty)
  (describe : (type : Ty) → Description (Data type))

/-- One atomic step of a caller. -/
inductive Step (p : Caller) (c : Configuration Caller Ty Data) :
    Configuration Caller Ty Data → Prop
  | undecoded {type : Ty} {s : List Json.Symbol} {error : Error} (h : c.position p = .start)
      (hr : ask p = .install type s) (hd : Artifact.ofSymbols s = .error error) :
      Step p c (c.move p (.answered (.error (.failed error))))
  | find {key : Ty × String} {n : Nat} (h : c.position p = .start)
      (hk : (ask p).key? = some key) (hn : c.entries key = some n) :
      Step p c (c.move p (.waiting n))
  | create {key : Ty × String} (h : c.position p = .start) (hk : (ask p).key? = some key)
      (hn : c.entries key = none) :
      Step p c
        (({ c with
            entries := Function.update c.entries key (some c.allocated)
            allocated := c.allocated + 1 }.setEntry c.allocated {}).move p (.waiting c.allocated))
  | acquire {n : Nat} (h : c.position p = .waiting n) (ho : (c.entry n).owner = none)
      (hp : (c.entry n).poisoned = false) :
      Step p c
        ((c.setEntry n { c.entry n with owner := some p }).move p (.inside n .entered))
  /-- The lock is free, but somebody stopped behind it. -/
  | poisoned {n : Nat} (h : c.position p = .waiting n) (ho : (c.entry n).owner = none)
      (hp : (c.entry n).poisoned = true) :
      Step p c (c.move p (.answered (.error (.failed Cache.poisonedError))))
  | work {n : Nat} {stage next : Stage Data} {loader : Loader}
      (h : c.position p = .inside n stage)
      (hw : Work describe (ask p) (c.entry n).content c.loader stage loader next) :
      Step p c ({ c with loader }.move p (.inside n next))
  | count {n : Nat} {made : AnyConverter Data} {key : Ty × String}
      (h : c.position p = .inside n (.defined made)) (hk : (ask p).key? = some key) :
      Step p c
        ({ c with syntheses := c.syntheses + 1, counted := c.counted ++ [key] }.move p
          (.inside n (.ready made)))
  | publish {n : Nat} {made : AnyConverter Data} {key : Ty × String}
      (h : c.position p = .inside n (.ready made)) (hk : (ask p).key? = some key) :
      Step p c
        (({ c with
            stamp := c.stamp + 1
            published := c.published ++ [(key, c.handed made)] }.setEntry n
          { c.entry n with content := some (c.handed made) }).move p
          (.inside n (.leaving (.ok (c.handed made)))))
  | release {n : Nat} {result : Except Fault (Handed Data)}
      (h : c.position p = .inside n (.leaving result)) :
      Step p c
        ((c.setEntry n { c.entry n with
            owner := none, poisoned := (c.entry n).poisoned || stopped result }).move p
          (.answered result))

/-- Any number of steps of any callers. -/
inductive Run (c : Configuration Caller Ty Data) : Configuration Caller Ty Data → Prop
  | refl : Run c c
  | tail {d e : Configuration Caller Ty Data} (p : Caller) (hr : Run c d)
      (hs : Step ask describe p d e) : Run c e

end

end Interleaving
end PropertyBinding
