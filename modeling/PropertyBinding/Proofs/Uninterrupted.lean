import Mathlib.Logic.Relation
import PropertyBinding.Proofs.OneConverter

/-! # A call that nobody interrupts

The atomic steps are those of which the calls of a cache are made: a caller that steps
alone, while all locks are free, answers what the call of the cache answers, and leaves the
entries, the loader and the counts as the call leaves those of the cache (`uninterrupted`).
`Configuration.Shows` compares the two.

`Behind` is where such a caller stands between its first and its last step: it owns one lock,
and the configuration shows what the call has made of the cache so far.
-/
namespace PropertyBinding
namespace Interleaving

variable {Caller Ty : Type} {Data : Ty → Type}

/-! ## Configurations and caches -/

/-- What an entry holds for its type. -/
inductive Entry.Shows (entry : Entry Caller Data) (type : Ty) : Place (Data type) → Prop
  | empty (hp : entry.poisoned = false) (hc : entry.content = none) : Shows entry type .empty
  | filled {shared : Shared (Data type)} (hp : entry.poisoned = false)
      (hc : entry.content = some ⟨type, shared⟩) : Shows entry type (.filled shared)
  | poisoned (hp : entry.poisoned = true) : Shows entry type .poisoned

theorem Entry.Shows.congr {entry other : Entry Caller Data} {type : Ty}
    {place : Place (Data type)} (h : entry.Shows type place)
    (hp : other.poisoned = entry.poisoned) (hc : other.content = entry.content) :
    other.Shows type place := by
  cases h with
  | empty hp' hc' => exact .empty (hp.trans hp') (hc.trans hc')
  | filled hp' hc' => exact .filled (hp.trans hp') (hc.trans hc')
  | poisoned hp' => exact .poisoned (hp.trans hp')

/-- A configuration holds what a cache holds. -/
structure Configuration.Shows (c : Configuration Caller Ty Data) (cache : Cache Ty Data) :
    Prop where
  unknown : ∀ type id, c.entries (type, id) = none → cache.place type id = .empty
  known : ∀ type id n, c.entries (type, id) = some n →
    (c.entry n).Shows type (cache.place type id)
  loader : c.loader = cache.loader
  syntheses : c.syntheses = cache.syntheses
  stamp : c.stamp = cache.stamp

theorem shows_initial : (initial : Configuration Caller Ty Data).Shows Cache.empty where
  unknown _ _ _ := rfl
  known _ _ _ h := nomatch h
  loader := rfl
  syntheses := rfl
  stamp := rfl

namespace Configuration.Shows

variable {c : Configuration Caller Ty Data} {cache : Cache Ty Data}

theorem move [DecidableEq Caller] (h : c.Shows cache) (p : Caller) (position : Position Data) :
    (c.move p position).Shows cache :=
  ⟨h.unknown, h.known, h.loader, h.syntheses, h.stamp⟩

theorem with_loader (h : c.Shows cache) (loader : Loader) :
    ({ c with loader } : Configuration Caller Ty Data).Shows { cache with loader } :=
  ⟨h.unknown, h.known, rfl, h.syntheses, h.stamp⟩

theorem count (h : c.Shows cache) (counted : List (Ty × String)) :
    ({ c with syntheses := c.syntheses + 1, counted } : Configuration Caller Ty Data).Shows
      { cache with syntheses := cache.syntheses + 1 } :=
  ⟨h.unknown, h.known, h.loader, congrArg (· + 1) h.syntheses, h.stamp⟩

theorem next_stamp (h : c.Shows cache) (published : List ((Ty × String) × Handed Data)) :
    ({ c with stamp := c.stamp + 1, published } : Configuration Caller Ty Data).Shows
      { cache with stamp := cache.stamp + 1 } :=
  ⟨h.unknown, h.known, h.loader, h.syntheses, congrArg (· + 1) h.stamp⟩

/-- An entry may change its lock. -/
theorem setEntry (h : c.Shows cache) {n : Nat} {entry : Entry Caller Data}
    (hp : entry.poisoned = (c.entry n).poisoned) (hc : entry.content = (c.entry n).content) :
    (c.setEntry n entry).Shows cache := by
  refine ⟨h.unknown, ?_, h.loader, h.syntheses, h.stamp⟩
  intro type id m hm
  show (Function.update c.entry n entry m).Shows type (cache.place type id)
  by_cases hmn : m = n
  · subst hmn
    rw [Function.update_self]
    exact (h.known type id m hm).congr hp hc
  · rw [Function.update_of_ne hmn]
    exact h.known type id m hm

variable [DecidableEq Ty]

/-- To change an entry is to change one place of the cache. -/
theorem put {ask : Caller → Request Ty} (h : c.Shows cache) (hv : Valid ask c) {type : Ty}
    {id : String} {n : Nat} (hn : c.entries (type, id) = some n) {entry : Entry Caller Data}
    {content : Place (Data type)} (he : entry.Shows type content) :
    (c.setEntry n entry).Shows (cache.put type id content) := by
  refine ⟨?_, ?_, h.loader, h.syntheses, h.stamp⟩
  · intro other otherId hnone
    have hdiffers : ¬(type = other ∧ id = otherId) := by
      rintro ⟨rfl, rfl⟩
      cases hn.symm.trans hnone
    rw [Cache.place_put_of_ne cache type id content hdiffers]
    exact h.unknown other otherId hnone
  · intro other otherId m hm
    show (Function.update c.entry n entry m).Shows other ((cache.put type id content).place _ _)
    by_cases hsame : type = other ∧ id = otherId
    · obtain ⟨rfl, rfl⟩ := hsame
      obtain rfl : n = m := Option.some.inj (hn.symm.trans hm)
      rw [Function.update_self, Cache.place_put_self]
      exact he
    · have hmn : m ≠ n := by
        rintro rfl
        cases hv.apart _ _ _ hn hm
        exact hsame ⟨rfl, rfl⟩
      rw [Function.update_of_ne hmn, Cache.place_put_of_ne cache type id content hsame]
      exact h.known other otherId m hm

/-- A new entry is an empty place. -/
theorem create {ask : Caller → Request Ty} (h : c.Shows cache) (hv : Valid ask c)
    {key : Ty × String} (hnone : c.entries key = none) :
    ({ c with
        entries := Function.update c.entries key (some c.allocated)
        allocated := c.allocated + 1 }.setEntry c.allocated {}).Shows cache := by
  refine ⟨?_, ?_, h.loader, h.syntheses, h.stamp⟩
  · intro type id hn
    change Function.update c.entries key (some c.allocated) (type, id) = none at hn
    by_cases hkey : (type, id) = key
    · rw [hkey, Function.update_self] at hn
      cases hn
    · rw [Function.update_of_ne hkey] at hn
      exact h.unknown type id hn
  · intro type id m hm
    change Function.update c.entries key (some c.allocated) (type, id) = some m at hm
    show (Function.update c.entry c.allocated {} m).Shows type (cache.place type id)
    by_cases hkey : (type, id) = key
    · subst hkey
      rw [Function.update_self] at hm
      obtain rfl := Option.some.inj hm
      rw [Function.update_self, h.unknown type id hnone]
      exact .empty rfl rfl
    · rw [Function.update_of_ne hkey] at hm
      rw [Function.update_of_ne (Nat.ne_of_lt (hv.bound _ m hm))]
      exact h.known type id m hm

end Configuration.Shows

/-! ## A caller alone -/

section

variable [DecidableEq Caller] [DecidableEq Ty] (ask : Caller → Request Ty)
  (describe : (type : Ty) → Description (Data type))

/-- A caller that steps alone comes to an answer, and leaves all locks free and what a cache
holds. -/
def Ends (p : Caller) (c : Configuration Caller Ty Data) (result : Except Fault (Handed Data))
    (left : Cache Ty Data) : Prop :=
  ∃ d, Relation.ReflTransGen (Step ask describe p) c d ∧ d.Shows left ∧
    (∀ n, (d.entry n).owner = none) ∧ d.position p = .answered result

/-- No caller is behind a lock. -/
structure Before (c : Configuration Caller Ty Data) (cache : Cache Ty Data) (p : Caller)
    (position : Position Data) : Prop where
  valid : Valid ask c
  shows : c.Shows cache
  position : c.position p = position
  free : ∀ n, (c.entry n).owner = none

/-- A caller is behind one lock, and all others are free. -/
structure Behind (c : Configuration Caller Ty Data) (cache : Cache Ty Data) (p : Caller) (n : Nat)
    (content : Option (Handed Data)) (stage : Stage Data) : Prop where
  valid : Valid ask c
  shows : c.Shows cache
  position : c.position p = .inside n stage
  free : ∀ m, m ≠ n → (c.entry m).owner = none
  sound : (c.entry n).poisoned = false
  content : (c.entry n).content = content

end

variable [DecidableEq Caller] [DecidableEq Ty] {ask : Caller → Request Ty}
  {describe : (type : Ty) → Description (Data type)} {c : Configuration Caller Ty Data}
  {cache left : Cache Ty Data} {p : Caller} {n : Nat} {content : Option (Handed Data)}
  {type : Ty} {id : String} {result : Except Fault (Handed Data)}

theorem Ends.of_step {d : Configuration Caller Ty Data} (hs : Step ask describe p c d)
    (h : Ends ask describe p d result left) : Ends ask describe p c result left := by
  obtain ⟨e, hr, hrest⟩ := h
  exact ⟨e, .head hs hr, hrest⟩

namespace Before

/-- A caller is answered without having taken a lock. -/
theorem answer {position : Position Data} (h : Before ask c cache p position)
    (hs : Step ask describe p c (c.move p (.answered result))) :
    Ends ask describe p c result cache :=
  ⟨_, .single hs, h.shows.move p _, h.free, Function.update_self _ _ _⟩

/-- A caller comes to wait for the lock of its key. -/
theorem arrive (h : Before ask c cache p .start) (hk : (ask p).key? = some (type, id))
    (hnext : ∀ d n, Before ask d cache p (.waiting n) → d.entries (type, id) = some n →
      Ends ask describe p d result left) :
    Ends ask describe p c result left := by
  cases hn : c.entries (type, id) with
  | some n =>
    have hs : Step ask describe p c _ := .find h.position hk hn
    exact .of_step hs (hnext _ n
      ⟨h.valid.step hs, h.shows.move p _, Function.update_self _ _ _, h.free⟩ hn)
  | none =>
    -- nobody asked for the key before, and the new entry is as empty as its place
    have hs : Step ask describe p c _ := .create h.position hk hn
    refine .of_step hs (hnext _ c.allocated ⟨h.valid.step hs, (h.shows.create h.valid hn).move p _,
      Function.update_self _ _ _, ?_⟩ (Function.update_self _ _ _))
    intro m
    show (Function.update c.entry c.allocated {} m).owner = none
    by_cases hm : m = c.allocated
    · rw [hm, Function.update_self]
    · rw [Function.update_of_ne hm]
      exact h.free m

/-- A caller takes a lock that is free. -/
theorem enter (h : Before ask c cache p (.waiting n)) (hsound : (c.entry n).poisoned = false)
    (hcontent : (c.entry n).content = content)
    (hnext : ∀ d, Behind ask d cache p n content .entered → Ends ask describe p d result left) :
    Ends ask describe p c result left := by
  have hs : Step ask describe p c _ := .acquire h.position (h.free n) hsound
  have hentry : ∀ e : Entry Caller Data, Function.update c.entry n e n = e :=
    fun e => Function.update_self n e c.entry
  refine .of_step hs (hnext _ ⟨h.valid.step hs, (h.shows.setEntry ?_ ?_).move p _,
    Function.update_self _ _ _, ?_, ?_, ?_⟩)
  · rfl
  · rfl
  · intro m hm
    exact (congrArg Entry.owner (Function.update_of_ne hm _ _)).trans (h.free m)
  · exact (congrArg Entry.poisoned (hentry _)).trans hsound
  · exact (congrArg Entry.content (hentry _)).trans hcontent

/-- A poisoned place answers at once. -/
theorem of_poisoned (h : Before ask c cache p .start) (hk : (ask p).key? = some (type, id))
    (hplace : cache.place type id = .poisoned) :
    Ends ask describe p c (.error (.failed Cache.poisonedError)) cache := by
  refine h.arrive hk fun d n hd hn => ?_
  have hknown := hd.shows.known type id n hn
  rw [hplace] at hknown
  cases hknown with
  | poisoned hp => exact hd.answer (.poisoned hd.position (hd.free n) hp)

/-- At an empty place a caller finds nothing behind the lock. -/
theorem of_empty (h : Before ask c cache p .start) (hk : (ask p).key? = some (type, id))
    (hplace : cache.place type id = .empty)
    (hnext : ∀ d n, Behind ask d cache p n none .entered → Ends ask describe p d result left) :
    Ends ask describe p c result left := by
  refine h.arrive hk fun d n hd hn => ?_
  have hknown := hd.shows.known type id n hn
  rw [hplace] at hknown
  cases hknown with
  | empty hp hc => exact hd.enter hp hc fun e he => hnext e n he

/-- At a filled place a caller finds its converter behind the lock. -/
theorem of_filled {shared : Shared (Data type)} (h : Before ask c cache p .start)
    (hk : (ask p).key? = some (type, id)) (hplace : cache.place type id = .filled shared)
    (hnext : ∀ d n, Behind ask d cache p n (some ⟨type, shared⟩) .entered →
      Ends ask describe p d result left) :
    Ends ask describe p c result left := by
  refine h.arrive hk fun d n hd hn => ?_
  have hknown := hd.shows.known type id n hn
  rw [hplace] at hknown
  cases hknown with
  | filled hp hc => exact hd.enter hp hc fun e he => hnext e n he

end Before

namespace Behind

/-- A caller works behind its lock. -/
theorem work {stage next : Stage Data} {loader : Loader}
    (h : Behind ask c cache p n content stage)
    (hw : Work describe (ask p) content cache.loader stage loader next)
    (hnext : ∀ d, Behind ask d { cache with loader } p n content next →
      Ends ask describe p d result left) :
    Ends ask describe p c result left := by
  rw [← h.content, ← h.shows.loader] at hw
  have hs : Step ask describe p c _ := .work h.position hw
  exact .of_step hs (hnext _ ⟨h.valid.step hs, (h.shows.with_loader loader).move p _,
    Function.update_self _ _ _, h.free, h.sound, h.content⟩)

/-- A caller counts its synthesis. -/
theorem count {made : AnyConverter Data} (h : Behind ask c cache p n content (.defined made))
    (hnext : ∀ d, Behind ask d { cache with syntheses := cache.syntheses + 1 } p n content
      (.ready made) → Ends ask describe p d result left) :
    Ends ask describe p c result left := by
  obtain ⟨⟨key, hk, -⟩, -, -⟩ := h.valid.inside h.position
  have hs : Step ask describe p c _ := .count h.position hk
  exact .of_step hs (hnext _ ⟨h.valid.step hs, (h.shows.count _).move p _,
    Function.update_self _ _ _, h.free, h.sound, h.content⟩)

omit [DecidableEq Caller] [DecidableEq Ty] in
/-- All locks are free when this one is. -/
theorem free_setEntry (hfree : ∀ m, m ≠ n → (c.entry m).owner = none) {entry : Entry Caller Data}
    (h : entry.owner = none) (m : Nat) : ((c.setEntry n entry).entry m).owner = none := by
  show (Function.update c.entry n entry m).owner = none
  by_cases hm : m = n
  · rw [hm, Function.update_self]
    exact h
  · rw [Function.update_of_ne hm]
    exact hfree m hm

/-- A caller lets go of its lock without a panic. -/
theorem release (h : Behind ask c cache p n content (.leaving result))
    (hanswers : stopped result = false) : Ends ask describe p c result cache := by
  refine ⟨_, .single (.release h.position), (h.shows.setEntry ?_ ?_).move p _,
    free_setEntry h.free rfl, Function.update_self _ _ _⟩
  · show ((c.entry n).poisoned || stopped result) = (c.entry n).poisoned
    rw [hanswers, Bool.or_false]
  · rfl

/-- A caller lets go of its lock with a fault: only a panic has a trace. -/
theorem release_fault {fault : Fault} (hk : (ask p).key? = some (type, id))
    (h : Behind ask c cache p n content (.leaving (.error fault))) :
    Ends ask describe p c (.error fault) (cache.afterFault type id fault) := by
  cases fault with
  | failed error => exact h.release rfl
  | panicked =>
    have hn : c.entries (type, id) = some n := h.valid.entries_of_inside h.position hk
    refine ⟨_, .single (.release h.position),
      (h.shows.put h.valid hn (.poisoned ?_)).move p _, free_setEntry h.free rfl,
      Function.update_self _ _ _⟩
    exact Bool.or_true _

/-- A caller publishes its converter and lets go of its lock. -/
theorem publish {converter : Converter (Data type)} (hk : (ask p).key? = some (type, id))
    (h : Behind ask c cache p n content (.ready ⟨type, converter⟩)) :
    Ends ask describe p c (.ok ⟨type, (cache.publish type id converter).1⟩)
      (cache.publish type id converter).2 := by
  have hn : c.entries (type, id) = some n := h.valid.entries_of_inside h.position hk
  have hs : Step ask describe p c _ := .publish h.position hk
  have hentry : ∀ e : Entry Caller Data, Function.update c.entry n e n = e :=
    fun e => Function.update_self n e c.entry
  have hstamp : c.handed ⟨type, converter⟩ = ⟨type, (cache.publish type id converter).1⟩ := by
    show (⟨type, ⟨c.stamp, converter⟩⟩ : Handed Data) = ⟨type, ⟨cache.stamp, converter⟩⟩
    rw [h.shows.stamp]
  have hfilled : ({ c.entry n with content := some (c.handed ⟨type, converter⟩) } :
      Entry Caller Data).Shows type (.filled (cache.publish type id converter).1) :=
    .filled h.sound (congrArg some hstamp)
  have hput := (h.shows.put h.valid hn hfilled).next_stamp
    (c.published ++ [((type, id), c.handed ⟨type, converter⟩)])
  rw [← hstamp]
  -- a published converter is answered in the next step, the last one
  refine .of_step hs (release ⟨h.valid.step hs, hput.move p _, Function.update_self _ _ _, ?_, ?_,
    rfl⟩ rfl)
  · intro m hm
    exact (congrArg Entry.owner (Function.update_of_ne hm _ _)).trans (h.free m hm)
  · exact (congrArg Entry.poisoned (hentry _)).trans h.sound

end Behind

/-! ## The calls -/

/-- A request for a converter that nobody interrupts. -/
theorem Before.compile {resolver : Resolver} {result : Except Fault (Shared (Data type))}
    (h : Before ask c cache p .start) (hr : ask p = .compile type resolver)
    (hways : Cache.Compiles cache type (describe type) resolver result left) :
    Ends ask describe p c (result.map (Handed.mk type)) left := by
  have hk : (ask p).key? = some (type, resolver.id) := by
    rw [hr]
    rfl
  cases hways with
  | poisoned hplace => exact h.of_poisoned hk hplace
  | hit hplace ha =>
    refine h.of_filled hk hplace fun d n hd => ?_
    exact hd.work (.hit hr rfl ha) fun d hd => hd.release rfl
  | refused hplace ha =>
    refine h.of_filled hk hplace fun d n hd => ?_
    exact hd.work (.refused hr rfl ha) fun d hd => hd.release_fault hk
  | made hplace hs =>
    -- the parts of a synthesis, each a step: build, define, count, publish
    obtain ⟨hmade, defined, hl⟩ := Cache.prepare_of_synthesize_eq_ok hs
    refine h.of_empty hk hplace fun d n hd => ?_
    refine hd.work (.build hr rfl hmade) fun d hd => ?_
    refine hd.work (.define hl) fun d hd => ?_
    exact hd.count fun d hd => hd.publish hk
  | failed hplace hs =>
    refine h.of_empty hk hplace fun d n hd => ?_
    rcases Cache.prepare_of_synthesize_eq_error hs with hfailed | ⟨_, error, hmade, hl, rfl⟩
    · exact hd.work (.failed hr rfl hfailed) fun d hd => hd.release_fault hk
    · refine hd.work (.build hr rfl hmade) fun d hd => ?_
      exact hd.work (.conflict hl) fun d hd => hd.release rfl

/-- An installation that nobody interrupts. -/
theorem Before.install {s : List Json.Symbol} {result : Except Fault (Shared (Data type))}
    (h : Before ask c cache p .start) (hr : ask p = .install type s)
    (hways : Cache.Installs cache type (describe type) s result left) :
    Ends ask describe p c (result.map (Handed.mk type)) left := by
  have hkey : ∀ {artifact}, Artifact.ofSymbols s = .ok artifact →
      (ask p).key? = some (type, artifact.resolver) := by
    intro artifact hd
    rw [hr]
    simp only [Request.key?, hd]
  cases hways with
  | undecoded hd => exact h.answer (.undecoded h.position hr hd)
  | poisoned hd hplace => exact h.of_poisoned (hkey hd) hplace
  | @conflict artifact error hd hplace hl =>
    have hkept : cache.loader.define artifact = (.error error, cache.loader) :=
      Prod.ext hl (Loader.define_of_error hl)
    -- whether or not a converter is there, the definition comes first
    cases hheld : cache.place type artifact.resolver with
    | poisoned => exact absurd hheld hplace
    | empty =>
      refine h.of_empty (hkey hd) hheld fun d n hb => ?_
      exact hb.work (.taken hr hd hkept) fun d hb => hb.release rfl
    | filled shared =>
      refine h.of_filled (hkey hd) hheld fun d n hb => ?_
      exact hb.work (.taken hr hd hkept) fun d hb => hb.release rfl
  | kept hd hplace hl =>
    refine h.of_filled (hkey hd) hplace fun d n hb => ?_
    refine hb.work (.register hr hd hl) fun d hb => ?_
    exact hb.work (.kept hr rfl) fun d hb => hb.release rfl
  | panicked hd hplace hl ht =>
    refine h.of_empty (hkey hd) hplace fun d n hb => ?_
    refine hb.work (.register hr hd hl) fun d hb => ?_
    exact hb.work (.panicked hr rfl ht) fun d hb => hb.release_fault (hkey hd)
  | misfit hd hplace hl ht hm =>
    refine h.of_empty (hkey hd) hplace fun d n hb => ?_
    refine hb.work (.register hr hd hl) fun d hb => ?_
    exact hb.work (.misfit hr rfl ht hm) fun d hb => hb.release rfl
  | made hd hplace hl ht hm =>
    refine h.of_empty (hkey hd) hplace fun d n hb => ?_
    refine hb.work (.register hr hd hl) fun d hb => ?_
    exact hb.work (.realize hr rfl ht hm) fun d hb => hb.publish (hkey hd)

/-- **A call that nobody interrupts** is the call of the cache: the caller gets the same
answer, and what is left is the same. -/
theorem uninterrupted (h : Before ask c cache p .start) :
    Ends ask describe p c (cache.serve describe (ask p)).1 (cache.serve describe (ask p)).2 := by
  cases hr : ask p with
  | compile type resolver =>
    exact h.compile hr (cache.compiles type (describe type) resolver)
  | install type s => exact h.install hr (cache.installs type (describe type) s)

theorem position_of_alone {q : Caller} (hq : q ≠ p) {d : Configuration Caller Ty Data}
    (hr : Relation.ReflTransGen (Step ask describe p) c d) : d.position q = c.position q := by
  induction hr with
  | refl => rfl
  | tail _ hs ih => exact (hs.position_of_ne hq).trans ih

theorem run_of_alone {b d : Configuration Caller Ty Data} (hb : Run ask describe b c)
    (hr : Relation.ReflTransGen (Step ask describe p) c d) : Run ask describe b d := by
  induction hr with
  | refl => exact hb
  | tail _ hs ih => exact .tail p ih hs

/-- An answer stands. -/
theorem Step.answered {q : Caller} {d : Configuration Caller Ty Data}
    (hs : Step ask describe p c d) (hq : c.position q = .answered result) :
    d.position q = .answered result := by
  by_cases hqp : q = p
  · subst hqp
    cases hs with
    | undecoded h _ _ => cases hq.symm.trans h
    | find h _ _ => cases hq.symm.trans h
    | create h _ _ => cases hq.symm.trans h
    | acquire h _ _ => cases hq.symm.trans h
    | poisoned h _ _ => cases hq.symm.trans h
    | work h _ => cases hq.symm.trans h
    | count h _ => cases hq.symm.trans h
    | publish h _ => cases hq.symm.trans h
    | release h => cases hq.symm.trans h
  · exact (hs.position_of_ne hqp).trans hq

theorem Run.answered {q : Caller} {d : Configuration Caller Ty Data} (hr : Run ask describe c d)
    (hq : c.position q = .answered result) : d.position q = .answered result := by
  induction hr with
  | refl => exact hq
  | tail p _ hs ih => exact hs.answered ih

/-- Callers that come one after the other get the answers that their calls get of a cache, and
leave what these leave. -/
theorem run_one_by_one {callers : List Caller} (hd : callers.Nodup) (hv : Valid ask c)
    (hshows : c.Shows cache) (hfree : ∀ n, (c.entry n).owner = none)
    (hstart : ∀ p ∈ callers, c.position p = .start) :
    ∃ d, Run ask describe c d ∧ d.Shows (cache.after describe (callers.map ask)) ∧
      callers.map d.position = (cache.answers describe (callers.map ask)).map .answered := by
  induction callers generalizing c cache with
  | nil => exact ⟨c, .refl, hshows, rfl⟩
  | cons p rest ih =>
    obtain ⟨hp, hrest⟩ := List.nodup_cons.mp hd
    have hends : Ends ask describe p c _ _ :=
      uninterrupted ⟨hv, hshows, hstart p List.mem_cons_self, hfree⟩
    obtain ⟨d, halone, hshows', hfree', hanswer⟩ := hends
    have hrun : Run ask describe c d := run_of_alone .refl halone
    have hstart' : ∀ q ∈ rest, d.position q = .start := by
      intro q hq
      have hne : q ≠ p := by
        rintro rfl
        exact hp hq
      exact (position_of_alone hne halone).trans (hstart q (List.mem_cons_of_mem _ hq))
    obtain ⟨e, hrun', hleft, hanswers⟩ := ih hrest (hv.run hrun) hshows' hfree' hstart'
    refine ⟨e, hrun.trans hrun', hleft, ?_⟩
    -- the later callers leave the first answer as it is
    rw [List.map_cons, hrun'.answered hanswer, hanswers]
    rfl

/-- **Calls that do not overlap** are a run of the cache, from the first call on. -/
theorem initial_one_by_one (ask : Caller → Request Ty)
    (describe : (type : Ty) → Description (Data type)) {callers : List Caller}
    (hd : callers.Nodup) :
    ∃ d, Run ask describe initial d ∧
      d.Shows ((Cache.empty : Cache Ty Data).after describe (callers.map ask)) ∧
      callers.map d.position =
        ((Cache.empty : Cache Ty Data).answers describe (callers.map ask)).map .answered :=
  run_one_by_one hd valid_initial shows_initial (fun _ => rfl) fun _ _ => rfl

end Interleaving
end PropertyBinding
