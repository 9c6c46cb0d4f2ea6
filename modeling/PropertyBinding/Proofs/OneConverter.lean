import Mathlib.Data.List.Nodup
import PropertyBinding.Proofs.Interleaving

/-! # One converter for each key

However the steps of any number of callers are interleaved, a key is published once at most,
and everybody who is answered with a converter for it is answered with that one
(`Interleaving.one_converter_for_each_key`).

The invariant is `Placed`, which says what holds of a caller by where it stands: its
entry is the one of its key, behind the lock it is the owner, and while it holds a new
converter the entry is empty.  `Valid.records` then says all that a step does to the
entries and to the record of what was published; what holds of that record follows from it alone.
-/
namespace PropertyBinding
namespace Interleaving

variable {Caller Ty : Type} {Data : Ty → Type}

/-! ## Where callers stand -/

/-- A new converter is of the type asked for and finds its entry empty; a converter that is
about to be answered is the content of the entry. -/
def Stage.Fits (request : Request Ty) (content : Option (Handed Data)) : Stage Data → Prop
  | .entered => True
  | .registered _ => True
  | .built made => content = none ∧ made.type = request.type
  | .defined made => content = none ∧ made.type = request.type
  | .ready made => content = none ∧ made.type = request.type
  | .leaving result => ∀ handed, result = .ok handed → content = some handed

variable {describe : (type : Ty) → Description (Data type)}

theorem Work.fits {request : Request Ty} {content : Option (Handed Data)} {loader after : Loader}
    {stage next : Stage Data} (hw : Work describe request content loader stage after next)
    (h : stage.Fits request content) : next.Fits request content := by
  cases hw with
  | hit hr hc ha =>
    intro handed hh
    cases hh
    exact hc
  | kept hr hc =>
    intro handed hh
    cases hh
    exact hc
  | build hr hc hp =>
    subst hr
    exact ⟨hc, rfl⟩
  | realize hr hc ht hm =>
    subst hr
    exact ⟨hc, rfl⟩
  | define hl => exact h
  | register hr hd hl => trivial
  | _ =>
    -- the other ways end with an error
    intro handed hh
    cases hh

/-- Nobody is made ready twice. -/
theorem Work.ready_false {request : Request Ty} {content : Option (Handed Data)}
    {loader after : Loader} {made : AnyConverter Data} {next : Stage Data} :
    ¬Work describe request content loader (.ready made) after next := by
  intro hw
  cases hw with
  | foreign expected hs hc ht =>
    obtain ⟨hs, -⟩ | ⟨artifact, hs⟩ := hs
    · cases hs
    · cases hs

/-- The entry of a key holds a converter. -/
def Configuration.Holds (c : Configuration Caller Ty Data) (key : Ty × String)
    (handed : Handed Data) : Prop :=
  ∃ n, c.entries key = some n ∧ (c.entry n).content = some handed

/-- An entry is the one of a caller's key. -/
def Configuration.Leads (c : Configuration Caller Ty Data) (request : Request Ty) (n : Nat) :
    Prop :=
  ∃ key, request.key? = some key ∧ c.entries key = some n

/-- What holds of a caller by where it stands. -/
def Placed (ask : Caller → Request Ty) (c : Configuration Caller Ty Data) (p : Caller) :
    Position Data → Prop
  | .start => True
  | .waiting n => c.Leads (ask p) n
  | .inside n stage => c.Leads (ask p) n ∧ (c.entry n).owner = some p ∧
      stage.Fits (ask p) (c.entry n).content
  | .answered result => ∀ handed, result = .ok handed →
      ∃ key, (ask p).key? = some key ∧ c.Holds key handed

/-- Entries are created one after the other, no two keys share one, and all callers are
placed. -/
structure Valid (ask : Caller → Request Ty) (c : Configuration Caller Ty Data) : Prop where
  bound : ∀ key n, c.entries key = some n → n < c.allocated
  apart : ∀ key other n, c.entries key = some n → c.entries other = some n → key = other
  placed : ∀ p, Placed ask c p (c.position p)

variable {ask : Caller → Request Ty} {c d : Configuration Caller Ty Data} {p q : Caller}

theorem valid_initial : Valid ask (initial : Configuration Caller Ty Data) where
  bound _ _ h := nomatch h
  apart _ _ _ h := nomatch h
  placed _ := trivial

namespace Valid

theorem inside (hv : Valid ask c) {n : Nat} {stage : Stage Data}
    (h : c.position p = .inside n stage) :
    c.Leads (ask p) n ∧ (c.entry n).owner = some p ∧ stage.Fits (ask p) (c.entry n).content := by
  have hp := hv.placed p
  rw [h] at hp
  exact hp

theorem waiting (hv : Valid ask c) {n : Nat} (h : c.position p = .waiting n) :
    c.Leads (ask p) n := by
  have hp := hv.placed p
  rw [h] at hp
  exact hp

/-- **Mutual exclusion.**  Two callers are not behind one lock. -/
theorem alone (hv : Valid ask c) {n : Nat} {stage other : Stage Data}
    (hp : c.position p = .inside n stage) (hq : c.position q = .inside n other) : p = q := by
  obtain ⟨-, hop, -⟩ := hv.inside hp
  obtain ⟨-, hoq, -⟩ := hv.inside hq
  exact Option.some.inj (hop.symm.trans hoq)

/-- The key of a caller behind a lock is the one that the entry was created for. -/
theorem entries_of_inside (hv : Valid ask c) {n : Nat} {stage : Stage Data} {key : Ty × String}
    (h : c.position p = .inside n stage) (hk : (ask p).key? = some key) :
    c.entries key = some n := by
  obtain ⟨⟨other, ho, hn⟩, -, -⟩ := hv.inside h
  obtain rfl : other = key := Option.some.inj (ho.symm.trans hk)
  exact hn

end Valid

/-! ## What a step changes -/

/-- An entry keeps what it holds when only its lock changes. -/
theorem holds_relock (c : Configuration Caller Ty Data) (n : Nat) (owner : Option Caller)
    (poisoned : Bool) (key : Ty × String) (handed : Handed Data) :
    (c.setEntry n { c.entry n with owner, poisoned }).Holds key handed ↔ c.Holds key handed := by
  refine exists_congr fun m => and_congr_right fun _ => ?_
  show (Function.update c.entry n _ m).content = some handed ↔ _
  by_cases hm : m = n
  · subst hm
    rw [Function.update_self]
  · rw [Function.update_of_ne hm]

namespace Valid

/-- To fill an empty entry is to hold one converter more. -/
theorem holds_fill (hv : Valid ask c) {key : Ty × String} {n : Nat} (hn : c.entries key = some n)
    (hempty : (c.entry n).content = none) (new : Handed Data) (other : Ty × String)
    (handed : Handed Data) :
    (c.setEntry n { c.entry n with content := some new }).Holds other handed ↔
      c.Holds other handed ∨ (other = key ∧ handed = new) := by
  constructor
  · rintro ⟨m, hm, hcontent⟩
    change c.entries other = some m at hm
    change (Function.update c.entry n _ m).content = some handed at hcontent
    by_cases hmn : m = n
    · subst hmn
      rw [Function.update_self] at hcontent
      exact .inr ⟨hv.apart other key m hm hn, (Option.some.inj hcontent).symm⟩
    · rw [Function.update_of_ne hmn] at hcontent
      exact .inl ⟨m, hm, hcontent⟩
  · rintro (⟨m, hm, hcontent⟩ | ⟨rfl, rfl⟩)
    · have hmn : m ≠ n := by
        rintro rfl
        rw [hempty] at hcontent
        cases hcontent
      refine ⟨m, hm, ?_⟩
      show (Function.update c.entry n _ m).content = some handed
      rw [Function.update_of_ne hmn]
      exact hcontent
    · refine ⟨n, hn, ?_⟩
      show (Function.update c.entry n _ n).content = some handed
      rw [Function.update_self]

/-- A new entry holds nothing. -/
theorem holds_create [DecidableEq Ty] (hv : Valid ask c) {key : Ty × String}
    (hn : c.entries key = none) (other : Ty × String) (handed : Handed Data) :
    ({ c with
        entries := Function.update c.entries key (some c.allocated)
        allocated := c.allocated + 1 }.setEntry c.allocated {}).Holds other handed ↔
      c.Holds other handed := by
  constructor
  · rintro ⟨m, hm, hcontent⟩
    change Function.update c.entries key (some c.allocated) other = some m at hm
    change (Function.update c.entry c.allocated {} m).content = some handed at hcontent
    by_cases hother : other = key
    · subst hother
      rw [Function.update_self] at hm
      obtain rfl := Option.some.inj hm
      rw [Function.update_self] at hcontent
      cases hcontent
    · rw [Function.update_of_ne hother] at hm
      rw [Function.update_of_ne (Nat.ne_of_lt (hv.bound other m hm))] at hcontent
      exact ⟨m, hm, hcontent⟩
  · rintro ⟨m, hm, hcontent⟩
    have hother : other ≠ key := by
      rintro rfl
      rw [hn] at hm
      cases hm
    refine ⟨m, (Function.update_of_ne hother _ _).trans hm, ?_⟩
    show (Function.update c.entry c.allocated {} m).content = some handed
    rw [Function.update_of_ne (Nat.ne_of_lt (hv.bound other m hm))]
    exact hcontent

end Valid

variable [DecidableEq Caller] [DecidableEq Ty]

namespace Step

theorem position_of_ne (hs : Step ask describe p c d) (hq : q ≠ p) :
    d.position q = c.position q := by
  cases hs <;> exact Function.update_of_ne hq _ _

/-- A key keeps its entry. -/
theorem entries_mono (hs : Step ask describe p c d) {key : Ty × String} {n : Nat}
    (hn : c.entries key = some n) : d.entries key = some n := by
  cases hs with
  | @create other _ _ hnone =>
    have hne : key ≠ other := by
      rintro rfl
      rw [hnone] at hn
      cases hn
    exact (Function.update_of_ne hne _ _).trans hn
  | _ => exact hn

theorem leads_mono (hs : Step ask describe p c d) {request : Request Ty} {n : Nat}
    (h : c.Leads request n) : d.Leads request n := by
  obtain ⟨key, hk, hn⟩ := h
  exact ⟨key, hk, hs.entries_mono hn⟩

end Step

namespace Valid

/-- A step leaves alone what another caller has locked. -/
theorem entry_of_owner (hv : Valid ask c) (hs : Step ask describe p c d) {m : Nat}
    (hm : m < c.allocated) (ho : (c.entry m).owner = some q) (hq : q ≠ p) :
    d.entry m = c.entry m := by
  -- the entry of a step is free or its caller's own, so it is not this one
  have hother : ∀ {n stage}, c.position p = .inside n stage → m ≠ n := by
    rintro n stage hn rfl
    obtain ⟨-, hp, -⟩ := hv.inside hn
    exact hq (Option.some.inj (ho.symm.trans hp))
  cases hs with
  | create h hk hn => exact Function.update_of_ne (Nat.ne_of_lt hm) _ _
  | acquire h hfree hp =>
    refine Function.update_of_ne ?_ _ _
    rintro rfl
    rw [ho] at hfree
    cases hfree
  | publish h hk => exact Function.update_of_ne (hother h) _ _
  | release h => exact Function.update_of_ne (hother h) _ _
  | _ => rfl

/-- What a step does to the entries and to what was published: nothing, or it fills the entry
of one key, which was empty, and records that. -/
theorem records (hv : Valid ask c) (hs : Step ask describe p c d) :
    (d.published = c.published ∧ d.stamp = c.stamp ∧
      ∀ key handed, d.Holds key handed ↔ c.Holds key handed) ∨
    ∃ key made, (∀ handed, ¬c.Holds key handed) ∧ made.type = key.1 ∧
      d.published = c.published ++ [(key, c.handed made)] ∧ d.stamp = c.stamp + 1 ∧
      ∀ other handed, d.Holds other handed ↔
        c.Holds other handed ∨ (other = key ∧ handed = c.handed made) := by
  cases hs with
  | create h hk hn => exact .inl ⟨rfl, rfl, hv.holds_create hn⟩
  | acquire h ho hp => exact .inl ⟨rfl, rfl, holds_relock c _ _ _⟩
  | release h => exact .inl ⟨rfl, rfl, holds_relock c _ _ _⟩
  | @publish n made key h hk =>
    obtain ⟨-, -, hempty, htype⟩ := hv.inside h
    have hn : c.entries key = some n := hv.entries_of_inside h hk
    refine .inr ⟨key, made, ?_, htype.trans (Request.type_of_key? hk).symm, rfl, rfl,
      hv.holds_fill hn hempty (c.handed made)⟩
    rintro handed ⟨m, hm, hcontent⟩
    -- behind the lock nothing was published since the caller found the entry empty
    obtain rfl : n = m := Option.some.inj (hn.symm.trans hm)
    rw [hempty] at hcontent
    cases hcontent
  | _ => exact .inl ⟨rfl, rfl, fun _ _ => Iff.rfl⟩

/-- What is held stays: a published converter is never replaced. -/
theorem holds_mono (hv : Valid ask c) (hs : Step ask describe p c d) {key : Ty × String}
    {handed : Handed Data} (h : c.Holds key handed) : d.Holds key handed := by
  rcases hv.records hs with ⟨-, -, hsame⟩ | ⟨_, _, -, -, -, -, hmore⟩
  · exact (hsame key handed).mpr h
  · exact (hmore key handed).mpr (.inl h)

omit [DecidableEq Ty] in
theorem placed_move {position : Position Data} (h : Placed ask c p position) :
    Placed ask (c.move p position) p ((c.move p position).position p) := by
  have hself : (c.move p position).position p = position := Function.update_self _ _ _
  rw [hself]
  cases position <;> exact h

/-- The caller that steps is placed where it goes. -/
theorem placed_self (hv : Valid ask c) (hs : Step ask describe p c d) :
    Placed ask d p (d.position p) := by
  cases hs with
  | undecoded h hr hd =>
    refine placed_move ?_
    intro handed hh
    cases hh
  | find h hk hn => exact placed_move ⟨_, hk, hn⟩
  | create h hk hn => exact placed_move ⟨_, hk, Function.update_self _ _ _⟩
  | @acquire n h ho hp =>
    refine placed_move ⟨hv.waiting h, ?_, trivial⟩
    exact congrArg Entry.owner (Function.update_self n _ c.entry)
  | poisoned h ho hp =>
    refine placed_move ?_
    intro handed hh
    cases hh
  | work h hw =>
    obtain ⟨hl, ho, hf⟩ := hv.inside h
    exact placed_move ⟨hl, ho, hw.fits hf⟩
  | count h hk =>
    obtain ⟨hl, ho, hf⟩ := hv.inside h
    exact placed_move ⟨hl, ho, hf⟩
  | @publish n made key h hk =>
    obtain ⟨hl, ho, -⟩ := hv.inside h
    refine placed_move ⟨hl, ?_, ?_⟩
    · exact (congrArg Entry.owner (Function.update_self n _ c.entry)).trans ho
    · intro handed hh
      cases hh
      exact congrArg Entry.content (Function.update_self n _ c.entry)
  | @release n result h =>
    obtain ⟨⟨key, hk, hn⟩, -, hf⟩ := hv.inside h
    refine placed_move ?_
    intro handed hh
    exact ⟨key, hk, (holds_relock c n _ _ key handed).mpr ⟨n, hn, hf handed hh⟩⟩

/-- All other callers stay placed where they are. -/
theorem placed_of_ne (hv : Valid ask c) (hs : Step ask describe p c d) (hq : q ≠ p) :
    Placed ask d q (d.position q) := by
  rw [hs.position_of_ne hq]
  have hold := hv.placed q
  cases hpos : c.position q with
  | start => trivial
  | waiting n =>
    rw [hpos] at hold
    exact hs.leads_mono hold
  | inside n stage =>
    rw [hpos] at hold
    obtain ⟨⟨key, hk, hn⟩, ho, hf⟩ := hold
    -- its entry is locked by itself, and so out of reach of the step
    have hentry : d.entry n = c.entry n := hv.entry_of_owner hs (hv.bound key n hn) ho hq
    refine ⟨⟨key, hk, hs.entries_mono hn⟩, ?_, ?_⟩
    · rw [hentry]
      exact ho
    · rw [hentry]
      exact hf
  | answered result =>
    rw [hpos] at hold
    intro handed hh
    obtain ⟨key, hk, hheld⟩ := hold handed hh
    exact ⟨key, hk, hv.holds_mono hs hheld⟩

theorem bound_step (hv : Valid ask c) (hs : Step ask describe p c d) {key : Ty × String} {n : Nat}
    (hn : d.entries key = some n) : n < d.allocated := by
  cases hs with
  | @create other _ _ _ =>
    change Function.update c.entries other (some c.allocated) key = some n at hn
    show n < c.allocated + 1
    by_cases hkey : key = other
    · subst hkey
      rw [Function.update_self] at hn
      cases hn
      omega
    · rw [Function.update_of_ne hkey] at hn
      have hlt := hv.bound key n hn
      omega
  | _ => exact hv.bound key n hn

theorem apart_step (hv : Valid ask c) (hs : Step ask describe p c d) {key other : Ty × String}
    {n : Nat} (hn : d.entries key = some n) (ho : d.entries other = some n) : key = other := by
  cases hs with
  | @create new _ _ _ =>
    change Function.update c.entries new (some c.allocated) key = some n at hn
    change Function.update c.entries new (some c.allocated) other = some n at ho
    by_cases hkey : key = new
    · by_cases hother : other = new
      · exact hkey.trans hother.symm
      · -- an entry that was there has a smaller number than the new one
        subst hkey
        rw [Function.update_self] at hn
        rw [Function.update_of_ne hother] at ho
        cases hn
        exact absurd (hv.bound other _ ho) (Nat.lt_irrefl _)
    · by_cases hother : other = new
      · subst hother
        rw [Function.update_of_ne hkey] at hn
        rw [Function.update_self] at ho
        cases ho
        exact absurd (hv.bound key _ hn) (Nat.lt_irrefl _)
      · rw [Function.update_of_ne hkey] at hn
        rw [Function.update_of_ne hother] at ho
        exact hv.apart key other n hn ho
  | _ => exact hv.apart key other n hn ho

theorem step (hv : Valid ask c) (hs : Step ask describe p c d) : Valid ask d where
  bound _ _ hn := hv.bound_step hs hn
  apart _ _ _ hn ho := hv.apart_step hs hn ho
  placed q := by
    by_cases hq : q = p
    · subst hq
      exact hv.placed_self hs
    · exact hv.placed_of_ne hs hq

theorem run (hv : Valid ask c) (hr : Run ask describe c d) : Valid ask d := by
  induction hr with
  | refl => exact hv
  | tail p _ hs ih => exact ih.step hs

theorem holds_run (hv : Valid ask c) (hr : Run ask describe c d) {key : Ty × String}
    {handed : Handed Data} (h : c.Holds key handed) : d.Holds key handed := by
  induction hr with
  | refl => exact h
  | tail p hr hs ih => exact (hv.run hr).holds_mono hs ih

end Valid
/-! ## What was published and counted -/

theorem nodup_snoc {α : Type} {l : List α} {a : α} (h : l.Nodup) (ha : a ∉ l) :
    (l ++ [a]).Nodup := by
  rw [← List.concat_eq_append]
  exact h.concat ha

/-- What the record of the published converters says. -/
structure Recorded (c : Configuration Caller Ty Data) : Prop where
  held : ∀ key handed, (key, handed) ∈ c.published ↔ c.Holds key handed
  once : (c.published.map Prod.fst).Nodup
  typed : ∀ key handed, (key, handed) ∈ c.published → handed.type = key.1
  /-- The next stamp is new. -/
  fresh : ∀ record ∈ c.published, record.2.shared.stamp < c.stamp
  stamps : (c.published.map fun record => record.2.shared.stamp).Nodup

omit [DecidableEq Caller] [DecidableEq Ty] in
theorem recorded_initial : Recorded (initial : Configuration Caller Ty Data) where
  held key handed := by
    constructor
    · intro h
      cases h
    · rintro ⟨n, hn, -⟩
      cases hn
  once := .nil
  typed _ _ h := nomatch h
  fresh _ h := nomatch h
  stamps := .nil

theorem Recorded.step (h : Recorded c) (hv : Valid ask c) (hs : Step ask describe p c d) :
    Recorded d := by
  -- either nothing was published, or one converter was, for a key that held none
  rcases hv.records hs with ⟨hp, hstamp, hsame⟩ | ⟨key, made, hnone, htype, hp, hstamp, hmore⟩
  · refine ⟨?_, ?_, ?_, ?_, ?_⟩ <;> rw [hp]
    · intro key handed
      exact (h.held key handed).trans (hsame key handed).symm
    · exact h.once
    · exact h.typed
    · rw [hstamp]
      exact h.fresh
    · exact h.stamps
  · refine ⟨?_, ?_, ?_, ?_, ?_⟩ <;> rw [hp]
    · intro other handed
      rw [hmore, List.mem_append, List.mem_singleton, Prod.mk.injEq, h.held]
    · -- the key held nothing, so it was never published
      have hnew : key ∉ c.published.map Prod.fst := by
        intro hmem
        obtain ⟨⟨other, handed⟩, hrecord, rfl⟩ := List.mem_map.mp hmem
        exact hnone handed ((h.held _ handed).mp hrecord)
      rw [List.map_append]
      exact nodup_snoc h.once hnew
    · intro other handed hmem
      rcases List.mem_append.mp hmem with hold | hlast
      · exact h.typed other handed hold
      · cases List.mem_singleton.mp hlast
        exact htype
    · intro record hmem
      rw [hstamp]
      rcases List.mem_append.mp hmem with hold | hlast
      · exact Nat.lt_succ_of_lt (h.fresh record hold)
      · cases List.mem_singleton.mp hlast
        exact Nat.lt_succ_self _
    · rw [List.map_append]
      refine nodup_snoc h.stamps ?_
      intro hmem
      obtain ⟨record, hrecord, hsame⟩ := List.mem_map.mp hmem
      have hlt := h.fresh record hrecord
      have hsame : record.2.shared.stamp = c.stamp := hsame
      omega

/-- What the record of the counted syntheses says: behind each stands a converter that is
published, or is about to be. -/
structure Counted (c : Configuration Caller Ty Data) : Prop where
  tallied : c.syntheses = c.counted.length
  distinct : c.counted.Nodup
  followed : ∀ key ∈ c.counted, (∃ handed, c.Holds key handed) ∨
    ∃ p n made, c.position p = .inside n (.ready made) ∧ c.entries key = some n

omit [DecidableEq Caller] [DecidableEq Ty] in
theorem counted_initial : Counted (initial : Configuration Caller Ty Data) where
  tallied := rfl
  distinct := .nil
  followed _ h := nomatch h

/-- Who is about to publish does so in its next step. -/
theorem Valid.ready_step (hv : Valid ask c) (hs : Step ask describe p c d) {key : Ty × String}
    {n : Nat} {made : AnyConverter Data} (hq : c.position q = .inside n (.ready made))
    (hn : c.entries key = some n) :
    (∃ handed, d.Holds key handed) ∨ d.position q = .inside n (.ready made) := by
  by_cases hqp : q = p
  · subst hqp
    -- of all steps only to publish starts where the caller stands
    cases hs with
    | work h hw =>
      obtain ⟨rfl, rfl⟩ := Position.inside.inj (hq.symm.trans h)
      exact absurd hw Work.ready_false
    | @publish m other _ h hk =>
      obtain ⟨rfl, hsame⟩ := Position.inside.inj (hq.symm.trans h)
      obtain ⟨-, -, hempty, -⟩ := hv.inside hq
      exact .inl ⟨c.handed other,
        (hv.holds_fill hn hempty (c.handed other) key (c.handed other)).mpr (.inr ⟨rfl, rfl⟩)⟩
    | undecoded h _ _ => cases hq.symm.trans h
    | find h _ _ => cases hq.symm.trans h
    | create h _ _ => cases hq.symm.trans h
    | acquire h _ _ => cases hq.symm.trans h
    | poisoned h _ _ => cases hq.symm.trans h
    | count h _ => cases hq.symm.trans h
    | release h => cases hq.symm.trans h
  · exact .inr ((hs.position_of_ne hqp).trans hq)

/-- What is followed by a publication stays so. -/
theorem Counted.followed_step (h : Counted c) (hv : Valid ask c) (hs : Step ask describe p c d)
    {key : Ty × String} (hk : key ∈ c.counted) :
    (∃ handed, d.Holds key handed) ∨
      ∃ p n made, d.position p = .inside n (.ready made) ∧ d.entries key = some n := by
  rcases h.followed key hk with ⟨handed, hheld⟩ | ⟨q, n, made, hq, hn⟩
  · exact .inl ⟨handed, hv.holds_mono hs hheld⟩
  · rcases hv.ready_step hs hq hn with hheld | hready
    · exact .inl hheld
    · exact .inr ⟨q, n, made, hready, hs.entries_mono hn⟩

theorem Counted.step (h : Counted c) (hv : Valid ask c) (hs : Step ask describe p c d) :
    Counted d := by
  have hfollowed : ∀ {key}, key ∈ c.counted → _ := fun hk => h.followed_step hv hs hk
  cases hs with
  | @count n made key hpos hk =>
    obtain ⟨-, -, hempty, -⟩ := hv.inside hpos
    have hn : c.entries key = some n := hv.entries_of_inside hpos hk
    have hnew : key ∉ c.counted := by
      intro hmem
      rcases h.followed key hmem with ⟨handed, m, hm, hcontent⟩ | ⟨q, m, other, hq, hm⟩
      · obtain rfl : n = m := Option.some.inj (hn.symm.trans hm)
        rw [hempty] at hcontent
        cases hcontent
      · -- nobody else is behind the lock, and this caller is not yet ready
        obtain rfl : n = m := Option.some.inj (hn.symm.trans hm)
        obtain rfl := hv.alone hpos hq
        cases hpos.symm.trans hq
    refine ⟨?_, ?_, ?_⟩
    · show c.syntheses + 1 = (c.counted ++ [key]).length
      rw [List.length_append, h.tallied]
      rfl
    · exact nodup_snoc h.distinct hnew
    · intro other hother
      rcases List.mem_append.mp hother with hold | hlast
      · exact hfollowed hold
      · obtain rfl : other = key := List.mem_singleton.mp hlast
        exact .inr ⟨p, n, made, Function.update_self _ _ _, hn⟩
  | _ => exact ⟨h.tallied, h.distinct, fun key hk => hfollowed hk⟩

theorem Run.trans {e : Configuration Caller Ty Data} (hc : Run ask describe c d)
    (hd : Run ask describe d e) : Run ask describe c e := by
  induction hd with
  | refl => exact hc
  | tail p _ hs ih => exact .tail p ih hs

/-- All that is kept by every run. -/
theorem invariants_of_run (hr : Run ask describe initial c) :
    Valid ask c ∧ Recorded c ∧ Counted c := by
  induction hr with
  | refl => exact ⟨valid_initial, recorded_initial, counted_initial⟩
  | tail p _ hs ih =>
    obtain ⟨hv, hrecorded, hcounted⟩ := ih
    exact ⟨hv.step hs, hrecorded.step hv hs, hcounted.step hv hs⟩

/-- **One converter for each key.**  In every configuration that callers can come to, each
key was published once at most, and what it holds is what was published; a converter that is
held is never replaced; two calls on one key that are answered with a converter are answered
with the same one, and no two published converters have one stamp; and the syntheses that
were counted are of as many keys. -/
theorem one_converter_for_each_key (ask : Caller → Request Ty)
    (describe : (type : Ty) → Description (Data type)) (c d : Configuration Caller Ty Data)
    (hc : Run ask describe initial c) (hd : Run ask describe c d) :
    (d.published.map Prod.fst).Nodup ∧
    (∀ key handed, (key, handed) ∈ d.published ↔ d.Holds key handed) ∧
    (∀ key handed other, c.Holds key handed → (d.Holds key other ↔ other = handed)) ∧
    (∀ p q a b, (ask p).key? = (ask q).key? → d.position p = .answered (.ok a) →
      d.position q = .answered (.ok b) → a = b) ∧
    (d.published.map fun record => record.2.shared.stamp).Nodup ∧
    d.syntheses = d.counted.length ∧ d.counted.Nodup := by
  obtain ⟨hvc, -, -⟩ := invariants_of_run hc
  obtain ⟨hv, hrecorded, hcounted⟩ := invariants_of_run (hc.trans hd)
  -- a key has one entry, and the entry one content
  have hsame : ∀ {key a b}, d.Holds key a → d.Holds key b → a = b := by
    rintro key a b ⟨n, hn, ha⟩ ⟨m, hm, hb⟩
    obtain rfl : n = m := Option.some.inj (hn.symm.trans hm)
    exact Option.some.inj (ha.symm.trans hb)
  refine ⟨hrecorded.once, hrecorded.held, ?_, ?_, hrecorded.stamps, hcounted.tallied,
    hcounted.distinct⟩
  · intro key handed other hheld
    have hstill : d.Holds key handed := hvc.holds_run hd hheld
    constructor
    · exact fun hother => hsame hother hstill
    · rintro rfl
      exact hstill
  · intro p q a b hkeys hp hq
    have hplaced := hv.placed p
    have hother := hv.placed q
    rw [hp] at hplaced
    rw [hq] at hother
    obtain ⟨key, hk, ha⟩ := hplaced a rfl
    obtain ⟨key', hk', hb⟩ := hother b rfl
    obtain rfl : key = key' := Option.some.inj (hk.symm.trans (hkeys.trans hk'))
    exact hsame ha hb

/-- Of two callers that found the entry before either had locked it, one builds the
converter and both are answered with it. -/
theorem one_converter_for_two_callers :
    let describe : Unit → Description Int32 := fun _ =>
      .ok ⟨"Count", "Count", [.field "n" (.scalar .i32) id fun _ n => n], [.ofDefault 0]⟩
    let ask : Bool → Request Unit := fun _ => .compile () .default
    ∃ d : Configuration Bool Unit fun _ => Int32, Run ask describe initial d ∧
      d.syntheses = 1 ∧
      ∃ handed, d.position false = .answered (.ok handed) ∧
        d.position true = .answered (.ok handed) := by
  intro describe ask
  have found : Run ask describe initial _ :=
    .tail true (.tail false .refl (.create rfl rfl rfl)) (.find rfl rfl rfl)
  have acquired : Run ask describe initial _ := .tail false found (.acquire rfl rfl rfl)
  have built : Run ask describe initial _ := .tail false acquired (.work rfl (.build rfl rfl rfl))
  have defined : Run ask describe initial _ := .tail false built (.work rfl (.define rfl))
  have counted : Run ask describe initial _ := .tail false defined (.count rfl rfl)
  have published : Run ask describe initial _ := .tail false counted (.publish rfl rfl)
  have released : Run ask describe initial _ := .tail false published (.release rfl)
  have entered : Run ask describe initial _ := .tail true released (.acquire rfl rfl rfl)
  have hit : Run ask describe initial _ := .tail true entered (.work rfl (.hit rfl rfl rfl))
  have left : Run ask describe initial _ := .tail true hit (.release rfl)
  obtain ⟨-, -, -, hsame, -, -, -⟩ := one_converter_for_each_key ask describe _ _ left .refl
  have hanswers := hsame true false _ _ rfl rfl rfl
  exact ⟨_, left, rfl, _, rfl, congrArg (Position.answered ∘ Except.ok) hanswers⟩

end Interleaving
end PropertyBinding
