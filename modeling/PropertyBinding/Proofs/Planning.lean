import PropertyBinding.Plan
import PropertyBinding.Proofs.Realization

/-! # What a plan records

Every step of a plan stands for the member that it was made for: the place is the
member's own, and the name, kind and type are those it is declared with
(`Descriptor.fits_of_mem_steps`).  The constructor of a plan is the first of the descriptor's
with the fewest parameters (`Descriptor.cheapestFrom?_eq_some`).  So what was planned for a
descriptor can be realized for it (`Descriptor.exists_realize_of_plan`).
-/
namespace PropertyBinding

variable {α : Type}

/-- Only a member with nothing wrong is mapped. -/
theorem Member.sound_of_mapped {member : Member α} {resolver : Resolver} {property : String}
    (h : member.verdict resolver = .mapped property) : member.problem? = none := by
  unfold verdict at h
  split at h
  · cases h
  · split at h
    · cases h
    · cases h
    · split at h
      · cases h
      · split at h
        · cases h
        · assumption

/-- A static member is not mapped. -/
theorem Member.nonstatic_of_mapped {member : Member α} {resolver : Resolver} {property : String}
    (h : member.verdict resolver = .mapped property) : member.info.isStatic = false := by
  unfold verdict at h
  split at h
  · cases h
  · exact Bool.eq_false_iff.mpr ‹_›

namespace Descriptor

/-- Every planned step is the step of a mapped member at its own place. -/
theorem mem_stepsFrom {typeName : String} {resolver : Resolver} {index : Nat}
    {members : List (Member α)} {steps : List Step}
    (h : stepsFrom typeName resolver index members = .ok steps) {s : Step} (hs : s ∈ steps) :
    ∃ k member property, members[k]? = some member ∧ member.verdict resolver = .mapped property ∧
      s = step (index + k) member property := by
  induction members generalizing index steps with
  | nil =>
    cases h
    cases hs
  | cons first rest ih =>
    -- a step of the rest stands one place further on
    have later : ∀ {others}, stepsFrom typeName resolver (index + 1) rest = .ok others →
        s ∈ others → ∃ k member property, (first :: rest)[k]? = some member ∧
          member.verdict resolver = .mapped property ∧ s = step (index + k) member property := by
      intro others ho hso
      obtain ⟨k, member, property, hk, hv, rfl⟩ := ih ho hso
      exact ⟨k + 1, member, property, hk, hv, by rw [Nat.add_right_comm, Nat.add_assoc]⟩
    unfold stepsFrom at h
    split at h
    · exact later h hs
    · exact later h hs
    · cases h
    · cases h
    · cases h
    · rename_i property hv
      obtain ⟨others, ho, rfl⟩ := map_eq_ok_iff.mp h
      rcases List.mem_cons.mp hs with rfl | hso
      · exact ⟨0, first, property, rfl, hv, rfl⟩
      · exact later ho hso

/-- At a place stands the first of the constructors with the fewest parameters: none has
fewer, and those before it have more. -/
structure FirstCheapest (constructors : List (Constructor α)) (place : Nat)
    (constructor : Constructor α) : Prop where
  found : constructors[place]? = some constructor
  least : ∀ other ∈ constructors, constructor.types.length ≤ other.types.length
  first : ∀ k other, k < place → constructors[k]? = some other →
    constructor.types.length < other.types.length

namespace FirstCheapest

variable {first constructor other : Constructor α} {rest constructors : List (Constructor α)}
  {place otherPlace : Nat}

/-- The head wins against all that have no fewer parameters. -/
theorem head (h : ∀ other ∈ rest, first.types.length ≤ other.types.length) :
    FirstCheapest (first :: rest) 0 first := by
  refine ⟨rfl, ?_, ?_⟩
  · intro other ho
    rcases List.mem_cons.mp ho with rfl | ho
    · exact Nat.le_refl _
    · exact h other ho
  · intro k other hk
    exact absurd hk (Nat.not_lt_zero k)

/-- The winner of the rest wins against a head with more parameters. -/
theorem tail (h : FirstCheapest rest place constructor)
    (hfewer : constructor.types.length < first.types.length) :
    FirstCheapest (first :: rest) (place + 1) constructor := by
  refine ⟨h.found, ?_, ?_⟩
  · intro other ho
    rcases List.mem_cons.mp ho with rfl | ho
    · exact Nat.le_of_lt hfewer
    · exact h.least other ho
  · intro k other hk hother
    cases k with
    | zero =>
      cases hother
      exact hfewer
    | succ k => exact h.first k other (Nat.lt_of_succ_lt_succ hk) hother

/-- There is one first of those with the fewest parameters. -/
theorem unique (h : FirstCheapest constructors place constructor)
    (ho : FirstCheapest constructors otherPlace other) :
    place = otherPlace ∧ constructor = other := by
  have hle := h.least other (List.mem_of_getElem? ho.found)
  have hge := ho.least constructor (List.mem_of_getElem? h.found)
  rcases Nat.lt_trichotomy place otherPlace with hlt | rfl | hlt
  · exact absurd (ho.first place constructor hlt h.found) (Nat.not_lt.mpr hle)
  · exact ⟨rfl, Option.some_inj.mp (h.found.symm.trans ho.found)⟩
  · exact absurd (h.first otherPlace other hlt ho.found) (Nat.not_lt.mpr hge)

end FirstCheapest

theorem cheapestFrom?_eq_none_iff {index : Nat} {constructors : List (Constructor α)} :
    cheapestFrom? index constructors = none ↔ constructors = [] := by
  cases constructors with
  | nil => simp [cheapestFrom?]
  | cons first rest =>
    unfold cheapestFrom?
    cases cheapestFrom? (index + 1) rest with
    | none => simp
    | some choice =>
      obtain ⟨place, types⟩ := choice
      by_cases hfewer : types.length < first.arity <;> simp [hfewer]

/-- What is chosen is the first of the constructors with the fewest parameters. -/
theorem cheapestFrom?_eq_some {index place : Nat} {types : List ValueType}
    {constructors : List (Constructor α)}
    (h : cheapestFrom? index constructors = some (place, types)) :
    ∃ k constructor, FirstCheapest constructors k constructor ∧ place = index + k ∧
      constructor.types = types := by
  induction constructors generalizing index place types with
  | nil => cases h
  | cons first rest ih =>
    unfold cheapestFrom? at h
    split at h
    · rename_i restPlace restTypes hrest
      obtain ⟨k, constructor, hfirst, rfl, rfl⟩ := ih hrest
      -- the best of the rest wins only with fewer parameters than the first
      split at h
      · rename_i hfewer
        cases h
        exact ⟨k + 1, constructor, hfirst.tail hfewer, by omega, rfl⟩
      · rename_i hmore
        cases h
        refine ⟨0, first, .head ?_, rfl, rfl⟩
        intro other ho
        exact Nat.le_trans (Nat.not_lt.mp hmore) (hfirst.least other ho)
    · rename_i hrest
      cases h
      obtain rfl := cheapestFrom?_eq_none_iff.mp hrest
      exact ⟨0, first, .head (by simp), rfl, rfl⟩

variable {descriptor : Descriptor α} {resolver : Resolver} {name : String} {artifact : Artifact}

theorem plan_eq_ok_iff :
    descriptor.plan resolver name = .ok artifact ↔
      ∃ steps, descriptor.steps resolver = .ok steps ∧
        descriptor.artifact resolver.id name steps = artifact := by
  unfold plan
  exact map_eq_ok_iff

/-- A planned step stands for a member of the descriptor. -/
theorem fits_of_mem_steps {steps : List Step} (h : descriptor.steps resolver = .ok steps)
    {s : Step} (hs : s ∈ steps) : ∃ member, descriptor.Fits s member := by
  obtain ⟨k, member, property, hk, hv, rfl⟩ := mem_stepsFrom h hs
  refine ⟨member, ?_, rfl, rfl, rfl, member.sound_of_mapped hv⟩
  simpa [step] using hk

/-- The constructor of a plan is the one that was chosen. -/
theorem constructor_of_plan (hplan : descriptor.plan resolver name = .ok artifact) :
    artifact.constructor = descriptor.cheapest?.map fun (index, types) => { index, types } := by
  obtain ⟨steps, -, rfl⟩ := plan_eq_ok_iff.mp hplan
  rfl

/-- A type with a constructor has one in each of its plans. -/
theorem exists_constructor_of_plan (hplan : descriptor.plan resolver name = .ok artifact)
    (hmade : descriptor.constructors ≠ []) :
    ∃ choice, artifact.constructor = some choice := by
  cases hc : descriptor.cheapest? with
  | none => exact absurd (cheapestFrom?_eq_none_iff.mp hc) hmade
  | some choice =>
    refine ⟨⟨choice.1, choice.2⟩, ?_⟩
    rw [constructor_of_plan hplan, hc, Option.map_some]

/-- A planned constructor is there. -/
theorem exists_realizeConstructor (descriptor : Descriptor α) (id name : String)
    (steps : List Step) :
    ∃ made, descriptor.realizeConstructor (descriptor.artifact id name steps) = .ok made := by
  cases hc : descriptor.cheapest? with
  | none =>
    exact ⟨none, descriptor.realizeConstructor_eq_ok_iff.mpr (by simp [artifact, hc])⟩
  | some choice =>
    obtain ⟨k, constructor, hfirst, hplace, htypes⟩ := cheapestFrom?_eq_some hc
    rw [Nat.zero_add] at hplace
    refine ⟨some constructor, descriptor.realizeConstructor_eq_ok_iff.mpr ?_⟩
    simp only [artifact, hc, Option.map_some]
    exact ⟨constructor, by rw [hplace]; exact hfirst.found, htypes, rfl⟩

/-- What was planned for a descriptor can be realized for it. -/
theorem exists_realize_of_plan (h : descriptor.plan resolver name = .ok artifact) :
    ∃ converter, descriptor.realize artifact = .ok converter := by
  obtain ⟨steps, hsteps, rfl⟩ := plan_eq_ok_iff.mp h
  -- a planned step fits its member, and its kind has the handle of its direction
  have hfill : ∃ fill, List.Forall₂ (fun s access =>
      descriptor.fillStep (descriptor.artifact resolver.id name steps) s = .ok access)
      (steps.filter fun s => s.kind.canFill) fill := by
    refine exists_forall₂ fun s hs => ?_
    obtain ⟨hmem, hk⟩ := List.mem_filter.mp hs
    obtain ⟨member, hm⟩ := fits_of_mem_steps hsteps hmem
    exact hm.exists_fillStep hk _
  have hextract : ∃ extract, List.Forall₂ (fun s access =>
      descriptor.extractStep (descriptor.artifact resolver.id name steps) s = .ok access)
      (steps.filter fun s => s.kind.canExtract) extract := by
    refine exists_forall₂ fun s hs => ?_
    obtain ⟨hmem, hk⟩ := List.mem_filter.mp hs
    obtain ⟨member, hm⟩ := fits_of_mem_steps hsteps hmem
    exact hm.exists_extractStep hk _
  obtain ⟨fill, hfill⟩ := hfill
  obtain ⟨extract, hextract⟩ := hextract
  obtain ⟨made, hmade⟩ := descriptor.exists_realizeConstructor resolver.id name steps
  exact ⟨⟨descriptor.typeName, _, made, fill, extract⟩,
    descriptor.realize_eq_ok_iff.mpr ⟨rfl, hmade, hfill, hextract, rfl, rfl⟩⟩

end Descriptor
end PropertyBinding
