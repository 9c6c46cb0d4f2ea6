import Mathlib.Data.List.Sort
import PropertyBinding.Proofs.MappedMembers

/-! # Which members a plan selects

A static member and one that the resolver does not name are left out of a plan, whatever
else is wrong with them.  Of the others (`Member.Selected`) the first that stops the plan
gives its fault (`Descriptor.FirstStop`).  If none does, each direction has the steps of
exactly the selected members of its kinds, in the order of the members
(`Descriptor.Plans`).

The recursion over the members is first brought into closed form
(`Descriptor.stepsFrom_eq`): look for the first fault, and collect the steps over the
numbered members if there is none.  What a single member does to a plan is read off its
verdict (`Member.verdict_eq_iff`).
-/
namespace PropertyBinding

variable {α : Type}

namespace Resolver

/-- What a resolver answers for a member: a method is named by its role, a field without
one. -/
def Names (resolver : Resolver) (info : MemberInfo) (name : Option String) : Prop :=
  match info.kind with
  | .field => resolver.fieldName info = .ok name
  | .getter => resolver.methodName info .getter = .ok name
  | .setter => resolver.methodName info .setter = .ok name

/-- A resolver has an answer for every member. -/
def Answers (resolver : Resolver) : Prop :=
  ∀ info, ∃ name, resolver.Names info name

theorem names_iff {resolver : Resolver} {info : MemberInfo} {name : Option String} :
    resolver.Names info name ↔ resolver.name? info = .ok name := by
  unfold Names name?
  cases info.kind <;> rfl

end Resolver

namespace Member

variable {resolver : Resolver} {member : Member α} {typeName : String}

/-- A member has a part in a plan: it is not static, and the resolver names it. -/
structure Selected (resolver : Resolver) (member : Member α) (property : String) : Prop where
  nonstatic : member.info.isStatic = false
  named : resolver.Names member.info (some property)

/-- A member may not be named: it is not public, and the resolver is for public ones. -/
def Denied (resolver : Resolver) (member : Member α) : Prop :=
  member.info.isPublic = false ∧ resolver.access = .publicOnly

/-- A member has a problem.  The type of the handles counts before their presence. -/
inductive Faulty (member : Member α) : MemberProblem → Prop
  | typeDiffers (h : member.slot.type ≠ member.info.type) :
      Faulty member (.typeDiffers member.info.type member.slot.type)
  | fieldIncomplete (ht : member.slot.type = member.info.type) (hk : member.info.kind = .field)
      (h : member.slot.hasRead = false ∨ member.slot.hasWrite = false) :
      Faulty member .fieldIncomplete
  | getterUnreadable (ht : member.slot.type = member.info.type)
      (hk : member.info.kind = .getter) (h : member.slot.hasRead = false) :
      Faulty member .getterUnreadable
  | setterUnwritable (ht : member.slot.type = member.info.type)
      (hk : member.info.kind = .setter) (h : member.slot.hasWrite = false) :
      Faulty member .setterUnwritable

/-- A selected member cannot be mapped: it may not be named, or its handles are of another
type than the declared one, or one that its kind uses is not there. -/
def Unmappable (resolver : Resolver) (member : Member α) : Prop :=
  member.Denied resolver ∨ member.slot.type ≠ member.info.type ∨
    (member.info.kind.canExtract = true ∧ member.slot.hasRead = false) ∨
    (member.info.kind.canFill = true ∧ member.slot.hasWrite = false)

/-- The fault with which a member stops a plan.  That it may not be named counts before what
is wrong with the member itself. -/
inductive StopsWith (typeName : String) (resolver : Resolver) (member : Member α) : Fault → Prop
  | panicked {stopped : Panic} (hs : member.info.isStatic = false)
      (h : resolver.name? member.info = .error stopped) :
      StopsWith typeName resolver member .panicked
  | denied {property : String} (h : member.Selected resolver property)
      (hd : member.Denied resolver) :
      StopsWith typeName resolver member
        (.failed (.accessDenied typeName member.info.name resolver.id))
  | malformed {property : String} {problem : MemberProblem}
      (h : member.Selected resolver property) (hd : ¬member.Denied resolver)
      (hf : member.Faulty problem) :
      StopsWith typeName resolver member
        (.failed (.malformedMember typeName member.info.name problem.message))

/-! ## A single member -/

theorem problem?_eq_some_iff {problem : MemberProblem} :
    member.problem? = some problem ↔ member.Faulty problem := by
  constructor
  · intro h
    unfold problem? at h
    split at h
    · cases h
      exact .typeDiffers ‹_›
    · have ht : member.slot.type = member.info.type := not_not.mp ‹_›
      split at h
      · split at h
        · cases h
        · cases h
          refine .fieldIncomplete ht ‹_› ?_
          rwa [← Bool.and_eq_false_iff, ← Bool.not_eq_true]
      · split at h
        · cases h
        · cases h
          exact .getterUnreadable ht ‹_› (Bool.eq_false_iff.mpr ‹_›)
      · split at h
        · cases h
        · cases h
          exact .setterUnwritable ht ‹_› (Bool.eq_false_iff.mpr ‹_›)
  · intro h
    unfold problem?
    cases h with
    | typeDiffers h => rw [if_pos h]
    | fieldIncomplete ht hk h =>
      rw [if_neg (not_not_intro ht), hk]
      exact if_neg (by simpa [← Bool.and_eq_false_iff] using h)
    | getterUnreadable ht hk h =>
      rw [if_neg (not_not_intro ht), hk]
      exact if_neg (Bool.eq_false_iff.mp h)
    | setterUnwritable ht hk h =>
      rw [if_neg (not_not_intro ht), hk]
      exact if_neg (Bool.eq_false_iff.mp h)

/-- What becomes of a member, and why. -/
inductive Judged (resolver : Resolver) (member : Member α) : Verdict → Prop
  | static (h : member.info.isStatic = true) : Judged resolver member .static
  | unnamed (hs : member.info.isStatic = false) (h : resolver.name? member.info = .ok none) :
      Judged resolver member .unnamed
  | panicked {stopped : Panic} (hs : member.info.isStatic = false)
      (h : resolver.name? member.info = .error stopped) : Judged resolver member .panicked
  | denied {property : String} (h : member.Selected resolver property)
      (hd : member.Denied resolver) : Judged resolver member .denied
  | malformed {property : String} {problem : MemberProblem}
      (h : member.Selected resolver property) (hd : ¬member.Denied resolver)
      (hf : member.Faulty problem) : Judged resolver member (.malformed property problem)
  | mapped {property : String} (h : member.Selected resolver property)
      (hd : ¬member.Denied resolver) (hsound : member.problem? = none) :
      Judged resolver member (.mapped property)

theorem denied_iff : member.Denied resolver ↔
    (member.forced && decide (resolver.access = .publicOnly)) = true := by
  simp [Denied, forced]

/-- The verdict on a member is the one that is justified. -/
theorem verdict_eq_iff {verdict : Verdict} :
    member.verdict resolver = verdict ↔ member.Judged resolver verdict := by
  constructor
  · rintro rfl
    unfold Member.verdict
    split
    · exact .static ‹_›
    · have hs : member.info.isStatic = false := Bool.eq_false_iff.mpr ‹_›
      split
      · exact .panicked hs ‹_›
      · exact .unnamed hs ‹_›
      · have hselected : member.Selected resolver _ := ⟨hs, Resolver.names_iff.mpr ‹_›⟩
        split
        · exact .denied hselected (denied_iff.mpr ‹_›)
        · have hd : ¬member.Denied resolver := fun h => absurd (denied_iff.mp h) ‹_›
          split
          · exact .malformed hselected hd (problem?_eq_some_iff.mp ‹_›)
          · exact .mapped hselected hd ‹_›
  · intro h
    unfold Member.verdict
    cases h with
    | static h => rw [if_pos h]
    | unnamed hs h => rw [hs, h]; rfl
    | panicked hs h => rw [hs, h]; rfl
    | denied h hd =>
      rw [h.nonstatic, Resolver.names_iff.mp h.named]
      exact if_pos (denied_iff.mp hd)
    | malformed h hd hf =>
      rw [h.nonstatic, Resolver.names_iff.mp h.named, problem?_eq_some_iff.mpr hf]
      exact if_neg (mt denied_iff.mpr hd)
    | mapped h hd hsound =>
      rw [h.nonstatic, Resolver.names_iff.mp h.named, hsound]
      exact if_neg (mt denied_iff.mpr hd)

/-- The fault with which a member stops a plan, if it does. -/
def fault? (typeName : String) (resolver : Resolver) (member : Member α) : Option Fault :=
  match member.verdict resolver with
  | .static | .unnamed | .mapped _ => none
  | .panicked => some .panicked
  | .denied => some (.failed (.accessDenied typeName member.info.name resolver.id))
  | .malformed _ problem => some (.failed (member.malformed typeName problem))

/-- The property to which a member is mapped, if it is. -/
def property? (resolver : Resolver) (member : Member α) : Option String :=
  match member.verdict resolver with
  | .mapped property => some property
  | _ => none

theorem fault?_eq_some_iff {fault : Fault} :
    member.fault? typeName resolver = some fault ↔
      member.StopsWith typeName resolver fault := by
  constructor
  · intro h
    have hjudged := verdict_eq_iff.mp (rfl : member.verdict resolver = _)
    unfold fault? at h
    generalize member.verdict resolver = verdict at h hjudged
    cases hjudged with
    | static _ => cases h
    | unnamed _ _ => cases h
    | mapped _ _ _ => cases h
    | panicked hs hn => cases h; exact .panicked hs hn
    | denied hselected hd => cases h; exact .denied hselected hd
    | malformed hselected hd hf => cases h; exact .malformed hselected hd hf
  · intro h
    unfold fault?
    cases h with
    | panicked hs hn => rw [verdict_eq_iff.mpr (.panicked hs hn)]
    | denied h hd => rw [verdict_eq_iff.mpr (.denied h hd)]
    | malformed h hd hf => rw [verdict_eq_iff.mpr (.malformed h hd hf)]; rfl

theorem fault?_eq_none_iff :
    member.fault? typeName resolver = none ↔
      ∀ fault, ¬member.StopsWith typeName resolver fault := by
  simp only [Option.eq_none_iff_forall_ne_some, ne_eq, fault?_eq_some_iff]

/-- A member that does not stop a plan is mapped to the property it is selected for. -/
theorem property?_eq_some_iff {property : String}
    (h : member.fault? typeName resolver = none) :
    member.property? resolver = some property ↔ member.Selected resolver property := by
  constructor
  · intro hp
    unfold property? at hp
    split at hp
    · cases hp
      cases verdict_eq_iff.mp ‹member.verdict resolver = _› with
      | mapped hselected _ _ => exact hselected
    · cases hp
  · intro hselected
    have hnone := fault?_eq_none_iff.mp h
    have hd : ¬member.Denied resolver := fun hd => hnone _ (.denied hselected hd)
    unfold property?
    cases hproblem : member.problem? with
    | none => rw [verdict_eq_iff.mpr (.mapped hselected hd hproblem)]
    | some problem =>
      exact absurd (.malformed hselected hd (problem?_eq_some_iff.mp hproblem)) (hnone _)

theorem unmappable_iff :
    member.Unmappable resolver ↔ member.Denied resolver ∨ ∃ problem, member.Faulty problem := by
  have hsound : member.problem? ≠ none ↔
      member.slot.type ≠ member.info.type ∨
        (member.info.kind.canExtract = true ∧ member.slot.hasRead = false) ∨
        (member.info.kind.canFill = true ∧ member.slot.hasWrite = false) := by
    rw [ne_eq, member.problem?_eq_none_iff, not_and_or, not_and_or]
    simp only [Classical.not_imp, Bool.not_eq_true, ne_eq]
  simp only [Unmappable, ← hsound, ← problem?_eq_some_iff, Option.ne_none_iff_exists']

/-- With a resolver that answers, the members that stop a plan are the selected ones that
cannot be mapped. -/
theorem exists_stopsWith_iff (h : resolver.Answers) :
    (∃ fault, member.StopsWith typeName resolver fault) ↔
      ∃ property, member.Selected resolver property ∧ member.Unmappable resolver := by
  constructor
  · rintro ⟨fault, hstops⟩
    cases hstops with
    | panicked hs hn =>
      obtain ⟨name, hname⟩ := h member.info
      cases (Resolver.names_iff.mp hname).symm.trans hn
    | denied hselected hd => exact ⟨_, hselected, unmappable_iff.mpr (.inl hd)⟩
    | malformed hselected hd hf =>
      exact ⟨_, hselected, unmappable_iff.mpr (.inr ⟨_, hf⟩)⟩
  · rintro ⟨property, hselected, hu⟩
    by_cases hd : member.Denied resolver
    · exact ⟨_, .denied hselected hd⟩
    · obtain ⟨problem, hf⟩ := (unmappable_iff.mp hu).resolve_left hd
      exact ⟨_, .malformed hselected hd hf⟩

/-- A resolver that answers stops no plan but by an error. -/
theorem StopsWith.exists_error {fault : Fault} (h : resolver.Answers)
    (hstops : member.StopsWith typeName resolver fault) : ∃ error, fault = .failed error := by
  cases hstops with
  | panicked hs hn =>
    obtain ⟨name, hname⟩ := h member.info
    cases (Resolver.names_iff.mp hname).symm.trans hn
  | denied _ _ => exact ⟨_, rfl⟩
  | malformed _ _ _ => exact ⟨_, rfl⟩

end Member

namespace Descriptor

variable (descriptor : Descriptor α) (resolver : Resolver)

/-- A fault is that of the first member which stops the plan. -/
def FirstStop (fault : Fault) : Prop :=
  ∃ earlier member later, descriptor.members = earlier ++ member :: later ∧
    member.StopsWith descriptor.typeName resolver fault ∧
    ∀ other ∈ earlier, ∀ fault, ¬other.StopsWith descriptor.typeName resolver fault

/-- A step of a direction is that of a member: it has the member's own place, what the member
is declared with, and the property for which the member is selected. -/
structure Selects (direction : Direction) (step : Step) (member : Member α) : Prop where
  found : descriptor.members[step.index]? = some member
  selected : member.Selected resolver step.property
  suits : direction.suits member.info.kind = true
  name : step.member = member.info.name
  kind : step.kind = member.info.kind
  type : step.type = member.info.type
  marked : step.forced = true ↔ member.info.isPublic = false

/-- An artifact is the plan of a descriptor: the steps of each direction are those of all
selected members of its kinds, each once and in the order of the members. -/
structure Plans (name : String) (artifact : Artifact) : Prop where
  named : artifact.name = name
  path : artifact.typePath = descriptor.typePath
  id : artifact.resolver = resolver.id
  made : artifact.constructor =
    descriptor.cheapest?.map fun (index, types) => { index, types }
  ordered : ∀ direction : Direction,
    (direction.steps artifact).Pairwise fun a b => a.index < b.index
  mem_iff : ∀ (direction : Direction) (step : Step), step ∈ direction.steps artifact ↔
    ∃ member, descriptor.Selects resolver direction step member

variable {descriptor resolver}

/-! ## The steps of all members -/

/-- The step of a numbered member, if it is mapped. -/
def stepOf? (resolver : Resolver) (numbered : Member α × Nat) : Option Step :=
  (numbered.1.property? resolver).map (step numbered.2 numbered.1)

/-- The steps of a list of members end with the first fault, or are those of the mapped
members under their numbers. -/
theorem stepsFrom_eq (typeName : String) (resolver : Resolver) (index : Nat)
    (members : List (Member α)) :
    stepsFrom typeName resolver index members =
      match members.findSome? (Member.fault? typeName resolver) with
      | some fault => .error fault
      | none => .ok ((members.zipIdx index).filterMap (stepOf? resolver)) := by
  induction members generalizing index with
  | nil => rfl
  | cons member rest ih =>
    unfold stepsFrom
    rw [List.findSome?_cons, List.zipIdx_cons]
    cases hv : member.verdict resolver with
    | static => simp [Member.fault?, stepOf?, Member.property?, hv, ih]
    | unnamed => simp [Member.fault?, stepOf?, Member.property?, hv, ih]
    | panicked => simp [Member.fault?, hv]
    | denied => simp [Member.fault?, hv]
    | malformed property problem => simp [Member.fault?, hv]
    | mapped property =>
      simp only [Member.fault?, hv, ih, List.filterMap_cons, stepOf?, Member.property?,
        Option.map_some]
      cases rest.findSome? (Member.fault? typeName resolver) <;> rfl

theorem steps_eq_error_iff {fault : Fault} :
    descriptor.steps resolver = .error fault ↔ descriptor.FirstStop resolver fault := by
  unfold steps FirstStop
  rw [stepsFrom_eq]
  simp only [← Member.fault?_eq_some_iff, ← Option.eq_none_iff_forall_ne_some, ← ne_eq,
    ← List.findSome?_eq_some_iff]
  cases descriptor.members.findSome? (Member.fault? descriptor.typeName resolver) <;> simp

theorem steps_eq_ok_iff {steps : List Step} :
    descriptor.steps resolver = .ok steps ↔
      (∀ member ∈ descriptor.members, member.fault? descriptor.typeName resolver = none) ∧
        steps = descriptor.members.zipIdx.filterMap (stepOf? resolver) := by
  unfold Descriptor.steps
  rw [stepsFrom_eq, ← List.findSome?_eq_none_iff]
  cases descriptor.members.findSome? (Member.fault? descriptor.typeName resolver) <;>
    simp [eq_comm]

/-- The steps of a plan are those of the selected members. -/
theorem mem_steps_iff {steps : List Step} (h : descriptor.steps resolver = .ok steps)
    {s : Step} :
    s ∈ steps ↔ ∃ member, descriptor.members[s.index]? = some member ∧
      member.Selected resolver s.property ∧ s = step s.index member s.property := by
  obtain ⟨hnone, rfl⟩ := steps_eq_ok_iff.mp h
  simp only [List.mem_filterMap, Prod.exists, List.mk_mem_zipIdx_iff_getElem?, stepOf?,
    Option.map_eq_some_iff]
  constructor
  · rintro ⟨member, index, hfound, property, hp, rfl⟩
    have hselected := (Member.property?_eq_some_iff
      (hnone member (List.mem_of_getElem? hfound))).mp hp
    exact ⟨member, hfound, hselected, rfl⟩
  · rintro ⟨member, hfound, hselected, hs⟩
    have hp := (Member.property?_eq_some_iff
      (hnone member (List.mem_of_getElem? hfound))).mpr hselected
    exact ⟨member, s.index, hfound, s.property, hp, hs.symm⟩

/-- The steps of a plan stand in the order of their members, so no member has two. -/
theorem steps_ordered {steps : List Step} (h : descriptor.steps resolver = .ok steps) :
    steps.Pairwise fun a b => a.index < b.index := by
  obtain ⟨-, rfl⟩ := steps_eq_ok_iff.mp h
  have hnumbers : descriptor.members.zipIdx.Pairwise fun a b => a.2 < b.2 := by
    rw [← List.pairwise_map (f := Prod.snd) (R := (· < ·)), List.zipIdx_map_snd]
    exact List.pairwise_lt_range' 1
  refine List.pairwise_filterMap.mpr (hnumbers.imp fun hlt s hs s' hs' => ?_)
  -- a step carries the number of its member
  obtain ⟨property, -, rfl⟩ := Option.map_eq_some_iff.mp hs
  obtain ⟨property', -, rfl⟩ := Option.map_eq_some_iff.mp hs'
  exact hlt

/-! ## The plan -/

theorem steps_artifact (id name : String) (steps : List Step) (direction : Direction) :
    direction.steps (descriptor.artifact id name steps) =
      steps.filter fun s => direction.suits s.kind := by
  cases direction <;> rfl

/-- A step of a direction is that of a member exactly if it was made for the member at its own
place, and is of a kind of the direction. -/
theorem selects_iff {direction : Direction} {s : Step} {member : Member α} :
    descriptor.Selects resolver direction s member ↔
      (descriptor.members[s.index]? = some member ∧ member.Selected resolver s.property ∧
        s = step s.index member s.property) ∧ direction.suits s.kind = true := by
  obtain ⟨index, property, name, kind, type, forced⟩ := s
  simp only [step, Step.mk.injEq, true_and]
  constructor
  · rintro ⟨hfound, hselected, hsuits, rfl, rfl, rfl, hmark⟩
    exact ⟨⟨hfound, hselected, rfl, rfl, rfl, Member.marked_iff.mp hmark⟩, hsuits⟩
  · rintro ⟨⟨hfound, hselected, rfl, rfl, rfl, hmark⟩, hsuits⟩
    exact ⟨hfound, hselected, hsuits, rfl, rfl, rfl, Member.marked_iff.mpr hmark⟩

/-- What is made of the steps of all members is the plan. -/
theorem plans_of_steps {steps : List Step} (h : descriptor.steps resolver = .ok steps)
    (name : String) :
    descriptor.Plans resolver name (descriptor.artifact resolver.id name steps) := by
  refine ⟨rfl, rfl, rfl, rfl, fun direction => ?_, fun direction s => ?_⟩
  · rw [steps_artifact]
    exact (steps_ordered h).filter _
  · rw [steps_artifact, List.mem_filter, mem_steps_iff h, ← exists_and_right]
    exact exists_congr fun member => selects_iff.symm

/-- A list in the order of its places is known by its items. -/
theorem eq_of_ordered {steps others : List Step}
    (h : steps.Pairwise fun a b => a.index < b.index)
    (ho : others.Pairwise fun a b => a.index < b.index)
    (hmem : ∀ s, s ∈ steps ↔ s ∈ others) : steps = others := by
  have hirrefl : Std.Irrefl fun a b : Step => a.index < b.index :=
    ⟨fun a => Nat.lt_irrefl a.index⟩
  have hantisymm : Std.Antisymm fun a b : Step => a.index < b.index :=
    ⟨fun a b hab hba => absurd hba (Nat.lt_asymm hab)⟩
  exact h.eq_of_mem_iff ho hmem

/-- A descriptor has one plan at most. -/
theorem Plans.unique {name : String} {artifact other : Artifact}
    (h : descriptor.Plans resolver name artifact) (ho : descriptor.Plans resolver name other) :
    artifact = other := by
  have hsteps (direction : Direction) : direction.steps artifact = direction.steps other :=
    eq_of_ordered (h.ordered direction) (ho.ordered direction) fun s =>
      (h.mem_iff direction s).trans (ho.mem_iff direction s).symm
  cases artifact
  cases other
  rw [Artifact.mk.injEq]
  exact ⟨h.named.trans ho.named.symm, h.path.trans ho.path.symm, h.id.trans ho.id.symm,
    h.made.trans ho.made.symm, hsteps .fill, hsteps .extract⟩

theorem plan_eq_error_iff {name : String} {fault : Fault} :
    descriptor.plan resolver name = .error fault ↔ descriptor.FirstStop resolver fault := by
  rw [← steps_eq_error_iff]
  unfold plan
  cases descriptor.steps resolver <;> simp [Except.map]

/-- There is a plan exactly if no member stops it. -/
theorem exists_plan_iff {name : String} :
    (∃ artifact, descriptor.plan resolver name = .ok artifact) ↔
      ∀ member ∈ descriptor.members, ∀ fault,
        ¬member.StopsWith descriptor.typeName resolver fault := by
  simp only [← Member.fault?_eq_none_iff]
  constructor
  · rintro ⟨artifact, h⟩
    obtain ⟨steps, hsteps, -⟩ := plan_eq_ok_iff.mp h
    exact (steps_eq_ok_iff.mp hsteps).1
  · intro hnone
    exact ⟨_, plan_eq_ok_iff.mpr ⟨_, steps_eq_ok_iff.mpr ⟨hnone, rfl⟩, rfl⟩⟩

/-- **A plan selects exactly the right members.**  With a resolver that answers, a plan fails
exactly if some selected member cannot be mapped, and the error is that of the first such
member.  What is wrong with the members that are left out does not count.  Else each direction
has the steps of all selected members of its kinds, each once, in their order and with their
own places. -/
theorem plan_selects (descriptor : Descriptor α) (resolver : Resolver) (name : String)
    (h : resolver.Answers) :
    ((∃ fault, descriptor.plan resolver name = .error fault) ↔
        ∃ member ∈ descriptor.members, ∃ property,
          member.Selected resolver property ∧ member.Unmappable resolver) ∧
      (∀ fault, descriptor.plan resolver name = .error fault ↔
        ∃ error, fault = .failed error ∧ descriptor.FirstStop resolver (.failed error)) ∧
      ∀ artifact, descriptor.plan resolver name = .ok artifact ↔
        (∀ member ∈ descriptor.members, ∀ property, member.Selected resolver property →
          ¬member.Unmappable resolver) ∧ descriptor.Plans resolver name artifact := by
  have hplan : (∃ artifact, descriptor.plan resolver name = .ok artifact) ↔
      ∀ member ∈ descriptor.members, ∀ property, member.Selected resolver property →
        ¬member.Unmappable resolver := by
    rw [exists_plan_iff]
    refine forall₂_congr fun member _ => ?_
    rw [← not_exists, Member.exists_stopsWith_iff h]
    simp only [not_exists, not_and]
  refine ⟨?_, fun fault => ?_, fun artifact => ⟨fun hok => ?_, fun ⟨hnone, hplans⟩ => ?_⟩⟩
  · have hfails : (∃ fault, descriptor.plan resolver name = .error fault) ↔
        ¬∃ artifact, descriptor.plan resolver name = .ok artifact := by
      cases descriptor.plan resolver name <;> simp
    rw [hfails, hplan]
    push Not
    rfl
  · rw [plan_eq_error_iff]
    constructor
    · intro hfirst
      obtain ⟨earlier, member, later, -, hstops, -⟩ := id hfirst
      obtain ⟨error, rfl⟩ := hstops.exists_error h
      exact ⟨error, rfl, hfirst⟩
    · rintro ⟨error, rfl, hfirst⟩
      exact hfirst
  · obtain ⟨steps, hsteps, rfl⟩ := plan_eq_ok_iff.mp hok
    exact ⟨hplan.mp ⟨_, hok⟩, plans_of_steps hsteps name⟩
  · obtain ⟨planned, hok⟩ := hplan.mpr hnone
    obtain ⟨steps, hsteps, rfl⟩ := plan_eq_ok_iff.mp hok
    rw [hok, (plans_of_steps hsteps name).unique hplans]

section Medley

/-- A type with two members that have no handles, one of them static, before an accessor pair
and a field that is not public. -/
def medley : Descriptor Int32 where
  typePath := "Medley"
  typeName := "Medley"
  members :=
    [⟨{ name := "total", type := .value, kind := .field, isStatic := true },
        ⟨.scalar .i32, none, none⟩⟩,
      ⟨{ name := "scratch", type := .value, kind := .getter }, ⟨.scalar .i32, none, none⟩⟩,
      .getter "getN" (.scalar .i32) fun n => n,
      .setter "setN" (.scalar .i32) fun _ n => n,
      (Member.field "hidden" (.scalar .i32) (fun n => n) fun _ n => n).nonPublic]

/-- A resolver that maps all members to one property, except those of any value. -/
def single (access : AccessPolicy) : Resolver :=
  .ofFunction "single" access fun info _ => .ok (if info.type = .value then none else some "n")

theorem answers_single (access : AccessPolicy) : (single access).Answers := by
  intro info
  exact ⟨_, Resolver.names_iff.mpr (Resolver.name?_ofFunction ..)⟩

/-- The two members without handles are left out.  The others are mapped at their own places to
one property by a resolver that may force access, and the last one stops the plan of the other. -/
theorem plan_selects_medley :
    (∀ access, (single access).Answers) ∧
    (∃ artifact, medley.plan (single .forceNonPublic) "M" = .ok artifact ∧
      artifact.fill.map Step.index = [3, 4] ∧ artifact.extract.map Step.index = [2, 4] ∧
      medley.Plans (single .forceNonPublic) "M" artifact) ∧
    ∃ error, medley.plan (single .publicOnly) "M" = .error (.failed error) ∧
      error = .accessDenied "Medley" "hidden" "single" ∧
      medley.FirstStop (single .publicOnly) (.failed error) := by
  obtain ⟨-, -, hok⟩ :=
    plan_selects medley (single .forceNonPublic) "M" (answers_single .forceNonPublic)
  obtain ⟨-, hfails, -⟩ :=
    plan_selects medley (single .publicOnly) "M" (answers_single .publicOnly)
  obtain ⟨error, herror, hfirst⟩ := (hfails _).mp rfl
  cases herror
  exact ⟨answers_single, ⟨_, rfl, rfl, rfl, ((hok _).mp rfl).2⟩, _, rfl, rfl, hfirst⟩

end Medley

end Descriptor
end PropertyBinding
