import Mathlib.Data.List.Forall2
import PropertyBinding.Realization

/-! # What realization checks and what it keeps

`Descriptor.realize` succeeds on an artifact exactly when its type, its constructor
and each of its steps pass their own check, and none of these checks reads the name of
the artifact: `Descriptor.Fits` says of a step alone which member it stands for.  So
two artifacts that record the same steps are realized alike
(`Descriptor.realize_of_sameMapping`), and a step of the converter carries the handle of
the member at the recorded place (`Descriptor.fillStep_eq_ok_iff`).
-/
namespace PropertyBinding

variable {ε α β : Type}

theorem bind_eq_ok_iff {x : Except ε α} {f : α → Except ε β} {b : β} :
    (x >>= f) = .ok b ↔ ∃ a, x = .ok a ∧ f a = .ok b := by
  cases x <;> simp [bind, Except.bind]

theorem mapError_eq_ok_iff {ε' : Type} {x : Except ε α} {f : ε → ε'} {a : α} :
    x.mapError f = .ok a ↔ x = .ok a := by
  cases x <;> simp [Except.mapError]

theorem map_eq_ok_iff {x : Except ε α} {f : α → β} {b : β} :
    x.map f = .ok b ↔ ∃ a, x = .ok a ∧ f a = b := by
  cases x <;> simp [Except.map]

/-- A list is mapped with success exactly if each of its items is. -/
theorem mapM_eq_ok_iff {f : α → Except ε β} {as : List α} {bs : List β} :
    as.mapM f = .ok bs ↔ List.Forall₂ (fun a b => f a = .ok b) as bs := by
  induction as generalizing bs with
  | nil => cases bs <;> simp [pure, Except.pure]
  | cons a as ih =>
    rw [List.mapM_cons, bind_eq_ok_iff]
    constructor
    · rintro ⟨b, hb, h⟩
      obtain ⟨rest, hrest, he⟩ := bind_eq_ok_iff.mp h
      cases he
      exact .cons hb (ih.mp hrest)
    · intro h
      cases h with
      | cons hb hrest => exact ⟨_, hb, bind_eq_ok_iff.mpr ⟨_, ih.mpr hrest, rfl⟩⟩

/-- Every item of the first list has a partner in the second. -/
theorem exists_mem_of_forall₂ {γ : Type} {R : β → γ → Prop} {bs : List β}
    {cs : List γ}
    (h : List.Forall₂ R bs cs) : ∀ b ∈ bs, ∃ c ∈ cs, R b c := by
  induction h with
  | nil =>
    intro b hb
    cases hb
  | cons hr _ ih =>
    intro b hb
    rcases List.mem_cons.mp hb with rfl | hb
    · exact ⟨_, List.mem_cons_self, hr⟩
    · obtain ⟨c, hc, hbc⟩ := ih b hb
      exact ⟨c, List.mem_cons_of_mem _ hc, hbc⟩

theorem map_eq_map_of_forall₂ {γ δ : Type} {f : β → δ} {g : γ → δ} {bs : List β} {cs : List γ}
    (h : List.Forall₂ (fun b c => f b = g c) bs cs) : bs.map f = cs.map g := by
  have hmaps : List.Forall₂ Eq (bs.map f) (cs.map g) :=
    List.forall₂_map_left_iff.mpr (List.forall₂_map_right_iff.mpr h)
  rw [List.forall₂_eq_eq_eq] at hmaps
  exact hmaps

/-- If every item has a partner, the list has a list of partners. -/
theorem exists_forall₂ {γ : Type} {R : β → γ → Prop} {bs : List β} (h : ∀ b ∈ bs, ∃ c, R b c) :
    ∃ cs, List.Forall₂ R bs cs := by
  induction bs with
  | nil => exact ⟨[], .nil⟩
  | cons b bs ih =>
    obtain ⟨c, hc⟩ := h b List.mem_cons_self
    obtain ⟨cs, hcs⟩ := ih fun b hb => h b (List.mem_cons_of_mem _ hb)
    exact ⟨c :: cs, .cons hc hcs⟩

namespace Member

/-- A member has nothing wrong exactly if its handles are of the declared type and
those are there which its kind uses. -/
theorem problem?_eq_none_iff (member : Member α) :
    member.problem? = none ↔
      member.slot.type = member.info.type ∧
        (member.info.kind.canExtract = true → member.slot.hasRead = true) ∧
        (member.info.kind.canFill = true → member.slot.hasWrite = true) := by
  unfold problem?
  by_cases ht : member.slot.type = member.info.type
  · cases hk : member.info.kind <;> simp [ht, MemberKind.canExtract, MemberKind.canFill]
  · simp [ht]

end Member

namespace Descriptor

variable (descriptor : Descriptor α)

/-- A step stands for a member: the member is at the recorded place, is the recorded
one, and has nothing wrong. -/
structure Fits (step : Step) (member : Member α) : Prop where
  found : descriptor.members[step.index]? = some member
  name : member.info.name = step.member
  kind : member.info.kind = step.kind
  type : member.info.type = step.type
  sound : member.problem? = none

namespace Fits

variable {descriptor} {step : Step} {member : Member α}

/-- The handles of the member are of the recorded type. -/
theorem slot_type (h : descriptor.Fits step member) : member.slot.type = step.type :=
  ((member.problem?_eq_none_iff.mp h.sound).1).trans h.type

/-- A step of a kind that is filled finds a write handle. -/
theorem write (h : descriptor.Fits step member) (hk : step.kind.canFill = true) :
    ∃ write, member.slot.write = some write :=
  Option.isSome_iff_exists.mp ((member.problem?_eq_none_iff.mp h.sound).2.2 (h.kind ▸ hk))

/-- A step of a kind that is extracted finds a read handle. -/
theorem read (h : descriptor.Fits step member) (hk : step.kind.canExtract = true) :
    ∃ read, member.slot.read = some read :=
  Option.isSome_iff_exists.mp ((member.problem?_eq_none_iff.mp h.sound).2.1 (h.kind ▸ hk))

end Fits

theorem stepMember_eq_ok_iff {step : Step} {member : Member α} :
    descriptor.stepMember step = .ok member ↔
      descriptor.members[step.index]? = some member ∧ member.info.name = step.member ∧
        member.info.kind = step.kind ∧ member.info.type = step.type := by
  unfold stepMember
  cases hf : descriptor.members[step.index]? with
  | none => simp
  | some found =>
    -- the name and the kind are compared before the type
    by_cases hn : found.info.name ≠ step.member ∨ found.info.kind ≠ step.kind
    · simp only [if_pos hn, reduceCtorEq, false_iff, Option.some.injEq]
      rintro ⟨rfl, hname, hkind, -⟩
      exact hn.elim (· hname) (· hkind)
    · have hsame : found.info.name = step.member ∧ found.info.kind = step.kind := by
        simpa only [not_or, not_not] using hn
      by_cases ht : found.info.type = step.type
      · simp only [if_neg hn, ht, ne_eq, not_true_eq_false, if_false, Except.ok.injEq,
          Option.some.injEq]
        constructor
        · rintro rfl
          exact ⟨rfl, hsame.1, hsame.2, ht⟩
        · exact fun h => h.1
      · simp only [if_neg hn, ne_eq, ht, not_false_eq_true, if_true, reduceCtorEq, false_iff,
          Option.some.injEq]
        rintro ⟨rfl, -, -, htype⟩
        exact ht htype

/-- A step passes its checks exactly if it stands for a member; the artifact around it
only words the error. -/
theorem checkedMember_eq_ok_iff {artifact : Artifact} {step : Step} {member : Member α} :
    descriptor.checkedMember artifact step = .ok member ↔ descriptor.Fits step member := by
  unfold checkedMember
  rw [bind_eq_ok_iff]
  constructor
  · rintro ⟨found, hf, h⟩
    obtain ⟨hp, hn, hk, ht⟩ := descriptor.stepMember_eq_ok_iff.mp (mapError_eq_ok_iff.mp hf)
    cases hs : found.problem? with
    | some problem => rw [hs] at h; cases h
    | none =>
      rw [hs] at h
      cases h
      exact ⟨hp, hn, hk, ht, hs⟩
  · intro h
    refine ⟨member, mapError_eq_ok_iff.mpr ?_, ?_⟩
    · exact descriptor.stepMember_eq_ok_iff.mpr ⟨h.found, h.name, h.kind, h.type⟩
    · rw [h.sound]
      rfl

/-- A write is prepared exactly for a step that stands for a member with a write handle,
and it carries that handle. -/
theorem fillStep_eq_ok_iff {artifact : Artifact} {step : Step} {access : FillStep α} :
    descriptor.fillStep artifact step = .ok access ↔
      ∃ member, descriptor.Fits step member ∧ ∃ write, member.slot.write = some write ∧
        access = ⟨step.property, member.slot.type, write⟩ := by
  unfold fillStep
  rw [bind_eq_ok_iff]
  constructor
  · rintro ⟨member, hm, h⟩
    refine ⟨member, descriptor.checkedMember_eq_ok_iff.mp hm, ?_⟩
    cases hw : member.slot.write with
    | none => rw [hw] at h; cases h
    | some write =>
      rw [hw] at h
      cases h
      exact ⟨write, rfl, rfl⟩
  · rintro ⟨member, hm, write, hw, rfl⟩
    refine ⟨member, descriptor.checkedMember_eq_ok_iff.mpr hm, ?_⟩
    rw [hw]
    rfl

/-- A read is prepared exactly for a step that stands for a member with a read handle,
and it carries that handle. -/
theorem extractStep_eq_ok_iff {artifact : Artifact} {step : Step} {access : ExtractStep α} :
    descriptor.extractStep artifact step = .ok access ↔
      ∃ member, descriptor.Fits step member ∧ ∃ read, member.slot.read = some read ∧
        access = ⟨step.property, member.slot.type, read⟩ := by
  unfold extractStep
  rw [bind_eq_ok_iff]
  constructor
  · rintro ⟨member, hm, h⟩
    refine ⟨member, descriptor.checkedMember_eq_ok_iff.mp hm, ?_⟩
    cases hr : member.slot.read with
    | none => rw [hr] at h; cases h
    | some read =>
      rw [hr] at h
      cases h
      exact ⟨read, rfl, rfl⟩
  · rintro ⟨member, hm, read, hr, rfl⟩
    refine ⟨member, descriptor.checkedMember_eq_ok_iff.mpr hm, ?_⟩
    rw [hr]
    rfl

/-- The member of a step is read by a handle. -/
def Reads (step : Step) (type : ValueType) (read : ReadHandle α type) : Prop :=
  ∃ member, descriptor.members[step.index]? = some member ∧
    ∃ write, member.slot = ⟨type, some read, write⟩

/-- The member of a step is written by a handle. -/
def Writes (step : Step) (type : ValueType) (write : WriteHandle α type) : Prop :=
  ∃ member, descriptor.members[step.index]? = some member ∧
    ∃ read, member.slot = ⟨type, read, some write⟩

/-- A prepared write carries the handle of its member. -/
theorem writes_of_fillStep {descriptor : Descriptor α} {artifact : Artifact} {step : Step}
    {access : FillStep α} (h : descriptor.fillStep artifact step = .ok access) :
    ∃ write, descriptor.Writes step step.type write ∧
      access = ⟨step.property, step.type, write⟩ := by
  obtain ⟨member, hfits, write, hw, rfl⟩ := descriptor.fillStep_eq_ok_iff.mp h
  have htype : member.slot.type = step.type := hfits.slot_type
  obtain ⟨info, slotType, read, write'⟩ := member
  change slotType = step.type at htype
  change write' = some write at hw
  subst htype
  exact ⟨write, ⟨_, hfits.found, read, congrArg (Slot.mk _ read) hw⟩, rfl⟩

/-- A prepared read carries the handle of its member. -/
theorem reads_of_extractStep {descriptor : Descriptor α} {artifact : Artifact} {step : Step}
    {access : ExtractStep α} (h : descriptor.extractStep artifact step = .ok access) :
    ∃ read, descriptor.Reads step step.type read ∧
      access = ⟨step.property, step.type, read⟩ := by
  obtain ⟨member, hfits, read, hr, rfl⟩ := descriptor.extractStep_eq_ok_iff.mp h
  have htype : member.slot.type = step.type := hfits.slot_type
  obtain ⟨info, slotType, read', write⟩ := member
  change slotType = step.type at htype
  change read' = some read at hr
  subst htype
  exact ⟨read, ⟨_, hfits.found, write, congrArg (Slot.mk _ · write) hr⟩, rfl⟩

theorem Fits.exists_fillStep {descriptor : Descriptor α} {step : Step} {member : Member α}
    (h : descriptor.Fits step member) (hk : step.kind.canFill = true) (artifact : Artifact) :
    ∃ access, descriptor.fillStep artifact step = .ok access := by
  obtain ⟨write, hw⟩ := h.write hk
  exact ⟨_, descriptor.fillStep_eq_ok_iff.mpr ⟨member, h, write, hw, rfl⟩⟩

theorem Fits.exists_extractStep {descriptor : Descriptor α} {step : Step} {member : Member α}
    (h : descriptor.Fits step member) (hk : step.kind.canExtract = true) (artifact : Artifact) :
    ∃ access, descriptor.extractStep artifact step = .ok access := by
  obtain ⟨read, hr⟩ := h.read hk
  exact ⟨_, descriptor.extractStep_eq_ok_iff.mpr ⟨member, h, read, hr, rfl⟩⟩

theorem chosen_eq_ok_iff {choice : ConstructorChoice} {constructor : Constructor α} :
    descriptor.chosen choice = .ok constructor ↔
      descriptor.constructors[choice.index]? = some constructor ∧
        constructor.types = choice.types := by
  unfold chosen
  cases hf : descriptor.constructors[choice.index]? with
  | none => simp
  | some found =>
    by_cases ht : found.types = choice.types
    · simp only [if_pos ht, Except.ok.injEq, Option.some.injEq]
      constructor
      · rintro rfl
        exact ⟨rfl, ht⟩
      · exact fun h => h.1
    · simp only [if_neg ht, reduceCtorEq, false_iff, Option.some.injEq]
      rintro ⟨rfl, htypes⟩
      exact ht htypes

/-- The constructor that an artifact records is the one of its converter. -/
theorem realizeConstructor_eq_ok_iff {artifact : Artifact} {made : Option (Constructor α)} :
    descriptor.realizeConstructor artifact = .ok made ↔
      match artifact.constructor with
      | none => made = none
      | some choice => ∃ constructor, descriptor.constructors[choice.index]? = some constructor ∧
          constructor.types = choice.types ∧ made = some constructor := by
  unfold realizeConstructor
  cases artifact.constructor with
  | none => simp [eq_comm]
  | some choice =>
    simp only [map_eq_ok_iff, mapError_eq_ok_iff, chosen_eq_ok_iff, and_assoc, eq_comm (a := made)]

/-- An artifact is realized exactly if its type, its constructor and all of its steps pass
their own checks, and what these give makes up the converter. -/
theorem realize_eq_ok_iff {artifact : Artifact} {converter : Converter α} :
    descriptor.realize artifact = .ok converter ↔
      artifact.typePath = descriptor.typePath ∧
      descriptor.realizeConstructor artifact = .ok converter.constructor ∧
      List.Forall₂ (fun step access => descriptor.fillStep artifact step = .ok access)
        artifact.fill converter.fill ∧
      List.Forall₂ (fun step access => descriptor.extractStep artifact step = .ok access)
        artifact.extract converter.extract ∧
      converter.typeName = descriptor.typeName ∧ converter.artifact = artifact := by
  unfold realize
  -- an artifact of another type is refused before anything is prepared
  by_cases hp : artifact.typePath = descriptor.typePath
  · rw [if_neg (not_not_intro hp)]
    simp only [bind_eq_ok_iff, mapM_eq_ok_iff]
    constructor
    · rintro ⟨constructor, hc, fill, hf, extract, he, h⟩
      cases h
      exact ⟨hp, hc, hf, he, rfl, rfl⟩
    · rintro ⟨-, hc, hf, he, hn, ha⟩
      refine ⟨_, hc, _, hf, _, he, ?_⟩
      rw [← hn, ← ha]
      rfl
  · rw [if_pos hp]
    constructor
    · intro h
      cases h
    · exact fun h => absurd h.1 hp

/-- A converter carries the artifact it was realized from. -/
theorem artifact_of_realize {descriptor : Descriptor α} {artifact : Artifact}
    {converter : Converter α} (h : descriptor.realize artifact = .ok converter) :
    converter.artifact = artifact :=
  (descriptor.realize_eq_ok_iff.mp h).2.2.2.2.2

/-- A converter whose artifact records a constructor makes instances. -/
theorem exists_create_of_realize {descriptor : Descriptor α} {artifact : Artifact}
    {converter : Converter α} (hr : descriptor.realize artifact = .ok converter)
    {choice : ConstructorChoice} (hchoice : artifact.constructor = some choice) :
    ∃ blank, converter.create? = some blank := by
  have hmade := descriptor.realizeConstructor_eq_ok_iff.mp (descriptor.realize_eq_ok_iff.mp hr).2.1
  rw [hchoice] at hmade
  obtain ⟨constructor, -, -, hconstructor⟩ := hmade
  exact ⟨constructor.make, by rw [Converter.create?, hconstructor]; rfl⟩

/-- A realization reads nothing of an artifact but its type and its mapping, so an artifact
that maps the same members alike is realized to the same accesses. -/
theorem realize_of_sameMapping {artifact other : Artifact} {converter : Converter α}
    (h : descriptor.realize artifact = .ok converter) (hp : other.typePath = artifact.typePath)
    (hs : other.sameMapping artifact = true) :
    descriptor.realize other = .ok { converter with artifact := other } := by
  obtain ⟨hpath, hmade, hfill, hextract, hname, -⟩ := descriptor.realize_eq_ok_iff.mp h
  obtain ⟨hf, he, hc⟩ := (Artifact.sameMapping_iff _ _).mp hs
  -- each part is rebuilt from its own check, which does not mention the artifact around it
  refine descriptor.realize_eq_ok_iff.mpr ⟨hp.trans hpath, ?_, ?_, ?_, hname, rfl⟩
  · rw [realizeConstructor_eq_ok_iff] at hmade ⊢
    rw [hc]
    exact hmade
  · rw [hf]
    exact hfill.imp fun step access hstep =>
      descriptor.fillStep_eq_ok_iff.mpr (descriptor.fillStep_eq_ok_iff.mp hstep)
  · rw [he]
    exact hextract.imp fun step access hstep =>
      descriptor.extractStep_eq_ok_iff.mpr (descriptor.extractStep_eq_ok_iff.mp hstep)

end Descriptor

namespace Converter

/-- Two converters do the same: they make the same new instance, and they fill and
extract alike, whatever the instance and the store. -/
structure Alike (a b : Converter α) : Prop where
  create : a.create? = b.create?
  fill : ∀ {σ : Type} (source : Source σ) (subject : α) (state : σ),
    a.fillFrom source subject state = b.fillFrom source subject state
  extract : ∀ {σ : Type} (sink : Sink σ) (subject : α) (state : σ),
    a.extractTo sink subject state = b.extractTo sink subject state

/-- What a converter does is in its accesses and its constructor alone. -/
theorem alike_with_artifact (converter : Converter α) (other : Artifact) :
    converter.Alike { converter with artifact := other } :=
  ⟨rfl, fun _ _ _ => rfl, fun _ _ _ => rfl⟩

end Converter
end PropertyBinding
