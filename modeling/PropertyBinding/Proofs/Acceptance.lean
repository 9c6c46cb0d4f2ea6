import Mathlib.Tactic.Tauto
import PropertyBinding.Proofs.Realization

/-! # Which artifacts are realized, and what is said of the others

A realization goes through the checks of an artifact in a fixed order
(`Artifact.checks`): its type, its constructor, and then step by step, first those of
filling and then those of extraction, five aspects of the member at the recorded place.
`Descriptor.Passes` says of each check what it asks, without the code that asks it, and
`Descriptor.complaint?` in which error, word by word, an artifact is refused that does not pass.

The main statement (`Descriptor.realize_iff`) is that an artifact is realized exactly if it
passes all checks, that the converter is then the one that the artifact records, and that
otherwise the error is what is said of the first check that fails.

The parts of a realization are put together by `Obeys`: a result that obeys a list of
checks is there exactly if all of them are passed, and is else the first complaint.
-/
namespace PropertyBinding

variable {α β : Type}

/-! ## The checks -/

/-- A direction of a conversion. -/
inductive Direction where
  | fill | extract
  deriving DecidableEq

namespace Direction

/-- The steps that an artifact records for a direction. -/
def steps (artifact : Artifact) : Direction → List Step
  | fill => artifact.fill
  | extract => artifact.extract

/-- Whether a slot has the handle that a direction uses. -/
def served (slot : Slot α) : Direction → Bool
  | fill => slot.hasWrite
  | extract => slot.hasRead

/-- What is said of a member that lacks the handle. -/
def lack (step : Step) : Direction → String
  | fill => s!"member '{step.member}' cannot be written"
  | extract => s!"member '{step.member}' cannot be read"

end Direction

/-- What is checked of the member at the place of a step. -/
inductive Aspect where
  /-- There is one. -/
  | place
  /-- It has the recorded name and kind. -/
  | identity
  /-- It is declared with the recorded type. -/
  | type
  /-- It is well-formed. -/
  | soundness
  /-- It has the handle that the direction uses. -/
  | handle

/-- What an aspect asks of the member at the place of a step. -/
def Aspect.Holds (direction : Direction) (step : Step) (member : Member α) : Aspect → Prop
  | place => True
  | identity => member.info.name = step.member ∧ member.info.kind = step.kind
  | type => member.info.type = step.type
  | soundness =>
    member.slot.type = member.info.type ∧
      (member.info.kind.canExtract = true → member.slot.hasRead = true) ∧
      (member.info.kind.canFill = true → member.slot.hasWrite = true)
  | handle => direction.served member.slot = true

/-- What is said of a member that is not well-formed. -/
def Member.flaw (member : Member α) : String :=
  if member.slot.type = member.info.type then
    match member.info.kind with
    | .field => "a field needs both a read and a write handle"
    | .getter => "a getter has no read handle"
    | .setter => "a setter has no write handle"
  else
    s!"declared as {member.info.type.name} but its handles operate on {member.slot.type.name}"

instance (direction : Direction) (step : Step) (member : Member α) (aspect : Aspect) :
    Decidable (aspect.Holds direction step member) :=
  match aspect with
  | .place => inferInstanceAs (Decidable True)
  | .identity => inferInstanceAs (Decidable (_ ∧ _))
  | .type => inferInstanceAs (Decidable (_ = _))
  | .soundness => inferInstanceAs (Decidable (_ ∧ _))
  | .handle => inferInstanceAs (Decidable (_ = _))

/-- Something that a realization checks of an artifact. -/
inductive Check where
  | typePath
  | constructor
  | step (direction : Direction) (step : Step) (aspect : Aspect)

/-- The checks of the member at the place of a step, in order. -/
def Step.memberChecks (direction : Direction) (step : Step) : List Check :=
  [.place, .identity, .type, .soundness].map (.step direction step)

/-- The checks of a step, in order. -/
def Step.checks (direction : Direction) (step : Step) : List Check :=
  step.memberChecks direction ++ [.step direction step .handle]

/-- The checks of all steps of a direction, in order. -/
def Artifact.stepChecks (artifact : Artifact) (direction : Direction) : List Check :=
  (direction.steps artifact).flatMap (Step.checks direction)

/-- All checks of an artifact, in order. -/
def Artifact.checks (artifact : Artifact) : List Check :=
  .typePath :: ([.constructor] ++ (artifact.stepChecks .fill ++ artifact.stepChecks .extract))

namespace Descriptor

variable (descriptor : Descriptor α) (artifact : Artifact)

/-- An artifact passes a check. -/
def Passes : Check → Prop
  | .typePath => artifact.typePath = descriptor.typePath
  | .constructor => ∀ choice, artifact.constructor = some choice →
      ∃ constructor, descriptor.constructors[choice.index]? = some constructor ∧
        constructor.types = choice.types
  | .step direction step aspect => ∃ member, descriptor.members[step.index]? = some member ∧
      aspect.Holds direction step member

/-- What is said of an artifact that does not pass a check.  A member that is not
well-formed is a fault of the descriptor; all else is a misfit of the artifact. -/
def complaint? : Check → Option Error
  | .typePath =>
    some (.artifactMismatch artifact.name descriptor.typeName
      s!"built for {artifact.typePath}, linked against {descriptor.typePath}")
  | .constructor =>
    artifact.constructor.map fun choice =>
      .artifactMismatch artifact.name descriptor.typeName
        s!"no constructor #{choice.index} with matching parameters"
  | .step _ step .place =>
    some (.artifactMismatch artifact.name descriptor.typeName
      s!"no member #{step.index} ('{step.member}')")
  | .step _ step .identity =>
    descriptor.members[step.index]?.map fun member =>
      .artifactMismatch artifact.name descriptor.typeName
        (s!"member #{step.index} is {member.info.kind.title} '{member.info.name}', " ++
          s!"expected {step.kind.title} '{step.member}'")
  | .step _ step .type =>
    descriptor.members[step.index]?.map fun member =>
      .artifactMismatch artifact.name descriptor.typeName
        s!"member '{step.member}' is {member.info.type.name}, expected {step.type.name}"
  | .step _ step .soundness =>
    descriptor.members[step.index]?.map fun member =>
      .malformedMember descriptor.typeName member.info.name member.flaw
  | .step direction step .handle =>
    some (.artifactMismatch artifact.name descriptor.typeName (direction.lack step))

instance (check : Check) : Decidable (descriptor.Passes artifact check) :=
  match check with
  | .typePath => inferInstanceAs (Decidable (_ = _))
  | .constructor => inferInstanceAs (Decidable (∀ choice ∈ artifact.constructor,
      ∃ constructor ∈ descriptor.constructors[choice.index]?, constructor.types = choice.types))
  | .step direction step aspect => inferInstanceAs (Decidable (
      ∃ member ∈ descriptor.members[step.index]?, aspect.Holds direction step member))

/-- An error is what is said of the first check in a list that an artifact does not pass. -/
def FirstComplaint (checks : List Check) (error : Error) : Prop :=
  ∃ earlier check later, checks = earlier ++ check :: later ∧
    (∀ passed ∈ earlier, descriptor.Passes artifact passed) ∧
    ¬descriptor.Passes artifact check ∧ descriptor.complaint? artifact check = some error

/-- A write is the one that a step records: that of the member at the recorded place,
under the recorded property. -/
def RecordsWrite (step : Step) (access : FillStep α) : Prop :=
  access.property = step.property ∧ descriptor.Writes step access.type access.write

/-- A read is the one that a step records. -/
def RecordsRead (step : Step) (access : ExtractStep α) : Prop :=
  access.property = step.property ∧ descriptor.Reads step access.type access.read

/-- A converter is the one that an artifact records: it has the recorded accesses, in
their order, and the constructor at the recorded place. -/
structure Records (converter : Converter α) : Prop where
  kept : converter.artifact = artifact
  typeName : converter.typeName = descriptor.typeName
  constructor : converter.constructor =
    artifact.constructor.bind fun choice => descriptor.constructors[choice.index]?
  fill : List.Forall₂ descriptor.RecordsWrite artifact.fill converter.fill
  extract : List.Forall₂ descriptor.RecordsRead artifact.extract converter.extract

variable {descriptor artifact}

/-! ## The first complaint -/

theorem not_firstComplaint_nil {error : Error} :
    ¬descriptor.FirstComplaint artifact [] error := by
  rintro ⟨earlier, check, later, h, -⟩
  cases earlier <;> cases h

theorem firstComplaint_cons {check : Check} {rest : List Check} {error : Error} :
    descriptor.FirstComplaint artifact (check :: rest) error ↔
      (¬descriptor.Passes artifact check ∧
          descriptor.complaint? artifact check = some error) ∨
        (descriptor.Passes artifact check ∧ descriptor.FirstComplaint artifact rest error) := by
  constructor
  · rintro ⟨earlier, failed, later, h, hearlier, hfails, hsaid⟩
    cases earlier with
    | nil =>
      cases h
      exact .inl ⟨hfails, hsaid⟩
    | cons first earlier =>
      cases h
      exact .inr ⟨hearlier _ List.mem_cons_self, earlier, failed, later, rfl,
        fun passed hp => hearlier passed (List.mem_cons_of_mem _ hp), hfails, hsaid⟩
  · rintro (⟨hfails, hsaid⟩ | ⟨hpasses, earlier, failed, later, rfl, hearlier, hfails, hsaid⟩)
    · exact ⟨[], check, rest, rfl, by simp, hfails, hsaid⟩
    · exact ⟨check :: earlier, failed, later, rfl, by simpa using ⟨hpasses, hearlier⟩,
        hfails, hsaid⟩

theorem firstComplaint_append {checks others : List Check} {error : Error} :
    descriptor.FirstComplaint artifact (checks ++ others) error ↔
      descriptor.FirstComplaint artifact checks error ∨
        ((∀ check ∈ checks, descriptor.Passes artifact check) ∧
          descriptor.FirstComplaint artifact others error) := by
  induction checks with
  | nil => simp [not_firstComplaint_nil]
  | cons check checks ih =>
    rw [List.cons_append, firstComplaint_cons, firstComplaint_cons, ih]
    simp only [List.mem_cons, forall_eq_or_imp]
    tauto

/-- The first check that is not passed can be looked for. -/
theorem firstComplaint_iff_find? {checks : List Check} {error : Error} :
    descriptor.FirstComplaint artifact checks error ↔
      (checks.find? fun check => !decide (descriptor.Passes artifact check)).bind
        (descriptor.complaint? artifact) = some error := by
  induction checks with
  | nil => simp [not_firstComplaint_nil]
  | cons check rest ih =>
    rw [firstComplaint_cons, ih, List.find?_cons]
    by_cases hp : descriptor.Passes artifact check <;> simp [hp]

instance (checks : List Check) (error : Error) :
    Decidable (descriptor.FirstComplaint artifact checks error) :=
  decidable_of_iff _ firstComplaint_iff_find?.symm

/-! ## Results that obey checks -/

variable (descriptor artifact) in
/-- A result is there exactly if all checks are passed, and is else the first complaint. -/
structure Obeys (result : Except Error β) (checks : List Check) : Prop where
  ok : (∃ b, result = .ok b) ↔ ∀ check ∈ checks, descriptor.Passes artifact check
  error : ∀ error, result = .error error ↔ descriptor.FirstComplaint artifact checks error

namespace Obeys

variable {result : Except Error β} {checks : List Check} {check : Check}

theorem nil (b : β) : descriptor.Obeys artifact (.ok b) [] :=
  ⟨by simp, fun error => by simp [not_firstComplaint_nil]⟩

/-- A check that is passed decides nothing. -/
theorem passed (hp : descriptor.Passes artifact check)
    (h : descriptor.Obeys artifact result checks) :
    descriptor.Obeys artifact result (check :: checks) := by
  constructor
  · rw [h.ok, List.forall_mem_cons]
    exact (and_iff_right hp).symm
  · intro error
    rw [h.error, firstComplaint_cons]
    simp [hp]

/-- A check that is not passed decides all. -/
theorem failed {said : Error} (hp : ¬descriptor.Passes artifact check)
    (hs : descriptor.complaint? artifact check = some said) (checks : List Check) :
    descriptor.Obeys artifact (.error said : Except Error β) (check :: checks) := by
  constructor
  · rw [List.forall_mem_cons]
    simp [hp]
  · intro error
    rw [firstComplaint_cons, hs]
    simp [hp]

/-- What is made of a result is checked after it. -/
theorem bind {γ : Type} {f : β → Except Error γ} {others : List Check}
    (h : descriptor.Obeys artifact result checks)
    (hf : ∀ b, result = .ok b → descriptor.Obeys artifact (f b) others) :
    descriptor.Obeys artifact (result >>= f) (checks ++ others) := by
  cases result with
  | ok b =>
    have hpassed := h.ok.mp ⟨b, rfl⟩
    have hnone : ∀ error, ¬descriptor.FirstComplaint artifact checks error := fun error he =>
      nomatch (h.error error).mpr he
    constructor
    · rw [List.forall_mem_append, and_iff_right hpassed]
      exact (hf b rfl).ok
    · intro error
      rw [firstComplaint_append, or_iff_right (hnone error), and_iff_right hpassed]
      exact (hf b rfl).error error
  | error said =>
    have hfailed : ¬∀ check ∈ checks, descriptor.Passes artifact check := by
      rw [← h.ok]
      rintro ⟨b, hb⟩
      cases hb
    constructor
    · rw [List.forall_mem_append]
      constructor
      · rintro ⟨c, hc⟩
        cases hc
      · exact fun hp => absurd hp.1 hfailed
    · intro error
      rw [firstComplaint_append, or_iff_left fun hp => hfailed hp.1, ← h.error error]
      change Except.error said = .error error ↔ _
      simp only [Except.error.injEq]

/-- What is built of a result without further checks. -/
theorem build {γ : Type} (f : β → γ) (h : descriptor.Obeys artifact result checks) :
    descriptor.Obeys artifact (result >>= fun b => .ok (f b)) checks := by
  rw [← checks.append_nil]
  exact h.bind fun b _ => .nil (f b)

/-- A list of steps is gone through in order. -/
theorem mapM {f : Step → Except Error β} {checks : Step → List Check}
    (h : ∀ step, descriptor.Obeys artifact (f step) (checks step)) (steps : List Step) :
    descriptor.Obeys artifact (steps.mapM f) (steps.flatMap checks) := by
  induction steps with
  | nil => exact .nil []
  | cons step steps ih =>
    rw [List.mapM_cons, List.flatMap_cons]
    exact (h step).bind fun first _ => ih.build (first :: ·)

end Obeys

/-! ## What each part of a realization obeys -/

theorem message_of_problem? {member : Member α} {problem : MemberProblem}
    (h : member.problem? = some problem) : problem.message = member.flaw := by
  unfold Member.problem? at h
  by_cases ht : member.slot.type = member.info.type
  · rw [if_neg (not_not_intro ht)] at h
    rw [Member.flaw, if_pos ht]
    cases hk : member.info.kind <;> rw [hk] at h <;> cases (Option.ite_none_left_eq_some.mp h).2
    all_goals rfl
  · rw [if_pos ht] at h
    cases h
    rw [Member.flaw, if_neg ht]
    rfl

theorem passes_step_iff {direction : Direction} {step : Step} {aspect : Aspect}
    {member : Member α} (h : descriptor.members[step.index]? = some member) :
    descriptor.Passes artifact (.step direction step aspect) ↔
      aspect.Holds direction step member := by
  simp [Passes, h]

theorem checkedMember_obeys (direction : Direction) (step : Step) :
    descriptor.Obeys artifact (descriptor.checkedMember artifact step)
      (step.memberChecks direction) := by
  unfold checkedMember stepMember
  cases hf : descriptor.members[step.index]? with
  | none => exact .failed (by simp [Passes, hf]) rfl _
  | some member =>
    refine .passed ((passes_step_iff hf).mpr trivial) ?_
    have hfails (aspect : Aspect) (h : ¬aspect.Holds direction step member) :
        ¬descriptor.Passes artifact (.step direction step aspect) :=
      mt (passes_step_iff hf).mp h
    by_cases hid : member.info.name = step.member ∧ member.info.kind = step.kind
    · refine .passed ((passes_step_iff hf).mpr hid) ?_
      simp only [hid.1, hid.2, ne_eq, not_true_eq_false, or_self, if_false]
      by_cases ht : member.info.type = step.type
      · refine .passed ((passes_step_iff hf).mpr ht) ?_
        simp only [ht, not_true_eq_false, if_false]
        cases hp : member.problem? with
        | none =>
          have hsound := member.problem?_eq_none_iff.mp hp
          refine .passed ((passes_step_iff hf).mpr hsound) ?_
          simp only [Except.mapError, bind, Except.bind, hp]
          exact .nil member
        | some problem =>
          have hfaulty := mt member.problem?_eq_none_iff.mpr (by simp [hp])
          simp only [Except.mapError, bind, Except.bind, hp]
          exact .failed (hfails .soundness hfaulty)
            (by rw [complaint?, hf, Member.malformed, message_of_problem? hp]; rfl) _
      · simp only [ht, not_false_eq_true, if_true]
        exact .failed (hfails .type ht) (by rw [complaint?, hf]; rfl) _
    · have hother : member.info.name ≠ step.member ∨ member.info.kind ≠ step.kind := by tauto
      simp only [hother, if_true]
      exact .failed (hfails .identity hid) (by rw [complaint?, hf]; rfl) _

/-- A result that is there for a member with the handle of the direction, and is else the
lack of it. -/
theorem obeys_handle {direction : Direction} {step : Step} {member : Member α}
    {result : Except Error β} (h : descriptor.Fits step member)
    (hserved : direction.served member.slot = true → ∃ b, result = .ok b)
    (hlack : direction.served member.slot = false →
      result = .error
        (.artifactMismatch artifact.name descriptor.typeName (direction.lack step))) :
    descriptor.Obeys artifact result [.step direction step .handle] := by
  cases hs : direction.served member.slot with
  | true =>
    obtain ⟨b, rfl⟩ := hserved hs
    exact .passed ((passes_step_iff h.found).mpr hs) (.nil b)
  | false =>
    rw [hlack hs]
    refine .failed (mt (passes_step_iff h.found).mp ?_) rfl _
    exact Bool.eq_false_iff.mp hs

theorem fillStep_obeys (step : Step) :
    descriptor.Obeys artifact (descriptor.fillStep artifact step) (step.checks .fill) := by
  refine (checkedMember_obeys .fill step).bind fun member hm => ?_
  refine obeys_handle (descriptor.checkedMember_eq_ok_iff.mp hm) (fun hs => ?_) fun hs => ?_
  · obtain ⟨write, hw⟩ := Option.isSome_iff_exists.mp hs
    rw [hw]
    exact ⟨_, rfl⟩
  · rw [Option.isSome_eq_false_iff.mp hs |> Option.isNone_iff_eq_none.mp]
    rfl

theorem extractStep_obeys (step : Step) :
    descriptor.Obeys artifact (descriptor.extractStep artifact step) (step.checks .extract) := by
  refine (checkedMember_obeys .extract step).bind fun member hm => ?_
  refine obeys_handle (descriptor.checkedMember_eq_ok_iff.mp hm) (fun hs => ?_) fun hs => ?_
  · obtain ⟨read, hr⟩ := Option.isSome_iff_exists.mp hs
    rw [hr]
    exact ⟨_, rfl⟩
  · rw [Option.isSome_eq_false_iff.mp hs |> Option.isNone_iff_eq_none.mp]
    rfl

theorem chosen_error {choice : ConstructorChoice} {reason : Misfit}
    (h : descriptor.chosen choice = .error reason) : reason = .constructor choice.index := by
  unfold chosen at h
  split at h
  · cases h; rfl
  · split at h
    · cases h
    · cases h; rfl

theorem realizeConstructor_obeys :
    descriptor.Obeys artifact (descriptor.realizeConstructor artifact) [.constructor] := by
  unfold realizeConstructor
  cases hc : artifact.constructor with
  | none => exact .passed (by simp [Passes, hc]) (.nil none)
  | some choice =>
    cases hchosen : descriptor.chosen choice with
    | ok constructor =>
      have hfound := descriptor.chosen_eq_ok_iff.mp hchosen
      have hpasses : descriptor.Passes artifact .constructor := by
        intro named hn
        cases hc.symm.trans hn
        exact ⟨constructor, hfound⟩
      refine .passed hpasses ?_
      simp only [hchosen]
      exact .nil (some constructor)
    | error reason =>
      have hfails : ¬descriptor.Passes artifact .constructor := by
        intro hp
        obtain ⟨constructor, hfound⟩ := hp choice hc
        cases hchosen.symm.trans (descriptor.chosen_eq_ok_iff.mpr hfound)
      simp only [hchosen]
      rw [chosen_error hchosen]
      exact .failed hfails (by rw [complaint?, hc]; rfl) _

theorem realize_obeys :
    descriptor.Obeys artifact (descriptor.realize artifact) artifact.checks := by
  unfold realize
  by_cases hp : artifact.typePath = descriptor.typePath
  · rw [if_neg (not_not_intro hp)]
    refine .passed hp (realizeConstructor_obeys.bind fun constructor _ => ?_)
    refine (Obeys.mapM fillStep_obeys artifact.fill).bind fun fill _ => ?_
    exact (Obeys.mapM extractStep_obeys artifact.extract).build
      (Converter.mk descriptor.typeName artifact constructor fill)
  · have hfails : ¬descriptor.Passes artifact .typePath := hp
    rw [if_pos hp]
    exact .failed hfails rfl _

/-! ## The converter of an artifact -/

/-- A converter that is realized is the one that the artifact records. -/
theorem records_of_realize {converter : Converter α}
    (h : descriptor.realize artifact = .ok converter) :
    descriptor.Records artifact converter := by
  obtain ⟨-, hmade, hfill, hextract, hname, hkept⟩ := descriptor.realize_eq_ok_iff.mp h
  refine ⟨hkept, hname, ?_, ?_, ?_⟩
  · rw [realizeConstructor_eq_ok_iff] at hmade
    cases hc : artifact.constructor with
    | none =>
      rw [hc] at hmade
      exact hmade
    | some choice =>
      rw [hc] at hmade
      obtain ⟨constructor, hfound, -, hmade⟩ := hmade
      exact hmade.trans hfound.symm
  · refine hfill.imp fun step access hstep => ?_
    obtain ⟨write, hwrites, rfl⟩ := writes_of_fillStep hstep
    exact ⟨rfl, hwrites⟩
  · refine hextract.imp fun step access hstep => ?_
    obtain ⟨read, hreads, rfl⟩ := reads_of_extractStep hstep
    exact ⟨rfl, hreads⟩

/-- A member has one write handle. -/
theorem recordsWrite_rightUnique : Relator.RightUnique descriptor.RecordsWrite := by
  rintro step ⟨property, type, write⟩ ⟨property', type', write'⟩
    ⟨rfl, member, hfound, read, hslot⟩ ⟨rfl, member', hfound', read', hslot'⟩
  cases hfound.symm.trans hfound'
  cases hslot.symm.trans hslot'
  rfl

/-- A member has one read handle. -/
theorem recordsRead_rightUnique : Relator.RightUnique descriptor.RecordsRead := by
  rintro step ⟨property, type, read⟩ ⟨property', type', read'⟩
    ⟨rfl, member, hfound, write, hslot⟩ ⟨rfl, member', hfound', write', hslot'⟩
  cases hfound.symm.trans hfound'
  cases hslot.symm.trans hslot'
  rfl

/-- An artifact records no two converters. -/
theorem Records.unique {converter other : Converter α}
    (h : descriptor.Records artifact converter) (ho : descriptor.Records artifact other) :
    converter = other := by
  have hfill : converter.fill = other.fill :=
    recordsWrite_rightUnique.forall₂ h.fill ho.fill
  have hextract : converter.extract = other.extract :=
    recordsRead_rightUnique.forall₂ h.extract ho.extract
  cases converter
  cases other
  rw [Converter.mk.injEq]
  exact ⟨h.typeName.trans ho.typeName.symm, h.kept.trans ho.kept.symm,
    h.constructor.trans ho.constructor.symm, hfill, hextract⟩

variable (descriptor artifact) in
/-- An artifact is realized exactly if it passes all checks, and the converter is then the
one that the artifact records.  Else the error is what is said of the first check, in
their order, that the artifact does not pass. -/
theorem realize_iff :
    ((∃ converter, descriptor.realize artifact = .ok converter) ↔
        ∀ check ∈ artifact.checks, descriptor.Passes artifact check) ∧
      (∀ converter, descriptor.realize artifact = .ok converter ↔
        (∀ check ∈ artifact.checks, descriptor.Passes artifact check) ∧
          descriptor.Records artifact converter) ∧
      ∀ error, descriptor.realize artifact = .error error ↔
        descriptor.FirstComplaint artifact artifact.checks error := by
  refine ⟨realize_obeys.ok, fun converter => ⟨fun h => ?_, fun ⟨hpasses, hrecords⟩ => ?_⟩,
    realize_obeys.error⟩
  · exact ⟨realize_obeys.ok.mp ⟨converter, h⟩, records_of_realize h⟩
  · obtain ⟨made, hmade⟩ := realize_obeys.ok.mpr hpasses
    rw [hmade, (records_of_realize hmade).unique hrecords]

/-- A level that is read and written, a label that is only read, a setter without its handle
and a mark whose handles are of another type. -/
def gauge : Descriptor (Int32 × String) where
  typePath := "app::Gauge"
  typeName := "Gauge"
  members := [
    .field "level" (.scalar .i32) Prod.fst fun gauge level => (level, gauge.2),
    .getter "getLabel" (.scalar .string) Prod.snd,
    ⟨{ name := "setLabel", type := .scalar .string, kind := .setter },
      ⟨.scalar .string, none, none⟩⟩,
    ⟨{ name := "mark", type := .scalar .i32, kind := .field },
      ⟨.scalar .string, some Prod.snd, some fun gauge label => (gauge.1, label)⟩⟩]
  constructors := [.ofDefault (0, "")]

/-- The step of the level. -/
def levelStep : Step :=
  ⟨0, "level", "level", .field, .scalar .i32, false⟩

/-- An artifact that fits the gauge. -/
def gaugeArtifact : Artifact :=
  ⟨"Gauge#1", "app::Gauge", "default", some ⟨0, []⟩, [levelStep],
    [⟨1, "label", "getLabel", .getter, .scalar .string, false⟩]⟩

/-- An artifact whose second step of filling is this one. -/
def gaugeFilling (step : Step) : Artifact :=
  { gaugeArtifact with fill := [levelStep, step] }

/-- Artifacts that do not fit the gauge, with what is said of them. -/
def gaugeRefusals : List (Artifact × Error) :=
  [({ gaugeArtifact with typePath := "app::Dial" },
      .artifactMismatch "Gauge#1" "Gauge" "built for app::Dial, linked against app::Gauge"),
    ({ gaugeArtifact with constructor := some ⟨1, []⟩ },
      .artifactMismatch "Gauge#1" "Gauge" "no constructor #1 with matching parameters"),
    (gaugeFilling ⟨9, "peak", "peak", .field, .scalar .i32, false⟩,
      .artifactMismatch "Gauge#1" "Gauge" "no member #9 ('peak')"),
    (gaugeFilling ⟨1, "peak", "peak", .field, .scalar .i32, false⟩,
      .artifactMismatch "Gauge#1" "Gauge"
        "member #1 is Getter 'getLabel', expected Field 'peak'"),
    (gaugeFilling ⟨0, "level", "level", .field, .scalar .i8, false⟩,
      .artifactMismatch "Gauge#1" "Gauge" "member 'level' is i32, expected i8"),
    (gaugeFilling ⟨2, "label", "setLabel", .setter, .scalar .string, false⟩,
      .malformedMember "Gauge" "setLabel" "a setter has no write handle"),
    (gaugeFilling ⟨3, "mark", "mark", .field, .scalar .i32, false⟩,
      .malformedMember "Gauge" "mark" "declared as i32 but its handles operate on string"),
    (gaugeFilling ⟨1, "label", "getLabel", .getter, .scalar .string, false⟩,
      .artifactMismatch "Gauge#1" "Gauge" "member 'getLabel' cannot be written")]

/-- One artifact is realized, and each way not to fit is told in its own words. -/
theorem realize_iff_gauge :
    (∃ converter, gauge.realize gaugeArtifact = .ok converter) ∧
      ∀ refusal ∈ gaugeRefusals, gauge.realize refusal.1 = .error refusal.2 := by
  have hfirst : ∀ refusal ∈ gaugeRefusals,
      gauge.FirstComplaint refusal.1 refusal.1.checks refusal.2 := by
    decide
  constructor
  · exact (realize_iff gauge gaugeArtifact).1.mpr (by decide)
  · intro refusal hrefusal
    exact ((realize_iff gauge refusal.1).2.2 refusal.2).mpr (hfirst refusal hrefusal)

end Descriptor
end PropertyBinding
