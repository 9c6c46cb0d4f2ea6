import PropertyBinding.Proofs.Interleaving
import PropertyBinding.Proofs.Precompilation
import PropertyBinding.Proofs.Selection

/-! # Compiling does not depend on what was compiled before

Where a cache is only asked to compile, for types of different paths and for resolvers that
name alike if they go by one identifier, each answer is the one that a new cache gives
(`Cache.answers_as_alone`).

Every answer is compared with `Cache.prepare`, which asks no cache at all.  A converter that
is kept was prepared by a resolver of the same identifier, and so by this one.  Where none is
kept, the loader cannot stand in the way: it holds only names of places that are filled, and
no two places have one name (`Artifact.nameFor_eq_iff`).  The separator does not occur in a
path, so it tells where the path ends, whatever stands in the identifier.
-/
namespace PropertyBinding

variable {α Ty : Type} {Data : Ty → Type}

/-! ## Names -/

/-- A list without a mark and one that is empty or starts with the mark can both be told from
the list that they make together. -/
theorem append_inj_of_mark {mark : α} {a b s t : List α} (ha : mark ∉ a) (hb : mark ∉ b)
    (hs : ∀ x ∈ s.head?, x = mark) (ht : ∀ x ∈ t.head?, x = mark) (h : a ++ s = b ++ t) :
    a = b ∧ s = t := by
  induction a generalizing b with
  | nil =>
    cases b with
    | nil => exact ⟨rfl, h⟩
    | cons y b =>
      -- the first item of the marked list would be one of the other
      have hy : y = mark := hs y (by rw [show s = y :: (b ++ t) from h]; rfl)
      exact absurd (hy ▸ List.mem_cons_self) hb
  | cons x a ih =>
    cases b with
    | nil =>
      have hx : x = mark := ht x (by rw [← show x :: (a ++ s) = t from h]; rfl)
      exact absurd (hx ▸ List.mem_cons_self) ha
    | cons y b =>
      obtain ⟨rfl, hrest⟩ := List.cons.inj h
      obtain ⟨rfl, hst⟩ := ih (fun hm => ha (List.mem_cons_of_mem _ hm))
        (fun hm => hb (List.mem_cons_of_mem _ hm)) hrest
      exact ⟨rfl, hst⟩

namespace Artifact

/-- What the name of an artifact has behind the path of the type. -/
def suffix (id : String) : String :=
  if id = Resolver.defaultId then "" else "$" ++ id

theorem nameFor_eq (path id : String) : nameFor path id = path ++ "Bean" ++ suffix id := by
  unfold nameFor suffix
  split
  · rw [String.append_empty]
  · simp only [String.append_assoc]
    rfl

theorem suffix_marked (id : String) : ∀ x ∈ (suffix id).toList.head?, x = '$' := by
  unfold suffix
  split
  · simp
  · simp

theorem suffix_inj {id other : String} (h : suffix id = suffix other) : id = other := by
  unfold suffix at h
  split at h <;> split at h
  · simp_all
  · simp [← String.toList_inj] at h
  · simp [← String.toList_inj] at h
  · exact (String.append_right_inj _).mp h

/-- The name of an artifact tells the type and the resolver, if the path of the type has no
separator.  The identifier may have some. -/
theorem nameFor_eq_iff {path other id otherId : String} (hp : '$' ∉ path.toList)
    (ho : '$' ∉ other.toList) :
    nameFor path id = nameFor other otherId ↔ path = other ∧ id = otherId := by
  constructor
  · intro h
    have hbean (s : String) (hs : '$' ∉ s.toList) : '$' ∉ (s ++ "Bean").toList := by
      rw [String.toList_append, List.mem_append]
      exact not_or.mpr ⟨hs, by decide⟩
    have htext : (path ++ "Bean").toList ++ (suffix id).toList =
        (other ++ "Bean").toList ++ (suffix otherId).toList := by
      rw [← String.toList_append, ← String.toList_append, ← nameFor_eq, ← nameFor_eq, h]
    obtain ⟨hpath, hid⟩ := append_inj_of_mark (hbean path hp) (hbean other ho)
      (suffix_marked id) (suffix_marked otherId) htext
    rw [String.toList_inj] at hpath hid
    exact ⟨(String.append_left_inj _).mp hpath, suffix_inj hid⟩
  · rintro ⟨rfl, rfl⟩
    rfl

end Artifact

/-! ## Resolvers that name alike -/

namespace Resolver

/-- Two resolvers behave the same, by whatever identifiers they go. -/
structure Alike (a b : Resolver) : Prop where
  access : a.access = b.access
  name? : ∀ info, a.name? info = b.name? info

variable {a b : Resolver}

theorem Alike.refl (a : Resolver) : a.Alike a :=
  ⟨rfl, fun _ => rfl⟩

theorem Alike.verdict_eq (h : a.Alike b) (member : Member α) :
    member.verdict a = member.verdict b := by
  unfold Member.verdict
  rw [h.name?, h.access]

/-- The steps of a plan depend on what a resolver does and, in the words of an error, on its
identifier. -/
theorem Alike.stepsFrom_eq (h : a.Alike b) (hid : a.id = b.id) (typeName : String) (index : Nat)
    (members : List (Member α)) :
    Descriptor.stepsFrom typeName a index members =
      Descriptor.stepsFrom typeName b index members := by
  have hfault : Member.fault? (α := α) typeName a = Member.fault? typeName b := by
    funext member
    unfold Member.fault?
    rw [h.verdict_eq, hid]
  have hstep : Descriptor.stepOf? (α := α) a = Descriptor.stepOf? b := by
    funext numbered
    unfold Descriptor.stepOf? Member.property?
    rw [h.verdict_eq]
  rw [Descriptor.stepsFrom_eq, Descriptor.stepsFrom_eq, hfault, hstep]

theorem Alike.plan_eq (h : a.Alike b) (hid : a.id = b.id) (descriptor : Descriptor α)
    (name : String) : descriptor.plan a name = descriptor.plan b name := by
  unfold Descriptor.plan Descriptor.steps
  rw [h.stepsFrom_eq hid, hid]

end Resolver

/-- What types and resolvers a cache may be asked for: the resolvers answer, and name alike if
they go by one identifier; the paths of the types have no separator and are not shared. -/
structure Coherent (shape : (type : Ty) → Descriptor (Data type))
    (asked : List (Ty × Resolver)) : Prop where
  answers : ∀ inquiry ∈ asked, inquiry.2.Answers
  alike : ∀ a ∈ asked, ∀ b ∈ asked, a.2.id = b.2.id → a.2.Alike b.2
  plain : ∀ inquiry ∈ asked, '$' ∉ (shape inquiry.1).typePath.toList
  distinct : ∀ a ∈ asked, ∀ b ∈ asked,
    (shape a.1).typePath = (shape b.1).typePath → a.1 = b.1

/-- The request that a converter be compiled for a type and a resolver. -/
def compileFor (inquiry : Ty × Resolver) : Request Ty :=
  .compile inquiry.1 inquiry.2

/-- What was handed out, whichever converter of its kind it is. -/
def Handed.unstamped (handed : Handed Data) : AnyConverter Data :=
  ⟨handed.type, handed.shared.converter⟩

namespace Cache

/-! ## What is prepared -/

section Prepare

variable {descriptor : Descriptor α} {resolver : Resolver}

theorem prepare_ok_eq (descriptor : Descriptor α) (resolver : Resolver) :
    prepare (.ok descriptor) resolver = (do
      let artifact ←
        descriptor.plan resolver (Artifact.nameFor descriptor.typePath resolver.id)
      Fault.ofError (descriptor.realize artifact)) := rfl

theorem prepare_eq_ok_iff {converter : Converter α} :
    prepare (.ok descriptor) resolver = .ok converter ↔
      ∃ artifact,
        descriptor.plan resolver (Artifact.nameFor descriptor.typePath resolver.id) =
          .ok artifact ∧
        descriptor.realize artifact = .ok converter := by
  rw [prepare_ok_eq]
  simp only [bind_eq_ok_iff, ofError_eq_ok_iff]

/-- What is planned can be built, so nothing is prepared exactly if a member stops the plan. -/
theorem prepare_eq_error_iff {fault : Fault} :
    prepare (.ok descriptor) resolver = .error fault ↔ descriptor.FirstStop resolver fault := by
  have hplan : descriptor.plan resolver (Artifact.nameFor descriptor.typePath resolver.id) =
      .error fault ↔ descriptor.FirstStop resolver fault := Descriptor.plan_eq_error_iff
  rw [prepare_ok_eq, ← hplan]
  cases hp : descriptor.plan resolver (Artifact.nameFor descriptor.typePath resolver.id) with
  | error stopped => exact ⟨fun h => by cases h; rfl, fun h => by cases h; rfl⟩
  | ok artifact =>
    obtain ⟨converter, hr⟩ := Descriptor.exists_realize_of_plan hp
    change Fault.ofError (descriptor.realize artifact) = _ ↔ _
    rw [hr]
    exact ⟨(nomatch ·), (nomatch ·)⟩

/-- A resolver that answers ends in an error of the plan, and no name counts for that. -/
theorem fault_of_prepare (h : resolver.Answers) {fault : Fault}
    (hp : prepare (.ok descriptor) resolver = .error fault) :
    ∃ error, fault = .failed error ∧ ∀ name, error ≠ .artifactConflict name := by
  obtain ⟨_, member, _, -, hstops, -⟩ := prepare_eq_error_iff.mp hp
  obtain ⟨error, rfl⟩ := hstops.exists_error h
  refine ⟨error, rfl, fun name hname => ?_⟩
  subst hname
  cases hstops

theorem prepare_congr {other : Resolver} (h : resolver.Alike other)
    (hid : resolver.id = other.id) :
    prepare (.ok descriptor) resolver = prepare (.ok descriptor) other := by
  rw [prepare_ok_eq, prepare_ok_eq, h.plan_eq hid, hid]

theorem name_of_prepare {converter : Converter α}
    (h : prepare (.ok descriptor) resolver = .ok converter) :
    converter.artifact.name = Artifact.nameFor descriptor.typePath resolver.id := by
  obtain ⟨artifact, hp, hr⟩ := prepare_eq_ok_iff.mp h
  rw [Descriptor.artifact_of_realize hr, Descriptor.name_of_plan hp]

/-- A kept converter agrees with the resolver for which it would be prepared. -/
theorem agree_of_prepare {converter : Converter α}
    (h : prepare (.ok descriptor) resolver = .ok converter) :
    agree (.ok descriptor) converter resolver = .ok () := by
  obtain ⟨artifact, hp, hr⟩ := prepare_eq_ok_iff.mp h
  obtain rfl : converter.artifact = artifact := Descriptor.artifact_of_realize hr
  exact agree_eq_ok_iff.mpr ⟨_,
    Description.compile_eq_ok_iff.mpr ⟨descriptor, rfl, Descriptor.plan_rename hp _⟩,
    (Artifact.sameMapping_iff _ _).mpr ⟨rfl, rfl, rfl⟩⟩

/-- Where its name is not taken, a converter is what is prepared. -/
theorem synthesize_of_get?_eq_none {loader : Loader}
    (h : loader.get? (Artifact.nameFor descriptor.typePath resolver.id) = none) :
    synthesize (.ok descriptor) resolver loader =
      (prepare (.ok descriptor) resolver).map fun converter =>
        (converter, (loader.define converter.artifact).2) := by
  rw [synthesize_eq_prepare]
  cases hp : prepare (.ok descriptor) resolver with
  | error fault => rfl
  | ok converter =>
    rw [← name_of_prepare hp] at h
    have hdefine := Loader.define_of_get?_eq_none h
    simp only [bind, Except.bind, Except.map, hdefine]
    rfl

end Prepare

/-! ## What the cache gathers -/

/-- A cache holds what was prepared for resolvers that it was asked for, and its loader has
names of filled places only. -/
structure Gathered (shape : (type : Ty) → Descriptor (Data type)) (asked : List (Ty × Resolver))
    (cache : Cache Ty Data) : Prop where
  kept : ∀ type id, cache.place type id = .empty ∨
    ∃ shared resolver, cache.place type id = .filled shared ∧ (type, resolver) ∈ asked ∧
      resolver.id = id ∧ prepare (.ok (shape type)) resolver = .ok shared.converter
  known : ∀ name, cache.loader.get? name ≠ none →
    ∃ inquiry ∈ asked, cache.place inquiry.1 inquiry.2.id ≠ .empty ∧
      name = Artifact.nameFor (shape inquiry.1).typePath inquiry.2.id

variable {shape : (type : Ty) → Descriptor (Data type)} {asked : List (Ty × Resolver)}

theorem gathered_empty : Gathered shape asked (empty : Cache Ty Data) where
  kept _ _ := .inl rfl
  known name h := absurd (Loader.get?_empty name) h

namespace Gathered

variable {cache : Cache Ty Data} {type : Ty} {resolver : Resolver}

/-- While a place is empty, its name is not taken. -/
theorem get?_eq_none (h : Gathered shape asked cache) (hc : Coherent shape asked)
    (hasked : (type, resolver) ∈ asked) (hempty : cache.place type resolver.id = .empty) :
    cache.loader.get? (Artifact.nameFor (shape type).typePath resolver.id) = none := by
  by_contra hne
  obtain ⟨⟨other, second⟩, hother, hused, hname⟩ := h.known _ hne
  obtain ⟨hpath, hid⟩ :=
    (Artifact.nameFor_eq_iff (hc.plain _ hasked) (hc.plain _ hother)).mp hname
  -- the name tells the type by its path, and the identifier
  obtain rfl : type = other := hc.distinct _ hasked _ hother hpath
  rw [hid] at hempty
  exact hused hempty

variable [DecidableEq Ty]

/-- What was prepared is put into its place and defined. -/
theorem published (h : Gathered shape asked cache) (hasked : (type, resolver) ∈ asked)
    {converter : Converter (Data type)}
    (hp : prepare (.ok (shape type)) resolver = .ok converter) :
    Gathered shape asked
      { (cache.publish type resolver.id converter).2 with
        loader := (cache.loader.define converter.artifact).2,
        syntheses := cache.syntheses + 1 } where
  kept other otherId := by
    by_cases hsame : type = other ∧ resolver.id = otherId
    · obtain ⟨rfl, rfl⟩ := hsame
      exact .inr ⟨_, resolver, place_put_self .., hasked, rfl, hp⟩
    · have hplace := place_put_of_ne cache type resolver.id
        (.filled ⟨cache.stamp, converter⟩) hsame
      refine (h.kept other otherId).imp hplace.trans ?_
      rintro ⟨shared, kept, hs, hrest⟩
      exact ⟨shared, kept, hplace.trans hs, hrest⟩
  known name hne := by
    by_cases hbefore : cache.loader.get? name = none
    · have hname : converter.artifact.name = name := by
        by_contra hother
        rw [Loader.get?_define, hbefore] at hne
        exact hne (if_neg hother)
      refine ⟨(type, resolver), hasked, ?_, hname.symm.trans (name_of_prepare hp)⟩
      exact (place_put_ne_empty_iff (by simp) (type, resolver.id)).mpr (.inr rfl)
    · obtain ⟨inquiry, hmem, hused, hname⟩ := h.known name hbefore
      refine ⟨inquiry, hmem, ?_, hname⟩
      exact (place_put_ne_empty_iff (by simp) (inquiry.1, inquiry.2.id)).mpr (.inl hused)

/-- Each answer is what is prepared for the type and the resolver. -/
theorem compile (h : Gathered shape asked cache) (hc : Coherent shape asked)
    (hasked : (type, resolver) ∈ asked) :
    (cache.compile type (.ok (shape type)) resolver).1.map Shared.converter =
        prepare (.ok (shape type)) resolver ∧
      Gathered shape asked (cache.compile type (.ok (shape type)) resolver).2 := by
  unfold Cache.compile
  rcases h.kept type resolver.id with hempty | ⟨shared, kept, hfilled, hkept, hid, hprepared⟩
  · simp only [hempty, synthesize_of_get?_eq_none (h.get?_eq_none hc hasked hempty)]
    cases hp : prepare (.ok (shape type)) resolver with
    | error fault =>
      obtain ⟨error, rfl, -⟩ := fault_of_prepare (hc.answers _ hasked) hp
      exact ⟨rfl, h⟩
    | ok converter => exact ⟨rfl, h.published hasked hp⟩
  · -- the kept converter was prepared for a resolver that names alike
    have hp : prepare (.ok (shape type)) resolver = .ok shared.converter := by
      rw [← hprepared]
      exact prepare_congr (hc.alike _ hasked _ hkept hid.symm) hid.symm
    simp only [hfilled, agree_of_prepare hp]
    exact ⟨hp.symm, h⟩

/-- A run of requests is answered request by request with what is prepared. -/
theorem answers (hc : Coherent shape asked) (inquiries : List (Ty × Resolver))
    (hasked : ∀ inquiry ∈ inquiries, inquiry ∈ asked) (h : Gathered shape asked cache) :
    (cache.answers (fun type => .ok (shape type)) (inquiries.map compileFor)).map
        (Except.map Handed.unstamped) =
      inquiries.map fun inquiry =>
        (prepare (.ok (shape inquiry.1)) inquiry.2).map (AnyConverter.mk inquiry.1) := by
  induction inquiries generalizing cache with
  | nil => rfl
  | cons inquiry rest ih =>
    obtain ⟨type, resolver⟩ := inquiry
    obtain ⟨hresult, hleft⟩ := h.compile hc (hasked _ List.mem_cons_self)
    rw [List.map_cons, Cache.answers, List.map_cons, List.map_cons]
    refine congrArg₂ List.cons ?_
      (ih (fun later hl => hasked later (List.mem_cons_of_mem _ hl)) hleft)
    rw [← hresult]
    -- the type of a converter is put beside it before or after its stamp is taken off
    change ((cache.compile type (.ok (shape type)) resolver).1.map (Handed.mk type)).map _ = _
    cases (cache.compile type (.ok (shape type)) resolver).1 <;> rfl

end Gathered

variable [DecidableEq Ty]

/-- **Compiling does not depend on what was compiled before.**  Whatever a cache is asked to
compile, in whatever order and how often, for types of different paths without a separator and
for resolvers that name alike if they go by one identifier: each answer is the error or the
converter that a new cache gives for the same request.  No name is ever taken, since the name
of an artifact tells the type and the resolver. -/
theorem answers_as_alone (shape : (type : Ty) → Descriptor (Data type))
    (asked : List (Ty × Resolver)) (h : Coherent shape asked) :
    let describe : (type : Ty) → Description (Data type) := fun type => .ok (shape type)
    let answers := (empty : Cache Ty Data).answers describe (asked.map compileFor)
    (answers.map (Except.map Handed.unstamped) = asked.map fun inquiry =>
      ((empty : Cache Ty Data).serve describe (compileFor inquiry)).1.map Handed.unstamped) ∧
    (∀ name, .error (.failed (.artifactConflict name)) ∉ answers) ∧
    ∀ path other id otherId : String, '$' ∉ path.toList → '$' ∉ other.toList →
      (Artifact.nameFor path id = Artifact.nameFor other otherId ↔
        path = other ∧ id = otherId) := by
  intro describe answers
  have hanswers := gathered_empty.answers h asked fun _ hi => hi
  refine ⟨?_, fun name hname => ?_, fun _ _ _ _ => Artifact.nameFor_eq_iff⟩
  · rw [hanswers]
    refine List.map_congr_left fun inquiry hi => ?_
    have halone := gathered_empty.answers h [inquiry] (by simpa using hi)
    exact (List.singleton_injective halone).symm
  · have hprepared := List.mem_map_of_mem (f := Except.map Handed.unstamped) hname
    rw [hanswers] at hprepared
    obtain ⟨inquiry, hi, hfault⟩ := List.mem_map.mp hprepared
    cases hp : prepare (.ok (shape inquiry.1)) inquiry.2 with
    | ok converter =>
      rw [hp] at hfault
      cases hfault
    | error fault =>
      rw [hp] at hfault
      cases hfault
      obtain ⟨error, herror, hother⟩ := fault_of_prepare (h.answers _ hi) hp
      cases herror
      exact hother name rfl

section Pair

/-- Two types, whose member is public in one of them only. -/
def pairShape (isPublic : Bool) : Descriptor Int32 :=
  let n : Member Int32 := .field "n" (.scalar .i32) (fun n => n) fun _ n => n
  if isPublic then ⟨"Open", "Open", [n], []⟩ else ⟨"Closed", "Closed", [n.nonPublic], []⟩

/-- A resolver that gives all members their own names, under any identifier. -/
def byName (id : String) : Resolver :=
  .ofFunction id .publicOnly fun info _ => .ok (some info.name)

/-- A resolver of its own that does what the one by name does. -/
def byNameApart (id : String) : Resolver where
  id := id
  methodName info _ := .ok (some info.name)
  fieldName info := .ok (some info.name)

/-- Requests with identifiers that look like parts of names, and with one that comes again by
another resolver. -/
def pairAsked : List (Bool × Resolver) :=
  [(true, byName "default"), (false, byName "$"), (true, byName "Open"), (true, byName "$"),
    (false, byNameApart "$"), (true, byNameApart "Open")]

theorem coherent_pairAsked : Coherent pairShape pairAsked := by
  have happart (id : String) : (byNameApart id).Alike (byName id) := by
    refine ⟨rfl, fun info => ?_⟩
    unfold Resolver.name?
    cases info.kind <;> rfl
  have hnamed : ∀ inquiry ∈ pairAsked, inquiry.2.Alike (byName inquiry.2.id) := by
    simp only [pairAsked, List.forall_mem_cons, List.not_mem_nil, false_imp_iff, implies_true,
      and_true]
    exact ⟨.refl _, .refl _, .refl _, .refl _, happart "$", happart "Open"⟩
  have hplain : ∀ type, '$' ∉ (pairShape type).typePath.toList := by decide
  have hdistinct : ∀ type other, (pairShape type).typePath = (pairShape other).typePath →
      type = other := by decide
  refine ⟨fun inquiry hi info => ?_, fun a ha b hb hid => ?_, fun _ _ => hplain _,
    fun _ _ _ _ => hdistinct _ _⟩
  · refine ⟨some info.name, Resolver.names_iff.mpr ?_⟩
    rw [(hnamed inquiry hi).name?]
    exact Resolver.name?_ofFunction ..
  · refine ⟨(hnamed a ha).access.trans (hnamed b hb).access.symm, fun info => ?_⟩
    rw [(hnamed a ha).name?, (hnamed b hb).name?, hid]

/-- Three converters are built, one of them is handed out again, and the type that is not
public is denied each time.  All this is as if every request had a cache of its own. -/
theorem answers_as_alone_pair :
    Coherent pairShape pairAsked ∧
    let describe : Bool → Description Int32 := fun type => .ok (pairShape type)
    let answers := (empty : Cache Bool fun _ => Int32).answers describe
      (pairAsked.map compileFor)
    answers.map (Except.map fun handed => (handed.shared.stamp, handed.shared.converter.name)) =
      [.ok (0, "OpenBean"), .error (.failed (.accessDenied "Closed" "n" "$")),
        .ok (1, "OpenBean$Open"), .ok (2, "OpenBean$$"),
        .error (.failed (.accessDenied "Closed" "n" "$")), .ok (1, "OpenBean$Open")] ∧
    answers.map (Except.map Handed.unstamped) = pairAsked.map fun inquiry =>
      ((empty : Cache Bool fun _ => Int32).serve describe
        (compileFor inquiry)).1.map Handed.unstamped :=
  ⟨coherent_pairAsked, by decide +kernel,
    (answers_as_alone pairShape pairAsked coherent_pairAsked).1⟩

end Pair

end Cache
end PropertyBinding
