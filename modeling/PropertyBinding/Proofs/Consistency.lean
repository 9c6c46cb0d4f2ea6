import Mathlib.Data.List.Nodup
import PropertyBinding.Proofs.FailedInstall

/-! # A cache, its loader and its count agree

A converter reaches a place in two ways: a compilation realizes an artifact, then defines it
and counts; an installation defines the artifact first and does not count.  In between, supplied
code may stop, and an artifact may be refused.  Whatever calls were made, the artifact of every
converter that is there is the one that the loader holds under its name, is made for the type
and the resolver of its place, and gives the converter when it is realized (`Cache.Kept`); and
the number of syntheses is the number of places that compilations have filled
(`Cache.consistent_attempted`).

All of this rests on what a call can leave behind (`Cache.Leaves`): nothing new but a
definition, a poisoned place, or a converter in a place that was empty.
-/
namespace PropertyBinding

variable {Ty : Type} {Data : Ty → Type}

/-- No type tells another shape than this one at an attempt; it may stop instead. -/
def Attempt.Follows (shape : (type : Ty) → Descriptor (Data type)) (attempt : Attempt Ty Data) :
    Prop :=
  ∀ type descriptor, attempt.describe type = .ok descriptor → descriptor = shape type

/-- Whether a request is one to compile. -/
def Request.compiles : Request Ty → Bool
  | .compile .. => true
  | .install .. => false

namespace Loader

/-- What is defined in one loader is defined in the other. -/
def Within (loader after : Loader) : Prop :=
  ∀ name held, loader.get? name = some held → after.get? name = some held

theorem Within.refl (loader : Loader) : loader.Within loader :=
  fun _ _ h => h

theorem within_define {loader after : Loader} {artifact : Artifact}
    (h : loader.define artifact = (.ok artifact, after)) : loader.Within after :=
  fun _ _ hheld => get?_of_define hheld h

/-- A definition that is answered is there. -/
theorem get?_of_defined {loader after : Loader} {artifact : Artifact}
    (h : loader.define artifact = (.ok artifact, after)) :
    after.get? artifact.name = some artifact := by
  have hok : (loader.define artifact).1 = .ok artifact := by rw [h]
  rcases (define_eq_ok_iff.mp hok).2 with hnone | hsome
  · have hnew := loader.get?_define artifact artifact.name
    rw [h, hnone] at hnew
    exact hnew.trans (if_pos rfl)
  · exact within_define h _ _ hsome

end Loader

namespace Cache

variable [DecidableEq Ty]

/-- A converter at a place agrees with the type, the resolver and the loader. -/
structure Kept (shape : (type : Ty) → Descriptor (Data type)) (loader : Loader) (type : Ty)
    (id : String) (converter : Converter (Data type)) : Prop where
  /-- The loader holds its artifact under its name. -/
  defined : loader.get? converter.name = some converter.artifact
  typePath : converter.artifact.typePath = (shape type).typePath
  resolver : converter.artifact.resolver = id
  realized : (shape type).realize converter.artifact = .ok converter

/-- What a request can leave behind. -/
inductive Leaves (shape : (type : Ty) → Descriptor (Data type)) (cache : Cache Ty Data) :
    Request Ty → Cache Ty Data → Prop
  /-- Every place is as it was. -/
  | unchanged {request : Request Ty} {loader : Loader} (hl : cache.loader.Within loader) :
      Leaves shape cache request { cache with loader }
  /-- Supplied code has stopped behind a place. -/
  | poisoned {request : Request Ty} {type : Ty} {id : String} {loader : Loader}
      (hl : cache.loader.Within loader) :
      Leaves shape cache request (Cache.put { cache with loader } type id .poisoned)
  /-- A new converter is in a place that was empty; only a compilation is counted. -/
  | filled {request : Request Ty} {type : Ty} {id : String} {converter : Converter (Data type)}
      {loader : Loader} (hl : cache.loader.Within loader) (hv : cache.place type id = .empty)
      (hk : Kept shape loader type id converter) :
      Leaves shape cache request
        { (publish { cache with loader } type id converter).2 with
          syntheses := cache.syntheses + request.compiles.toNat }

variable {shape : (type : Ty) → Descriptor (Data type)} {cache left : Cache Ty Data}
  {request : Request Ty} {type : Ty} {id : String}

/-! ## What a request leaves -/

theorem leaves_afterFault (fault : Fault) :
    Leaves shape cache request (cache.afterFault type id fault) := by
  cases fault with
  | failed error => exact .unchanged (.refl cache.loader)
  | panicked => exact .poisoned (.refl cache.loader)

omit [DecidableEq Ty] in
/-- What is realized and defined is kept under the resolver of its artifact. -/
theorem kept_of_realize {loader : Loader} {artifact : Artifact}
    {converter : Converter (Data type)} (hr : (shape type).realize artifact = .ok converter)
    (hl : loader.get? artifact.name = some artifact) :
    Kept shape loader type artifact.resolver converter := by
  obtain ⟨hpath, -, -, -, -, rfl⟩ := (shape type).realize_eq_ok_iff.mp hr
  exact ⟨hl, hpath, rfl, hr⟩

theorem leaves_of_compiles {description : Description (Data type)} {resolver : Resolver}
    {result : Except Fault (Shared (Data type))}
    (hd : ∀ descriptor, description = .ok descriptor → descriptor = shape type)
    (h : Compiles cache type description resolver result left) :
    Leaves shape cache (.compile type resolver) left := by
  cases h with
  | poisoned _ => exact .unchanged (.refl cache.loader)
  | hit _ _ => exact .unchanged (.refl cache.loader)
  | refused _ _ => exact leaves_afterFault _
  | failed _ _ => exact leaves_afterFault _
  | made hv hs =>
    obtain ⟨descriptor, artifact, ht, hp, hr, hl⟩ := synthesize_eq_ok_iff.mp hs
    obtain rfl := hd descriptor ht
    have hid : artifact.resolver = resolver.id := by
      obtain ⟨steps, -, rfl⟩ := Descriptor.plan_eq_ok_iff.mp hp
      rfl
    exact .filled (Loader.within_define hl) hv
      (hid ▸ kept_of_realize hr (Loader.get?_of_defined hl))

theorem leaves_of_installs {description : Description (Data type)} {s : List Json.Symbol}
    {result : Except Fault (Shared (Data type))}
    (hd : ∀ descriptor, description = .ok descriptor → descriptor = shape type)
    (h : Installs cache type description s result left) :
    Leaves shape cache (.install type s) left := by
  cases h with
  | undecoded _ => exact .unchanged (.refl cache.loader)
  | poisoned _ _ => exact .unchanged (.refl cache.loader)
  | conflict _ _ _ => exact .unchanged (.refl cache.loader)
  | kept _ _ hl => exact .unchanged (Loader.within_define hl)
  | misfit _ _ hl _ _ => exact .unchanged (Loader.within_define hl)
  | panicked _ _ hl _ => exact .poisoned (Loader.within_define hl)
  | made _ hv hl ht hr =>
    obtain rfl := hd _ ht
    exact .filled (Loader.within_define hl) hv
      (kept_of_realize hr (Loader.get?_of_defined hl))

theorem leaves_attempt (cache : Cache Ty Data) {attempt : Attempt Ty Data}
    (h : attempt.Follows shape) : Leaves shape cache attempt.request (cache.attempt attempt).2 := by
  unfold Cache.attempt
  cases attempt.request with
  | compile type resolver => exact leaves_of_compiles (h type) (cache.compiles type _ resolver)
  | install type s => exact leaves_of_installs (h type) (cache.installs type _ s)

/-! ## What is kept -/

variable (shape) in
/-- Every converter of a cache is kept in agreement with its loader. -/
def Consistent (cache : Cache Ty Data) : Prop :=
  ∀ type id shared, cache.place type id = .filled shared →
    Kept shape cache.loader type id shared.converter

omit [DecidableEq Ty] in
theorem consistent_empty : Consistent shape (empty : Cache Ty Data) :=
  fun _ _ _ h => nomatch h

omit [DecidableEq Ty] in
theorem Kept.within {loader after : Loader} {converter : Converter (Data type)}
    (h : Kept shape loader type id converter) (hl : loader.Within after) :
    Kept shape after type id converter :=
  ⟨hl _ _ h.defined, h.typePath, h.resolver, h.realized⟩

omit [DecidableEq Ty] in
theorem Consistent.with_loader (hc : Consistent shape cache) {loader : Loader}
    (hl : cache.loader.Within loader) : Consistent shape { cache with loader } :=
  fun type id shared hs => (hc type id shared hs).within hl

theorem Consistent.put (hc : Consistent shape cache) {content : Place (Data type)}
    (h : ∀ shared, content = .filled shared →
      Kept shape cache.loader type id shared.converter) :
    Consistent shape (cache.put type id content) := by
  intro other otherId shared hs
  rcases filled_of_put
    (P := fun type id shared => Kept shape cache.loader type id shared.converter) h hs with
    hbefore | hnew
  · exact hc other otherId shared hbefore
  · exact hnew

/-- A request keeps every converter in agreement, and adds only such. -/
theorem Consistent.leaves (hc : Consistent shape cache) (h : Leaves shape cache request left) :
    Consistent shape left := by
  cases h with
  | unchanged hl => exact hc.with_loader hl
  | poisoned hl => exact (hc.with_loader hl).put fun _ hp => nomatch hp
  | @filled type id converter loader hl hv hk =>
    have hput : Consistent shape
        (Cache.put { cache with loader } type id (.filled ⟨cache.stamp, converter⟩)) :=
      (hc.with_loader hl).put fun _ hp => by cases hp; exact hk
    exact hput

/-! ## What is counted -/

/-- The keys whose place holds a converter now and held none before. -/
def gained (before left : Cache Ty Data) : List (Ty × String) :=
  left.keys.filter fun key =>
    (left.place key.1 key.2).isFilled && !(before.place key.1 key.2).isFilled

/-- The keys that the attempts of a run fill, in order, each with whether a compilation
filled it. -/
def fillings (cache : Cache Ty Data) : List (Attempt Ty Data) → List ((Ty × String) × Bool)
  | [] => []
  | attempt :: rest =>
    let left := (cache.attempt attempt).2
    (gained cache left).map (·, attempt.request.compiles) ++ left.fillings rest

/-- A list has the keys that were ever filled, and tells which of them by compilations. -/
structure Tallied (cache : Cache Ty Data) (filled : List ((Ty × String) × Bool)) : Prop where
  count : cache.syntheses = filled.countP Prod.snd
  distinct : (filled.map Prod.fst).Nodup
  /-- A place that was filled is never empty again. -/
  spent : ∀ key ∈ filled.map Prod.fst, cache.place key.1 key.2 ≠ .empty
  found : ∀ type id, (cache.place type id).isFilled = true → (type, id) ∈ filled.map Prod.fst
  known : ∀ type id, cache.place type id ≠ .empty → (type, id) ∈ cache.keys
  keys : cache.keys.Nodup

omit [DecidableEq Ty] in
theorem tallied_empty : Tallied (empty : Cache Ty Data) [] where
  count := rfl
  distinct := List.nodup_nil
  spent _ h := nomatch h
  found _ _ h := nomatch h
  known _ _ h := absurd rfl h
  keys := List.nodup_nil

theorem mem_keys_put {content : Place (Data type)} {key : Ty × String} :
    key ∈ (cache.put type id content).keys ↔ key ∈ cache.keys ∨ key = (type, id) := by
  unfold put
  by_cases hk : (type, id) ∈ cache.keys
  · simp only [if_pos hk]
    constructor
    · exact .inl
    · rintro (h | rfl)
      · exact h
      · exact hk
  · simp [if_neg hk]

theorem nodup_keys_put (h : cache.keys.Nodup) (content : Place (Data type)) :
    (cache.put type id content).keys.Nodup := by
  unfold put
  by_cases hk : (type, id) ∈ cache.keys
  · rw [if_pos hk]
    exact h
  · rw [if_neg hk, ← List.concat_eq_append]
    exact h.concat hk

omit [DecidableEq Ty] in
/-- Nothing is gained where every converter was there before. -/
theorem gained_eq_nil (h : ∀ type id, (left.place type id).isFilled = true →
    (cache.place type id).isFilled = true) : gained cache left = [] := by
  refine List.filter_eq_nil_iff.mpr fun key _ => ?_
  cases hl : (left.place key.1 key.2).isFilled with
  | false => simp
  | true => simp [h key.1 key.2 hl]

/-- A converter that is put into an empty place is gained, and nothing else. -/
theorem gained_put (cache : Cache Ty Data) (hk : cache.keys.Nodup) {shared : Shared (Data type)}
    (hv : cache.place type id = .empty) :
    gained cache (cache.put type id (.filled shared)) = [(type, id)] := by
  have hmem : ∀ key, key ∈ gained cache (cache.put type id (.filled shared)) ↔
      key ∈ [(type, id)] := by
    intro key
    rw [List.mem_singleton]
    constructor
    · intro h
      by_contra hne
      have hfilled := (List.mem_filter.mp h).2
      rw [place_put_of_ne_key key hne, Bool.and_not_self] at hfilled
      cases hfilled
    · rintro rfl
      refine List.mem_filter.mpr ⟨mem_keys_put.mpr (.inr rfl), ?_⟩
      simp only [place_put_self, hv]
      rfl
  have hperm := (List.perm_ext_iff_of_nodup ((nodup_keys_put hk _).filter _)
    (List.nodup_singleton (type, id))).mpr hmem
  exact List.perm_singleton.mp hperm

namespace Tallied

variable {filled : List ((Ty × String) × Bool)}

omit [DecidableEq Ty] in
theorem with_loader (h : Tallied cache filled) (loader : Loader) :
    Tallied { cache with loader } filled :=
  ⟨h.count, h.distinct, h.spent, h.found, h.known, h.keys⟩

theorem known_put (h : Tallied cache filled) {content : Place (Data type)}
    (hc : content ≠ .empty) (other : Ty) (otherId : String)
    (hne : (cache.put type id content).place other otherId ≠ .empty) :
    (other, otherId) ∈ (cache.put type id content).keys :=
  mem_keys_put.mpr <|
    ((place_put_ne_empty_iff hc (other, otherId)).mp hne).imp_left (h.known other otherId)

/-- A place that is poisoned gives up its converter, if it has one, and stays accounted for. -/
theorem put_poisoned (h : Tallied cache filled) (type : Ty) (id : String) :
    Tallied (cache.put type id .poisoned) filled where
  count := h.count
  distinct := h.distinct
  spent key hkey := (place_put_ne_empty_iff (by simp) key).mpr (.inl (h.spent key hkey))
  found other otherId hf := by
    by_cases hsame : (other, otherId) = (type, id)
    · cases hsame
      rw [place_put_self] at hf
      cases hf
    · rw [place_put_of_ne_key (other, otherId) hsame] at hf
      exact h.found other otherId hf
  known := h.known_put (by simp)
  keys := nodup_keys_put h.keys _

/-- A converter that is put into an empty place is one more, and counts if it is compiled. -/
theorem put_filled (h : Tallied cache filled) {shared : Shared (Data type)}
    (hv : cache.place type id = .empty) (compiled : Bool) :
    Tallied
      { cache.put type id (.filled shared) with
        syntheses := cache.syntheses + compiled.toNat, stamp := cache.stamp + 1 }
      (filled ++ [((type, id), compiled)]) where
  count := by
    rw [List.countP_append, ← h.count]
    cases compiled <;> rfl
  distinct := by
    rw [List.map_append, List.map_singleton, ← List.concat_eq_append]
    refine h.distinct.concat fun hkey => ?_
    exact h.spent _ hkey hv
  spent key hkey := by
    refine (place_put_ne_empty_iff (by simp) key).mpr ?_
    rw [List.map_append, List.mem_append, List.map_singleton, List.mem_singleton] at hkey
    exact hkey.imp_left (h.spent key)
  found other otherId hf := by
    rw [List.map_append, List.mem_append, List.map_singleton, List.mem_singleton]
    by_cases hsame : (other, otherId) = (type, id)
    · exact .inr hsame
    · have hbefore : (cache.place other otherId).isFilled = true := by
        rwa [← place_put_of_ne_key (other, otherId) hsame]
      exact .inl (h.found other otherId hbefore)
  known := h.known_put (by simp)
  keys := nodup_keys_put h.keys (.filled shared)

omit [DecidableEq Ty] in
theorem of_gained {before : Cache Ty Data} {keys : List (Ty × String)} {compiled : Bool}
    (hg : gained before left = keys) (h : Tallied left (filled ++ keys.map (·, compiled))) :
    Tallied left (filled ++ (gained before left).map (·, compiled)) := by
  rw [hg]
  exact h

/-- What a request leaves is tallied by the keys that it has gained. -/
theorem leaves (ht : Tallied cache filled) (h : Leaves shape cache request left) :
    Tallied left (filled ++ (gained cache left).map (·, request.compiles)) := by
  cases h with
  | @unchanged loader hl =>
    refine of_gained (gained_eq_nil fun _ _ hf => hf) ?_
    rw [List.map_nil, List.append_nil]
    exact ht.with_loader loader
  | @poisoned type id loader hl =>
    refine of_gained (gained_eq_nil fun other otherId hf => ?_) ?_
    · by_cases hsame : (other, otherId) = (type, id)
      · cases hsame
        rw [place_put_self] at hf
        cases hf
      · rwa [place_put_of_ne_key (other, otherId) hsame] at hf
    · rw [List.map_nil, List.append_nil]
      exact (ht.with_loader loader).put_poisoned type id
  | @filled type id converter loader hl hv hk =>
    exact of_gained (gained_put { cache with loader } ht.keys hv)
      ((ht.with_loader loader).put_filled hv request.compiles)

omit [DecidableEq Ty] in
/-- If no place is poisoned, all that was filled is still there. -/
theorem size_eq (h : Tallied cache filled) (hp : ∀ type id, cache.place type id ≠ .poisoned) :
    cache.size = filled.length := by
  have hmem : ∀ key, key ∈ cache.keys.filter (fun key => (cache.place key.1 key.2).isFilled) ↔
      key ∈ filled.map Prod.fst := by
    intro key
    rw [List.mem_filter]
    constructor
    · exact fun hf => h.found key.1 key.2 hf.2
    · intro hkey
      have hused := h.spent key hkey
      refine ⟨h.known key.1 key.2 hused, ?_⟩
      cases hplace : cache.place key.1 key.2 with
      | empty => exact absurd hplace hused
      | poisoned => exact absurd hplace (hp key.1 key.2)
      | filled shared => rfl
  have hperm := (List.perm_ext_iff_of_nodup (h.keys.filter _) h.distinct).mpr hmem
  rw [size, List.countP_eq_length_filter, hperm.length_eq, List.length_map]

end Tallied

/-! ## Runs -/

/-- What one attempt preserves, a run of them does. -/
theorem invariants_attempted {attempts : List (Attempt Ty Data)}
    {filled : List ((Ty × String) × Bool)} (h : ∀ attempt ∈ attempts, attempt.Follows shape)
    (hc : Consistent shape cache) (ht : Tallied cache filled) :
    Consistent shape (cache.attempted attempts) ∧
      Tallied (cache.attempted attempts) (filled ++ cache.fillings attempts) := by
  induction attempts generalizing cache filled with
  | nil =>
    rw [fillings, List.append_nil]
    exact ⟨hc, ht⟩
  | cons attempt rest ih =>
    have hleaves := leaves_attempt cache (h attempt List.mem_cons_self)
    rw [fillings, ← List.append_assoc]
    exact ih (fun later hl => h later (List.mem_cons_of_mem _ hl)) (hc.leaves hleaves)
      (ht.leaves hleaves)

/-- **A cache, its loader and its count agree.**  After any attempts to compile and to install,
at some of which a type or a resolver may have stopped, the loader holds the artifact of each
converter that is kept under its name; the artifact is made for the type and the resolver of
the place, and gives the converter when it is realized.  No key was filled twice, the number of
syntheses is the number of keys that compilations filled, and if no place is poisoned the size
is that number and the number of keys that installations filled. -/
theorem consistent_attempted (shape : (type : Ty) → Descriptor (Data type))
    (attempts : List (Attempt Ty Data)) (h : ∀ attempt ∈ attempts, attempt.Follows shape) :
    let cache := (empty : Cache Ty Data).attempted attempts
    let filled := (empty : Cache Ty Data).fillings attempts
    (∀ type id shared, cache.place type id = .filled shared →
      cache.loader.get? shared.converter.name = some shared.converter.artifact ∧
      shared.converter.artifact.typePath = (shape type).typePath ∧
      shared.converter.artifact.resolver = id ∧
      (shape type).realize shared.converter.artifact = .ok shared.converter) ∧
    (filled.map Prod.fst).Nodup ∧
    cache.syntheses = filled.countP Prod.snd ∧
    ((∀ type id, cache.place type id ≠ .poisoned) →
      cache.size = cache.syntheses + filled.countP fun filling => !filling.2) := by
  intro cache filled
  obtain ⟨hc, ht⟩ := invariants_attempted h consistent_empty tallied_empty
  refine ⟨fun type id shared hs => ?_, ht.distinct, ht.count, fun hp => ?_⟩
  · have hkept : Kept shape cache.loader type id shared.converter := hc type id shared hs
    exact ⟨hkept.defined, hkept.typePath, hkept.resolver, hkept.realized⟩
  · have hsize : cache.size = filled.length := ht.size_eq hp
    have hcount : cache.syntheses = filled.countP Prod.snd := ht.count
    rw [hsize, hcount, List.length_eq_countP_add_countP Prod.snd]
    simp only [Bool.not_eq_true, Bool.decide_eq_false]

section Count

/-- The shape that counts tell. -/
def countShape : Unit → Descriptor Int32 := fun _ =>
  ⟨"Count", "Count", [.field "n" (.scalar .i32) (fun n => n) fun _ n => n], []⟩

/-- A resolver that gives every member its own name. -/
def plain : Resolver :=
  .ofFunction "plain" .publicOnly fun info _ => .ok (some info.name)

/-- Counts are compiled for one resolver and installed for another, and a second artifact of
the installed name is refused. -/
def countAttempts : List (Attempt Unit fun _ => Int32) :=
  [⟨count, .compile () plain⟩, ⟨count, .install () (countText "0")⟩,
    ⟨count, .install () (countText "3")⟩]

/-- Counts do not tell their shape when the compiled converter is asked for again. -/
def countStopped : Attempt Unit fun _ => Int32 :=
  ⟨fun _ => .error .panic, .compile () plain⟩

theorem follows_countAttempts :
    ∀ attempt ∈ countAttempts ++ [countStopped], attempt.Follows countShape := by
  have hcount (request : Request Unit) : (⟨count, request⟩ : Attempt Unit _).Follows countShape :=
    fun type descriptor ht => by cases ht; rfl
  have hstopped : countStopped.Follows countShape := fun type descriptor ht => nomatch ht
  simp [countAttempts, hcount, hstopped]

theorem sound_countAttempts (type : Unit) (id : String) :
    ((empty : Cache Unit fun _ => Int32).attempted countAttempts).place type id ≠ .poisoned := by
  simp only [countAttempts, attempted, attempt, serve, install_of_decoded ofSymbols_countText.1,
    install_of_decoded ofSymbols_countText.2]
  -- two places are filled by now, each under its own identifier
  change (if "default" = id then Place.filled _ else
    if "plain" = id then Place.filled _ else Place.empty) ≠ _
  split
  · simp
  · split <;> simp

/-- What the attempts fill is the same with the last one, which takes away. -/
theorem fillings_countAttempts :
    (empty : Cache Unit fun _ => Int32).fillings countAttempts =
        [(((), "plain"), true), (((), "default"), false)] ∧
      (empty : Cache Unit fun _ => Int32).fillings (countAttempts ++ [countStopped]) =
        [(((), "plain"), true), (((), "default"), false)] := by
  decide +kernel

/-- One of two converters is counted, and both are there.  After the type has stopped behind the
place of the counted one, the count is the same, and the other one agrees with its loader. -/
theorem consistent_attempted_count :
    (∀ attempt ∈ countAttempts ++ [countStopped], attempt.Follows countShape) ∧
    (∀ type id,
      ((empty : Cache Unit fun _ => Int32).attempted countAttempts).place type id ≠ .poisoned) ∧
    ((empty : Cache Unit fun _ => Int32).attempted countAttempts).syntheses = 1 ∧
    ((empty : Cache Unit fun _ => Int32).attempted countAttempts).size = 2 ∧
    let stopped := (empty : Cache Unit fun _ => Int32).attempted (countAttempts ++ [countStopped])
    stopped.syntheses = 1 ∧
    ∀ shared, stopped.place () "default" = .filled shared →
      stopped.loader.get? shared.converter.name = some shared.converter.artifact := by
  obtain ⟨-, -, hcount, hsize⟩ := consistent_attempted countShape countAttempts fun attempt h =>
    follows_countAttempts attempt (List.mem_append_left _ h)
  obtain ⟨hkept, -, hstopped, -⟩ :=
    consistent_attempted countShape (countAttempts ++ [countStopped]) follows_countAttempts
  rw [fillings_countAttempts.1] at hcount hsize
  rw [fillings_countAttempts.2] at hstopped
  refine ⟨follows_countAttempts, sound_countAttempts, hcount, ?_, hstopped, fun shared hs => ?_⟩
  · rw [hsize sound_countAttempts, hcount]
    rfl
  · exact (hkept () "default" shared hs).1

end Count

end Cache
end PropertyBinding
