import PropertyBinding.Proofs.Consistency
import PropertyBinding.Proofs.Independence

/-! # A request that fails is contained

A request for a converter that ends in an error leaves the cache as it was.  One in which
the type or the resolver stops without an answer spoils the place that it held, and nothing
else: its place answers with one error from then on, and asks nobody for it, while all other
places answer as if neither it nor what is asked of its place later had been asked
(`Cache.compile_contained`).  What is asked of its place later does matter: had nothing stopped,
it would define an artifact, whose name is free instead (`Cache.name_free_after_stop`).

The two caches that are compared are related by `Cache.Spoiled`.  A call for another place
does the same to both of them (`Spoiled.attempt`), and a call for the spoilt one does nothing
(`attempt_of_poisoned`), so a run on the one is a run of the other calls on the other.
-/
namespace PropertyBinding

variable {α Ty : Type} {Data : Ty → Type}

/-- Planning a type ends without an answer: it does not tell its shape, or the resolver stops
at a member and nothing is wrong with those before. -/
inductive Description.Stops (resolver : Resolver) : Description α → Prop
  | untold (stopped : Panic) : Stops resolver (.error stopped)
  | unplanned {descriptor : Descriptor α} (h : descriptor.FirstStop resolver .panicked) :
      Stops resolver (.ok descriptor)

namespace Description.Stops

variable {descriptor : Descriptor α} {description : Description α} {resolver : Resolver}

theorem ok_iff : Stops resolver (.ok descriptor) ↔ descriptor.FirstStop resolver .panicked :=
  ⟨fun | .unplanned h => h, .unplanned⟩

theorem compile_iff (name : String) :
    description.compile name resolver = .error .panicked ↔ description.Stops resolver := by
  cases description with
  | error stopped => exact ⟨fun _ => .untold stopped, fun _ => rfl⟩
  | ok descriptor => exact Descriptor.plan_eq_error_iff.trans ok_iff.symm

end Description.Stops

/-- An installation is for the place that its artifact records. -/
theorem Request.key?_install {type : Ty} {s : List Json.Symbol} {key : Ty × String} :
    (install type s).key? = some key ↔
      ∃ artifact, Artifact.ofSymbols s = .ok artifact ∧ (type, artifact.resolver) = key := by
  simp only [key?]
  cases Artifact.ofSymbols s <;> simp

namespace Cache

/-! ## How a request fails -/

section Stop

variable {description : Description α} {resolver : Resolver}

theorem agree_eq_panicked_iff (converter : Converter α) :
    agree description converter resolver = .error .panicked ↔ description.Stops resolver := by
  rw [← Description.Stops.compile_iff converter.name]
  unfold agree
  cases description.compile converter.name resolver with
  | error fault => exact ⟨fun h => by cases h; rfl, fun h => by cases h; rfl⟩
  | ok planned =>
    -- what is planned agrees or is a conflict
    change (if planned.sameMapping converter.artifact = true then _ else _) = _ ↔ _
    refine ⟨fun h => ?_, (nomatch ·)⟩
    split at h <;> cases h

theorem prepare_eq_panicked_iff :
    prepare description resolver = .error .panicked ↔ description.Stops resolver := by
  cases description with
  | error stopped => exact ⟨fun _ => .untold stopped, fun _ => rfl⟩
  | ok descriptor => exact prepare_eq_error_iff.trans Description.Stops.ok_iff.symm

theorem synthesize_eq_panicked_iff (loader : Loader) :
    synthesize description resolver loader = .error .panicked ↔ description.Stops resolver := by
  rw [← prepare_eq_panicked_iff]
  constructor
  · intro h
    obtain hp | ⟨_, error, -, -, hfault⟩ := prepare_of_synthesize_eq_error h
    · exact hp
    · cases hfault
  · intro hp
    rw [synthesize_eq_prepare, hp]
    rfl

end Stop

variable [DecidableEq Ty]

/-- A request stops without an answer exactly if planning does and its place is not poisoned:
the resolver plans what is not kept, and is compared with what is. -/
theorem compile_eq_panicked_iff {cache : Cache Ty Data} {type : Ty}
    {description : Description (Data type)} {resolver : Resolver} :
    (cache.compile type description resolver).1 = .error .panicked ↔
      cache.place type resolver.id ≠ .poisoned ∧ description.Stops resolver := by
  unfold compile
  cases hplace : cache.place type resolver.id with
  | poisoned => simp
  | filled shared =>
    rw [← agree_eq_panicked_iff shared.converter]
    dsimp only
    cases agree description shared.converter resolver <;> simp
  | empty =>
    rw [← synthesize_eq_panicked_iff cache.loader]
    dsimp only
    cases synthesize description resolver cache.loader <;> simp

/-- A request that ends in a fault leaves what is left after this one: no trace of an error, and
a poisoned place where it stopped. -/
theorem compile_of_fault {cache : Cache Ty Data} {type : Ty}
    {description : Description (Data type)} {resolver : Resolver} {fault : Fault}
    (h : (cache.compile type description resolver).1 = .error fault) :
    (cache.compile type description resolver).2 = cache.afterFault type resolver.id fault := by
  have hways := cache.compiles type description resolver
  generalize cache.compile type description resolver = ended at h hways
  obtain ⟨result, left⟩ := ended
  obtain rfl : result = .error fault := h
  cases hways with
  | poisoned _ => rfl
  | refused _ _ => rfl
  | failed _ _ => rfl

/-! ## A spoilt place -/

/-- What those calls of a run answer that are not for a place. -/
def repliesApart (key : Ty × String) (cache : Cache Ty Data) (attempts : List (Attempt Ty Data)) :
    List (Except Fault (Handed Data)) :=
  ((attempts.zip (cache.replies attempts)).filter fun made =>
    made.1.request.key? ≠ some key).map Prod.snd

theorem repliesApart_cons_of_eq {key : Ty × String} (cache : Cache Ty Data)
    (attempt : Attempt Ty Data) (rest : List (Attempt Ty Data))
    (hkey : attempt.request.key? = some key) :
    cache.repliesApart key (attempt :: rest) = (cache.attempt attempt).2.repliesApart key rest := by
  rw [repliesApart, replies, List.zip_cons_cons, List.filter_cons_of_neg (by simpa using hkey)]
  rfl

theorem repliesApart_cons_of_ne {key : Ty × String} (cache : Cache Ty Data)
    (attempt : Attempt Ty Data) (rest : List (Attempt Ty Data))
    (hkey : attempt.request.key? ≠ some key) :
    cache.repliesApart key (attempt :: rest) =
      (cache.attempt attempt).1 :: (cache.attempt attempt).2.repliesApart key rest := by
  rw [repliesApart, replies, List.zip_cons_cons, List.filter_cons_of_pos (by simpa using hkey)]
  rfl

/-- A cache is another one but for a place that is poisoned. -/
structure Spoiled (key : Ty × String) (left cache : Cache Ty Data) : Prop where
  poisoned : left.place key.1 key.2 = .poisoned
  loader : left.loader = cache.loader
  syntheses : left.syntheses = cache.syntheses
  stamp : left.stamp = cache.stamp
  place : ∀ other id, (other, id) ≠ key → left.place other id = cache.place other id

theorem spoiled_put (cache : Cache Ty Data) (type : Ty) (id : String) :
    Spoiled (type, id) (cache.put type id .poisoned) cache where
  poisoned := place_put_self ..
  loader := rfl
  syntheses := rfl
  stamp := rfl
  place other otherId hne := place_put_of_ne_key (other, otherId) hne

theorem attempt_compile (cache : Cache Ty Data) (describe : (type : Ty) → Description (Data type))
    (type : Ty) (resolver : Resolver) :
    cache.attempt ⟨describe, .compile type resolver⟩ =
      ((cache.compile type (describe type) resolver).1.map (Handed.mk type),
        (cache.compile type (describe type) resolver).2) := rfl

theorem attempt_install (cache : Cache Ty Data) (describe : (type : Ty) → Description (Data type))
    (type : Ty) (s : List Json.Symbol) :
    cache.attempt ⟨describe, .install type s⟩ =
      ((cache.install type (describe type) s).1.map (Handed.mk type),
        (cache.install type (describe type) s).2) := rfl

/-- A request for a poisoned place is refused, whatever the type and the resolver would do. -/
theorem compile_of_poisoned {cache : Cache Ty Data} {type : Ty} {resolver : Resolver}
    (h : cache.place type resolver.id = .poisoned) (description : Description (Data type)) :
    cache.compile type description resolver = (.error (.failed poisonedError), cache) := by
  unfold compile
  rw [h]

/-- A call for a poisoned place does nothing. -/
theorem attempt_of_poisoned {cache : Cache Ty Data} {key : Ty × String}
    (h : cache.place key.1 key.2 = .poisoned) {attempt : Attempt Ty Data}
    (hkey : attempt.request.key? = some key) :
    cache.attempt attempt = (.error (.failed poisonedError), cache) := by
  obtain ⟨describe, request⟩ := attempt
  cases request with
  | compile type resolver =>
    cases hkey
    rw [attempt_compile, compile_of_poisoned h]
    rfl
  | install type s =>
    obtain ⟨artifact, hd, rfl⟩ := Request.key?_install.mp hkey
    rw [attempt_install, install_of_decoded hd]
    simp only [installArtifact, h]
    rfl

namespace Spoiled

variable {key : Ty × String} {left cache : Cache Ty Data} {type : Ty} {id : String}

/-- The same is put into both caches. -/
theorem put (h : Spoiled key left cache) (hne : (type, id) ≠ key)
    (content : Place (Data type)) :
    Spoiled key (left.put type id content) (cache.put type id content) where
  poisoned := (place_put_of_ne_key key hne.symm).trans h.poisoned
  loader := h.loader
  syntheses := h.syntheses
  stamp := h.stamp
  place other otherId hother := by
    by_cases hsame : (other, otherId) = (type, id)
    · cases hsame
      rw [place_put_self, place_put_self]
    · rw [place_put_of_ne_key (other, otherId) hsame, place_put_of_ne_key (other, otherId) hsame]
      exact h.place other otherId hother

theorem afterFault (h : Spoiled key left cache) (hne : (type, id) ≠ key) (fault : Fault) :
    Spoiled key (left.afterFault type id fault) (cache.afterFault type id fault) := by
  cases fault with
  | failed error => exact h
  | panicked => exact h.put hne .poisoned

theorem publish (h : Spoiled key left cache) (hne : (type, id) ≠ key)
    (converter : Converter (Data type)) :
    (left.publish type id converter).1 = (cache.publish type id converter).1 ∧
      Spoiled key (left.publish type id converter).2 (cache.publish type id converter).2 := by
  unfold Cache.publish
  rw [h.stamp]
  have hput := h.put hne (.filled ⟨cache.stamp, converter⟩)
  exact ⟨rfl, hput.poisoned, hput.loader, hput.syntheses, rfl, hput.place⟩

omit [DecidableEq Ty] in
theorem with_loader (h : Spoiled key left cache) (loader : Loader) :
    Spoiled key { left with loader } { cache with loader } :=
  ⟨h.poisoned, rfl, h.syntheses, h.stamp, h.place⟩

omit [DecidableEq Ty] in
theorem counted (h : Spoiled key left cache) :
    Spoiled key { left with syntheses := left.syntheses + 1 }
      { cache with syntheses := cache.syntheses + 1 } :=
  ⟨h.poisoned, h.loader, congrArg (· + 1) h.syntheses, h.stamp, h.place⟩

/-- A request for another place ends alike in both caches. -/
theorem compile (h : Spoiled key left cache) {resolver : Resolver}
    (hne : (type, resolver.id) ≠ key) (description : Description (Data type)) :
    (left.compile type description resolver).1 = (cache.compile type description resolver).1 ∧
      Spoiled key (left.compile type description resolver).2
        (cache.compile type description resolver).2 := by
  unfold Cache.compile
  rw [h.place type resolver.id hne, h.loader]
  cases cache.place type resolver.id with
  | poisoned => exact ⟨rfl, h⟩
  | filled shared =>
    dsimp only
    cases agree description shared.converter resolver with
    | ok _ => exact ⟨rfl, h⟩
    | error fault => exact ⟨rfl, h.afterFault hne fault⟩
  | empty =>
    dsimp only
    cases synthesize description resolver cache.loader with
    | ok made =>
      obtain ⟨hsame, hleft⟩ := h.publish hne made.1
      exact ⟨congrArg Except.ok hsame, (hleft.with_loader made.2).counted⟩
    | error fault => exact ⟨rfl, h.afterFault hne fault⟩

/-- An installation into another place does, too. -/
theorem installArtifact (h : Spoiled key left cache) {artifact : Artifact}
    (hne : (type, artifact.resolver) ≠ key) (description : Description (Data type)) :
    (left.installArtifact type description artifact).1 =
        (cache.installArtifact type description artifact).1 ∧
      Spoiled key (left.installArtifact type description artifact).2
        (cache.installArtifact type description artifact).2 := by
  unfold Cache.installArtifact
  dsimp only
  rw [h.place type artifact.resolver hne, h.loader]
  cases cache.loader.define artifact with
  | mk defined loader =>
    have hloader := h.with_loader loader
    cases cache.place type artifact.resolver with
    | poisoned => exact ⟨rfl, h⟩
    | filled shared =>
      cases defined with
      | error error => exact ⟨rfl, h⟩
      | ok defined => exact ⟨rfl, hloader⟩
    | empty =>
      cases defined with
      | error error => exact ⟨rfl, h⟩
      | ok defined =>
        dsimp only
        cases description with
        | error stopped => exact ⟨rfl, hloader.afterFault hne .panicked⟩
        | ok descriptor =>
          dsimp only
          cases descriptor.realize defined with
          | error error => exact ⟨rfl, hloader⟩
          | ok converter =>
            obtain ⟨hsame, hleft⟩ := hloader.publish hne converter
            exact ⟨congrArg Except.ok hsame, hleft⟩

/-- A call that is not for the spoilt place is answered alike by both caches. -/
theorem attempt (h : Spoiled key left cache) {attempt : Attempt Ty Data}
    (hkey : attempt.request.key? ≠ some key) :
    (left.attempt attempt).1 = (cache.attempt attempt).1 ∧
      Spoiled key (left.attempt attempt).2 (cache.attempt attempt).2 := by
  obtain ⟨describe, request⟩ := attempt
  cases request with
  | compile type resolver =>
    have hne : (type, resolver.id) ≠ key := fun hsame => hkey (congrArg some hsame)
    obtain ⟨hsame, hleft⟩ := h.compile hne (describe type)
    rw [attempt_compile, attempt_compile, hsame]
    exact ⟨rfl, hleft⟩
  | install type s =>
    rw [attempt_install, attempt_install]
    unfold install
    cases hd : Artifact.ofSymbols s with
    | error error => exact ⟨rfl, h⟩
    | ok artifact =>
      have hne : (type, artifact.resolver) ≠ key := fun hsame =>
        hkey (Request.key?_install.mpr ⟨artifact, hd, hsame⟩)
      obtain ⟨hsame, hleft⟩ := h.installArtifact hne (describe type)
      dsimp only
      rw [hsame]
      exact ⟨rfl, hleft⟩

/-- A place that is poisoned stays so, whatever is called. -/
theorem attempted (h : Spoiled key left cache) (attempts : List (Attempt Ty Data)) :
    Spoiled key (left.attempted attempts)
      (cache.attempted (attempts.filter fun attempt => attempt.request.key? ≠ some key)) := by
  induction attempts generalizing left cache with
  | nil => exact h
  | cons attempt rest ih =>
    rw [Cache.attempted]
    by_cases hkey : attempt.request.key? = some key
    · rw [List.filter_cons_of_neg (by simpa using hkey), attempt_of_poisoned h.poisoned hkey]
      exact ih h
    · rw [List.filter_cons_of_pos (by simpa using hkey), Cache.attempted]
      exact ih (h.attempt hkey).2

/-- Of a run, the calls for other places are answered as if they were all of it. -/
theorem repliesApart (h : Spoiled key left cache) (attempts : List (Attempt Ty Data)) :
    left.repliesApart key attempts =
      cache.replies (attempts.filter fun attempt => attempt.request.key? ≠ some key) := by
  induction attempts generalizing left cache with
  | nil => rfl
  | cons attempt rest ih =>
    by_cases hkey : attempt.request.key? = some key
    · rw [repliesApart_cons_of_eq left attempt rest hkey, List.filter_cons_of_neg (by simpa using hkey),
        attempt_of_poisoned h.poisoned hkey]
      exact ih h
    · obtain ⟨hsame, hleft⟩ := h.attempt hkey
      rw [repliesApart_cons_of_ne left attempt rest hkey, List.filter_cons_of_pos (by simpa using hkey),
        replies, hsame, ih hleft]

end Spoiled

/-- **A request that fails is contained.**  In any cache, a request for a converter that ends in
an error leaves the cache as it was, so that it ends in that error again.  It stops without an
answer exactly if planning does and its place is not poisoned; then the loader, the count and
all other places are as before.  Whatever is called from then on, the calls for other places are
answered as if neither it nor those for its place had been made, and a request for its place is
refused whatever the type and the resolver would do. -/
theorem compile_contained (cache : Cache Ty Data) (type : Ty)
    (description : Description (Data type)) (resolver : Resolver) :
    let result := (cache.compile type description resolver).1
    let left := (cache.compile type description resolver).2
    (∀ error, result = .error (.failed error) →
      left = cache ∧ left.compile type description resolver = (.error (.failed error), left)) ∧
    (result = .error .panicked ↔
      cache.place type resolver.id ≠ .poisoned ∧ description.Stops resolver) ∧
    (result = .error .panicked →
      left.loader = cache.loader ∧ left.syntheses = cache.syntheses ∧
      (∀ other id, (other, id) ≠ (type, resolver.id) →
        left.place other id = cache.place other id) ∧
      ∀ attempts : List (Attempt Ty Data),
        left.repliesApart (type, resolver.id) attempts =
          cache.replies (attempts.filter fun attempt =>
            attempt.request.key? ≠ some (type, resolver.id)) ∧
        ∀ (later : Resolver) (told : Description (Data type)), later.id = resolver.id →
          (left.attempted attempts).compile type told later =
            (.error (.failed (.poisoned "poisoned lock: another task failed inside")),
              left.attempted attempts)) := by
  intro result left
  refine ⟨fun error hfailed => ?_, compile_eq_panicked_iff, fun hpanicked => ?_⟩
  · have hleft : left = cache := compile_of_fault hfailed
    refine ⟨hleft, ?_⟩
    rw [hleft]
    exact Prod.ext hfailed hleft
  · have hleft : left = cache.put type resolver.id .poisoned := compile_of_fault hpanicked
    have hspoiled : Spoiled (type, resolver.id) left cache := by
      rw [hleft]
      exact spoiled_put cache type resolver.id
    refine ⟨hspoiled.loader, hspoiled.syntheses, hspoiled.place, fun attempts =>
      ⟨hspoiled.repliesApart attempts, fun later told hid => ?_⟩⟩
    refine compile_of_poisoned ?_ told
    rw [hid]
    exact (hspoiled.attempted attempts).poisoned

section Count

/-- What is left of counts that were compiled for the resolver by name. -/
def countKept : Cache Unit fun _ => Int32 :=
  (empty.compile () (count ()) plain).2

/-- Resolvers that go by the identifier of the one by name: one maps otherwise, the other never
answers. -/
def relabelling : Resolver :=
  .ofFunction "plain" .publicOnly fun _ _ => .ok (some "m")

def silent : Resolver :=
  .ofFunction "plain" .publicOnly fun _ _ => .error .panic

/-- A resolver that maps otherwise than the kept converter is refused and leaves no trace.  One
that never answers stops the request where a converter is kept, and a type does where none is.
From then on the place is refused to the resolver that had the converter, while an installation
for another place is answered as before. -/
theorem compile_contained_count :
    (countKept.compile () (count ()) relabelling =
      (.error (.failed (.artifactConflict "CountBean$plain")), countKept)) ∧
    (count ()).Stops silent ∧
    ((empty : Cache Unit fun _ => Int32).compile () (.error .panic) plain).1 =
      .error .panicked ∧
    let left := (countKept.compile () (count ()) silent).2
    left.loader = countKept.loader ∧
    left.repliesApart ((), silent.id)
        [⟨count, .compile () plain⟩, ⟨count, .install () (countText "0")⟩] =
      countKept.replies [⟨count, .install () (countText "0")⟩] ∧
    ∀ attempts : List (Attempt Unit fun _ => Int32),
      ((left.attempted attempts).compile () (count ()) plain).1 =
        .error (.failed (.poisoned "poisoned lock: another task failed inside")) := by
  obtain ⟨hfailed, -, -⟩ := compile_contained countKept () (count ()) relabelling
  obtain ⟨-, hstops, hpanicked⟩ := compile_contained countKept () (count ()) silent
  obtain ⟨hloader, -, -, hlater⟩ := hpanicked rfl
  refine ⟨Prod.ext rfl (hfailed _ rfl).1, (hstops.mp rfl).2, rfl, hloader, ?_, fun attempts => ?_⟩
  · have hown : (Request.compile () plain).key? = some ((), silent.id) := rfl
    have hother : (Request.install () (countText "0")).key? ≠ some ((), silent.id) := by
      rw [Request.key?_install.mpr ⟨_, ofSymbols_countText.1, rfl⟩]
      decide
    rw [(hlater _).1, List.filter_cons_of_neg (by simpa using hown),
      List.filter_cons_of_pos (by simpa using hother), List.filter_nil]
  · rw [(hlater attempts).2 plain (count ()) rfl]

/-- An artifact for counts that another resolver has under the name of the one by name. -/
def rivalArtifact : Artifact :=
  { countArtifact 0 with name := "CountBean$plain", resolver := "other" }

def rivalText : List Json.Symbol :=
  Json.symbolsOfText
    "[\"CountBean$plain\",\"Count\",\"other\",null,[],[[0,\"n\",\"n\",\"field\",\"i32\"]]]"

theorem ofSymbols_rivalText : Artifact.ofSymbols rivalText = .ok rivalArtifact := by
  decide +kernel

/-- The later requests for a spoilt place have to be left out, too: refused as they are, they no
longer define the artifact that they would have defined.  So the name of that artifact is free
for an installation in another place, where it would have been taken had nothing stopped. -/
theorem name_free_after_stop :
    let fresh := (empty : Cache Unit fun _ => Int32)
    let stopped := fresh.compile () (count ()) silent
    let later : List (Attempt Unit fun _ => Int32) :=
      [⟨count, .compile () plain⟩, ⟨count, .install () rivalText⟩]
    stopped.1 = .error .panicked ∧
    later.map (fun attempt => attempt.request.key?) =
      [some ((), silent.id), some ((), "other")] ∧
    (∃ handed, stopped.2.repliesApart ((), silent.id) later = [.ok handed]) ∧
    fresh.repliesApart ((), silent.id) later =
      [.error (.failed (.artifactConflict "CountBean$plain"))] := by
  intro fresh stopped later
  have hkey : (Request.install () rivalText).key? = some ((), "other") :=
    Request.key?_install.mpr ⟨_, ofSymbols_rivalText, rfl⟩
  have hown : (Request.compile () plain).key? = some ((), silent.id) := rfl
  have hother : (Request.install () rivalText).key? ≠ some ((), silent.id) := by
    rw [hkey]
    decide
  have hapart (cache : Cache Unit fun _ => Int32) : cache.repliesApart ((), silent.id) later =
      [((cache.compile () (count ()) plain).2.installArtifact () (count ()) rivalArtifact).1.map
        (Handed.mk ())] := by
    rw [repliesApart_cons_of_eq cache ⟨count, .compile () plain⟩ _ hown,
      repliesApart_cons_of_ne _ ⟨count, .install () rivalText⟩ _ hother, attempt_install,
      attempt_compile, install_of_decoded ofSymbols_rivalText]
    rfl
  refine ⟨rfl, ?_, ?_, ?_⟩
  · change [(Request.compile () plain).key?, (Request.install () rivalText).key?] = _
    rw [hown, hkey]
  · rw [hapart]
    exact ⟨_, rfl⟩
  · rw [hapart]
    rfl

end Count

end Cache
end PropertyBinding
