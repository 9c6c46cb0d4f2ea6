import Mathlib.Data.List.Dedup
import PropertyBinding.Proofs.CacheCalls

/-! # What a loader answers after any calls

A loader is written once for each name: the artifact that is first offered under a name stays,
and every later call is answered by it (`Loader.write_once`).  The artifacts that calls offer,
those that are refused among them, are the whole history; what a loader holds is told by the
first offer of each name (`Loader.Recalls`), which one call keeps and so a run of calls does.
-/
namespace PropertyBinding
namespace Loader

/-! ## Calls and their history -/

/-- A call of a loader. -/
inductive Call where
  | define (artifact : Artifact)
  | get (name : String)

/-- The artifact that a call offers. -/
def Call.offer? : Call → Option Artifact
  | .define artifact => some artifact
  | .get _ => none

/-- What a call leaves. -/
def serve (loader : Loader) : Call → Loader
  | .define artifact => (loader.define artifact).2
  | .get _ => loader

/-- What calls leave, made one after the other. -/
def after (loader : Loader) (calls : List Call) : Loader :=
  calls.foldl serve loader

/-- The artifacts that calls offer, in order; whether they are taken is not asked. -/
def offers (calls : List Call) : List Artifact :=
  calls.filterMap Call.offer?

/-- The first artifact that calls offer under a name. -/
def firstOffer? (calls : List Call) (name : String) : Option Artifact :=
  (offers calls).find? fun artifact => artifact.name == name

@[simp] theorem offers_append (calls others : List Call) :
    offers (calls ++ others) = offers calls ++ offers others :=
  List.filterMap_append

/-- One more offer counts only under a name that has none. -/
theorem firstOffer?_define (calls : List Call) (artifact : Artifact) (name : String) :
    firstOffer? (calls ++ [.define artifact]) name =
      match firstOffer? calls name with
      | some first => some first
      | none => if artifact.name = name then some artifact else none := by
  simp only [firstOffer?, offers_append, List.find?_append]
  cases (offers calls).find? fun artifact => artifact.name == name with
  | some first => rfl
  | none => by_cases hname : artifact.name = name <;> simp [offers, Call.offer?, hname]

theorem firstOffer?_get (calls : List Call) (asked name : String) :
    firstOffer? (calls ++ [.get asked]) name = firstOffer? calls name := by
  simp [firstOffer?, offers, Call.offer?]

theorem firstOffer?_isSome_iff (calls : List Call) (name : String) :
    (firstOffer? calls name).isSome ↔ name ∈ (offers calls).map Artifact.name := by
  simp [firstOffer?]

/-! ## What a loader recalls -/

/-- A loader holds the first offer of each name, and each name once. -/
structure Recalls (loader : Loader) (calls : List Call) : Prop where
  held : ∀ name, loader.get? name = firstOffer? calls name
  distinct : (loader.defined.map Artifact.name).Nodup

variable {loader : Loader} {calls : List Call}

theorem mem_names_iff (loader : Loader) (name : String) :
    name ∈ loader.defined.map Artifact.name ↔ (loader.get? name).isSome := by
  simp [get?]

/-- A name that is defined was not there before. -/
theorem nodup_define (h : (loader.defined.map Artifact.name).Nodup) (artifact : Artifact) :
    ((loader.define artifact).2.defined.map Artifact.name).Nodup := by
  cases hresult : (loader.define artifact).1 with
  | error error =>
    rw [define_of_error hresult]
    exact h
  | ok defined =>
    obtain ⟨-, hnone | hsame⟩ := define_eq_ok_iff.mp hresult
    · rw [define_of_get?_eq_none hnone, List.map_append]
      refine h.append (List.nodup_singleton _) (List.disjoint_singleton.mpr ?_)
      rw [mem_names_iff, hnone]
      exact Bool.false_ne_true
    · rw [define_of_get?_eq_some hsame]
      exact h

theorem recalls_empty : ({} : Loader).Recalls [] :=
  ⟨fun _ => rfl, List.nodup_nil⟩

/-- A call keeps the first offer of each name. -/
theorem Recalls.serve (h : loader.Recalls calls) (call : Call) :
    (loader.serve call).Recalls (calls ++ [call]) := by
  cases call with
  | define artifact =>
    refine ⟨fun name => ?_, nodup_define h.distinct artifact⟩
    rw [firstOffer?_define, ← h.held name]
    exact loader.get?_define artifact name
  | get asked =>
    refine ⟨fun name => ?_, h.distinct⟩
    rw [firstOffer?_get]
    exact h.held name

/-- So do calls made one after the other. -/
theorem Recalls.after (h : loader.Recalls calls) (others : List Call) :
    (loader.after others).Recalls (calls ++ others) := by
  -- each call made moves from the calls to come to the history
  induction others generalizing loader calls with
  | nil =>
    rw [List.append_nil]
    exact h
  | cons call rest ih =>
    rw [List.append_cons]
    exact ih (h.serve call)

/-- What a new loader holds after calls is told by the calls. -/
theorem recalls_after (calls : List Call) : (({} : Loader).after calls).Recalls calls :=
  recalls_empty.after calls

/-- As many artifacts are held as names were offered. -/
theorem Recalls.size_eq (h : loader.Recalls calls) :
    loader.size = ((offers calls).map Artifact.name).dedup.length := by
  have hsame : ∀ name, name ∈ loader.defined.map Artifact.name ↔
      name ∈ ((offers calls).map Artifact.name).dedup := by
    intro name
    rw [mem_names_iff, h.held name, firstOffer?_isSome_iff, List.mem_dedup]
  have hperm : (loader.defined.map Artifact.name).Perm
      ((offers calls).map Artifact.name).dedup :=
    (List.perm_ext_iff_of_nodup h.distinct (List.nodup_dedup _)).mpr hsame
  rw [← hperm.length_eq, List.length_map, size]

/-! ## The answers -/

/-- Only a taken name is refused. -/
theorem error_of_define {artifact : Artifact} {error : Error}
    (h : (loader.define artifact).1 = .error error) :
    error = .artifactConflict artifact.name := by
  cases hheld : loader.get? artifact.name with
  | none =>
    rw [define_of_get?_eq_none hheld] at h
    cases h
  | some held =>
    by_cases hsame : held = artifact
    · subst hsame
      rw [define_of_get?_eq_some hheld] at h
      cases h
    · rw [define_of_ne hheld hsame] at h
      cases h
      rfl

/-- **A loader is written once for each name.**  After any calls on a new loader, an artifact
is defined exactly if nothing was offered under its name before, or the same artifact first; it
is then given back as it is.  Otherwise the name is reported as taken and nothing changes.  A
name is answered with its first offer, and as many artifacts are held as names were offered. -/
theorem write_once (earlier : List Call) :
    let loader := ({} : Loader).after earlier
    (∀ artifact, (∃ defined, (loader.define artifact).1 = .ok defined) ↔
      firstOffer? earlier artifact.name = none ∨
        firstOffer? earlier artifact.name = some artifact) ∧
    (∀ artifact defined, (loader.define artifact).1 = .ok defined → defined = artifact) ∧
    (∀ artifact error, (loader.define artifact).1 = .error error →
      error = .artifactConflict artifact.name ∧ (loader.define artifact).2 = loader) ∧
    (∀ name, loader.get? name = firstOffer? earlier name) ∧
    loader.size = ((offers earlier).map Artifact.name).dedup.length := by
  intro loader
  have hrecalls : loader.Recalls earlier := recalls_after earlier
  refine ⟨?_, ?_, ?_, hrecalls.held, hrecalls.size_eq⟩
  · intro artifact
    rw [← hrecalls.held artifact.name]
    constructor
    · rintro ⟨defined, hdefined⟩
      exact (define_eq_ok_iff.mp hdefined).2
    · intro hfree
      exact ⟨artifact, define_eq_ok_iff.mpr ⟨rfl, hfree⟩⟩
  · intro artifact defined hdefined
    exact (define_eq_ok_iff.mp hdefined).1
  · intro artifact error herror
    exact ⟨error_of_define herror, define_of_error herror⟩

/-- Another artifact is refused under a name that is taken, and the first is still there. -/
theorem write_once_rival :
    let first : Artifact := ⟨"Count", "Count", "plain", none, [], []⟩
    let rival : Artifact := { first with resolver := "other" }
    let earlier : List Call := [.get "Count", .define first, .define rival, .get "Count"]
    let loader := ({} : Loader).after earlier
    (loader.define first).1 = .ok first ∧
      (loader.define rival).1 = .error (.artifactConflict "Count") ∧
      (loader.define rival).2 = loader ∧ loader.get? "Count" = some first ∧ loader.size = 1 := by
  intro first rival earlier loader
  obtain ⟨htaken, hsame, hrefused, hheld, hsize⟩ := write_once earlier
  obtain ⟨defined, hdefined⟩ := (htaken first).mpr (.inr rfl)
  have hrival : (loader.define rival).1 = .error (.artifactConflict "Count") := rfl
  refine ⟨?_, hrival, (hrefused rival _ hrival).2, hheld "Count", hsize⟩
  rw [hdefined, hsame first defined hdefined]

end Loader
end PropertyBinding
