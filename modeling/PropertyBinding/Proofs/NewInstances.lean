import PropertyBinding.Proofs.Precompilation

/-! # How converters make new instances

A plan chooses the first of the constructors with the fewest parameters and records its place
and its parameters.  Realization looks both up again, so that the record leads back to the same
constructor, whether it was kept in memory or read from bytes.  A new instance is then made by
that constructor from one zero value for each parameter (`Descriptor.create_first_cheapest`).
-/
namespace PropertyBinding

variable {α : Type}

open Descriptor (FirstCheapest)

/-- What a constructor is handed for a parameter: zero, the truth value false or the character
NUL, and nothing where an instance may be absent. -/
def ValueType.blank : ValueType → Value
  | .scalar .i8 | .scalar .i16 | .scalar .i32 | .scalar .i64 => .integer 0
  | .scalar .f32 | .scalar .f64 => .float 0.0
  | .scalar .bool => .bool false
  | .scalar .char => .string "\x00"
  | .scalar .string | .value | .object _ => .null

theorem ValueType.zero_eq_blank (type : ValueType) : type.zero = type.blank := by
  cases type with
  | scalar s => cases s <;> rfl
  | value => rfl
  | object typeName => rfl

theorem Arguments.zeroed_eq (types : List ValueType) :
    zeroed types = ⟨types.map ValueType.blank⟩ := by
  rw [zeroed, funext ValueType.zero_eq_blank]

/-- New instances are made by the first of these constructors with the fewest parameters, given
one zero value for each of them in order; if there are none, no instance is made. -/
structure Converter.MakesBy (converter : Converter α) (constructors : List (Constructor α)) :
    Prop where
  none_iff : converter.create? = none ↔ constructors = []
  made : constructors ≠ [] → ∃ place constructor,
    FirstCheapest constructors place constructor ∧
      converter.create? =
        some (constructor.invoke ⟨constructor.types.map ValueType.blank⟩)

namespace Converter.MakesBy

variable {converter : Converter α} {constructors : List (Constructor α)}

theorem of_none (h : converter.constructor = none) : converter.MakesBy [] where
  none_iff := by simp [create?, h]
  made := fun hne => absurd rfl hne

theorem of_some {place : Nat} {constructor : Constructor α}
    (h : converter.constructor = some constructor)
    (hfirst : FirstCheapest constructors place constructor) : converter.MakesBy constructors where
  none_iff := by
    have hmem : constructor ∈ constructors := List.mem_of_getElem? hfirst.found
    simp [create?, h, List.ne_nil_of_mem hmem]
  made := fun _ => by
    refine ⟨place, constructor, hfirst, ?_⟩
    rw [create?, h, ← Arguments.zeroed_eq]
    rfl

/-- No other constructor is asked than the first with the fewest parameters. -/
theorem create?_eq {place : Nat} {constructor : Constructor α}
    (h : converter.MakesBy constructors) (hfirst : FirstCheapest constructors place constructor) :
    converter.create? = some (constructor.invoke ⟨constructor.types.map ValueType.blank⟩) := by
  obtain ⟨_, chosen, hchosen, hcreate⟩ := h.made (List.ne_nil_of_mem
    (List.mem_of_getElem? hfirst.found))
  rw [hcreate, (hchosen.unique hfirst).2]

end Converter.MakesBy

namespace Descriptor

variable {descriptor : Descriptor α} {resolver : Resolver} {name : String} {artifact : Artifact}
  {converter : Converter α}

/-- The place that a plan records leads back to the constructor that was chosen. -/
theorem makesBy_of_plan (hp : descriptor.plan resolver name = .ok artifact)
    (hr : descriptor.realize artifact = .ok converter) :
    converter.MakesBy descriptor.constructors := by
  have hmade := descriptor.realizeConstructor_eq_ok_iff.mp (descriptor.realize_eq_ok_iff.mp hr).2.1
  rw [constructor_of_plan hp] at hmade
  cases hc : descriptor.cheapest? with
  | none =>
    rw [hc] at hmade
    rw [cheapestFrom?_eq_none_iff.mp hc]
    exact .of_none hmade
  | some choice =>
    obtain ⟨k, constructor, hfirst, hplace, -⟩ := cheapestFrom?_eq_some hc
    rw [Nat.zero_add] at hplace
    rw [hc] at hmade
    obtain ⟨found, hfound, -, hconstructor⟩ := hmade
    -- what stands at the recorded place is what was chosen
    have hsame : found = constructor := by
      rw [← Option.some_inj, ← hfound, ← hfirst.found, ← hplace]
    exact .of_some (hsame ▸ hconstructor) hfirst

/-- **New instances are made by the first constructor with the fewest parameters.**  Whatever
is planned for a descriptor can be realized for it, and can be linked from its bytes; both
converters make an instance exactly if there is a constructor, and do so by the first with
the fewest parameters, which gets one zero value for each of them. -/
theorem create_first_cheapest (descriptor : Descriptor α) (resolver : Resolver) (name : String) :
    (∀ artifact, descriptor.plan resolver name = .ok artifact →
      ∃ converter, descriptor.realize artifact = .ok converter ∧
        converter.MakesBy descriptor.constructors) ∧
    (descriptor.Addressable →
      ∀ artifact, Description.compile (.ok descriptor) name resolver = .ok artifact →
        ∃ converter,
          Description.link (.ok descriptor) (Json.symbols artifact.toBytes) = .ok converter ∧
          converter.MakesBy descriptor.constructors) := by
  constructor
  · intro artifact hp
    obtain ⟨converter, hr⟩ := exists_realize_of_plan hp
    exact ⟨converter, hr, makesBy_of_plan hp hr⟩
  · intro ha artifact hc
    obtain ⟨described, hd, hp⟩ := Description.compile_eq_ok_iff.mp hc
    cases hd
    obtain ⟨converter, hr⟩ := exists_realize_of_plan hp
    have hread := Artifact.ofSymbols_toBytes (ha.of_plan hp)
    exact ⟨converter, Description.link_eq_ok_iff.mpr ⟨descriptor, artifact, rfl, hread, hr⟩,
      makesBy_of_plan hp hr⟩

/-- Two constructors that keep their arguments, with a parameter of each type, stand behind one
with a parameter more: the former of the two is handed the zero values, planned or precompiled. -/
theorem create_first_cheapest_tie :
    let types : List ValueType :=
      [.scalar .i8, .scalar .i16, .scalar .i32, .scalar .i64, .scalar .f32, .scalar .f64,
        .scalar .bool, .scalar .char, .scalar .string, .value, .object "app::Date"]
    let longer : Constructor (List Value) := ⟨.value :: types, Arguments.values⟩
    let straight : Constructor (List Value) := ⟨types, Arguments.values⟩
    let reversed : Constructor (List Value) := ⟨types.reverse, Arguments.values⟩
    let row : Descriptor (List Value) := ⟨"app::Row", "Row", [], [longer, straight, reversed]⟩
    let plain : Resolver := .ofFunction "plain" .publicOnly fun info _ => .ok (some info.name)
    let zeros : List Value :=
      [.integer 0, .integer 0, .integer 0, .integer 0, .float 0.0, .float 0.0, .bool false,
        .string "\x00", .null, .null, .null]
    FirstCheapest row.constructors 1 straight ∧ row.Addressable ∧
    (∃ artifact converter, row.plan plain "Row" = .ok artifact ∧
      row.realize artifact = .ok converter ∧ converter.create? = some zeros) ∧
    ∃ artifact converter, Description.compile (.ok row) "Row" plain = .ok artifact ∧
      Description.link (.ok row) (Json.symbols artifact.toBytes) = .ok converter ∧
      converter.create? = some zeros := by
  intro types longer straight reversed row plain zeros
  have hfirst : FirstCheapest row.constructors 1 straight := by
    have hrest : FirstCheapest [straight, reversed] 0 straight := by
      apply FirstCheapest.head
      intro other ho
      cases List.mem_singleton.mp ho
      decide
    exact hrest.tail (by decide)
  have haddress : row.Addressable := ⟨by decide, by decide⟩
  refine ⟨hfirst, haddress, ?_, ?_⟩
  · obtain ⟨converter, hr, hmakes⟩ := (create_first_cheapest row plain "Row").1 _ rfl
    exact ⟨_, converter, rfl, hr, hmakes.create?_eq hfirst⟩
  · obtain ⟨converter, hl, hmakes⟩ := (create_first_cheapest row plain "Row").2 haddress _ rfl
    exact ⟨_, converter, rfl, hl, hmakes.create?_eq hfirst⟩

end Descriptor
end PropertyBinding
