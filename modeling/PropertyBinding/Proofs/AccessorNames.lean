import Mathlib.Data.List.Infix
import PropertyBinding.Naming

/-! # Which property an accessor name stands for

`Naming.Leaves` says what follows the word of an accessor and which property it leaves: an
underscore with something behind it, or something that begins with a capital.  The naming
goes by nothing else (`Naming.stripped?_eq_some_iff`), so that what follows the word decides
alone: getters and a setter of one suffix are all named alike, or all keep their names
(`Naming.property_of_accessor`).
-/
namespace PropertyBinding
namespace Text

theorem isUppercase_underscore : isUppercase '_' = false := by decide

end Text

namespace Naming

/-! ## The rule -/

/-- The words by which accessors are called. -/
def words : MethodRole → List String
  | .getter => ["get", "is"]
  | .setter => ["set"]

/-- What follows the word of an accessor, and what it leaves of the name. -/
inductive Leaves : String → String → Prop
  /-- An underscore is dropped, if something follows it. -/
  | underscore {kept : String} (something : kept ≠ "") : Leaves ("_" ++ kept) kept
  /-- A capital stays. -/
  | capital {kept : String} {c : Char} (first : kept.toList.head? = some c)
      (upper : Text.isUppercase c = true) : Leaves kept kept

variable {role : MethodRole} {declared rest kept word : String}

theorem behind?_cons (c : Char) (tail : List Char) :
    behind? (c :: tail) =
      if c = '_' then (if tail.isEmpty then none else some tail)
      else if Text.isUppercase c then some (c :: tail) else none := by
  by_cases hc : c = '_'
  · subst hc
    rfl
  · rw [if_neg hc]
    unfold behind?
    split
    · next h => cases h
    · next h => exact absurd (List.cons.inj h).1 hc
    · next h =>
      cases h
      rfl

theorem Leaves.behind? (h : Leaves rest kept) : Naming.behind? rest.toList = some kept.toList := by
  cases h with
  | underscore something =>
    have hkept : ¬kept.toList.isEmpty := by simpa using something
    have hchars : ("_" ++ kept).toList = '_' :: kept.toList := String.toList_append
    rw [hchars, behind?_cons, if_pos rfl, if_neg hkept]
  | @capital _ c first upper =>
    obtain ⟨tail, hchars⟩ : ∃ tail, rest.toList = c :: tail := List.head?_eq_some_iff.mp first
    -- an underscore is no capital
    have hc : c ≠ '_' := by
      rintro rfl
      rw [Text.isUppercase_underscore] at upper
      cases upper
    rw [hchars, behind?_cons, if_neg hc, if_pos upper]

end Naming
end PropertyBinding
