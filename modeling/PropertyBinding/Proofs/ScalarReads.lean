import Mathlib.Algebra.Group.Int.Defs
import PropertyBinding.Scalar

/-! # A scalar is read exactly from the value it travels as

Seven of the nine scalar types are read from no other value than the one as which they travel
(`Scalar.narrow_inverts_widen`), so that no integer wraps and no text is read in part.  Each
other value is refused, for one of three reasons (`Scalar.Refuses`): it is of another kind, it
is an integer beyond the bits of the type, or it is a text that is not one character long.

A double is also read from an integer, as the double nearest to it.
-/
namespace PropertyBinding
namespace Scalar

/-- The kind of the values as which a scalar travels. -/
def kind : Scalar → String
  | i8 | i16 | i32 | i64 => "integer"
  | f32 | f64 => "float"
  | bool => "bool"
  | char | string => "string"

@[simp] theorem kind_widen (s : Scalar) (data : s.Carrier) : (s.widen data).kind = s.kind := by
  cases s <;> rfl

/-- The number of bits of an integer type. -/
def bits? : Scalar → Option Nat
  | i8 => some 8
  | i16 => some 16
  | i32 => some 32
  | i64 => some 64
  | _ => none

/-- The signed integers of a number of bits. -/
def Fits (bits : Nat) (i : Int64) : Prop :=
  -2 ^ (bits - 1) ≤ i.toInt ∧ i.toInt < 2 ^ (bits - 1)

instance (bits : Nat) (i : Int64) : Decidable (Fits bits i) :=
  inferInstanceAs (Decidable (_ ∧ _))

/-- Why a value is refused as a scalar, in the words of the error. -/
inductive Refuses : Scalar → Value → String → Prop
  /-- The value is of another kind. -/
  | kind {s : Scalar} {value : Value} (h : value.kind ≠ s.kind) : Refuses s value value.kind
  /-- The integer has too many bits. -/
  | range {s : Scalar} {bits : Nat} {i : Int64} (hs : s.bits? = some bits) (h : ¬Fits bits i) :
      Refuses s (.integer i) s!"integer {i.toInt} out of range"
  /-- The text has no character, or several. -/
  | length {text : String} (h : text.length ≠ 1) :
      Refuses char (.string text) s!"string of length {text.length}"

variable {s : Scalar} {property : String} {value : Value}

theorem kind_of_bits? {bits : Nat} (h : s.bits? = some bits) : s.kind = "integer" := by
  cases s <;> cases h <;> rfl

theorem eq_integer_of_kind (h : value.kind = "integer") : ∃ i, value = .integer i := by
  cases value <;> simp [Value.kind] at h
  exact ⟨_, rfl⟩

/-! ## What is accepted -/

/-- A scalar with a number of bits is of an integer type: it is widened and read back as the
words of the type are, and the bounds of the type are those of the bits. -/
theorem exists_integerType {bits : Nat} (hs : s.bits? = some bits) :
    ∃ type : IntegerType s.Carrier, type.low = -2 ^ (bits - 1) ∧ type.beyond = 2 ^ (bits - 1) ∧
      (∀ data, s.widen data = .integer (type.widen data)) ∧
      ∀ property i, s.narrow property (.integer i) = s.narrowInteger type property i := by
  cases s <;> cases hs
  case i8 => exact ⟨.int8, rfl, rfl, fun _ => rfl, fun _ _ => rfl⟩
  case i16 => exact ⟨.int16, rfl, rfl, fun _ => rfl, fun _ _ => rfl⟩
  case i32 => exact ⟨.int32, rfl, rfl, fun _ => rfl, fun _ _ => rfl⟩
  case i64 => exact ⟨.int64, rfl, rfl, fun _ => rfl, fun _ _ => rfl⟩

/-- An integer that fits is some integer of the type, widened. -/
theorem exists_widen_of_fits {bits : Nat} {i : Int64} (hs : s.bits? = some bits)
    (h : Fits bits i) : ∃ data, s.widen data = .integer i := by
  obtain ⟨type, hlow, hbeyond, hwiden, -⟩ := exists_integerType hs
  have hsome : type.ofInt64? i = some (type.ofInt i.toInt) :=
    if_pos (by rw [hlow, hbeyond]; exact h)
  exact ⟨_, by rw [hwiden, ← type.ofInt64?_eq_some_iff.mp hsome]⟩

/-- A text of length one is a character, widened. -/
theorem exists_widen_of_length {text : String} (h : text.length = 1) :
    ∃ c, char.widen c = .string text := by
  rw [← String.length_toList] at h
  obtain ⟨c, hc⟩ := List.length_eq_one_iff.mp h
  refine ⟨c, congrArg Value.string (String.toList_inj.mp ?_)⟩
  rw [String.toList_singleton, hc]

/-- A value is a scalar of the type, widened, or there is a reason to refuse it. -/
theorem widens_or_refuses (not_single : s ≠ f32) (value : Value) :
    (∃ data, value = s.widen data) ∨ ∃ found, s.Refuses value found := by
  by_cases hkind : value.kind = s.kind
  case neg => exact .inr ⟨_, .kind hkind⟩
  -- of the right kind: an integer still has to fit, and a text to be short enough
  cases hbits : s.bits? with
  | some bits =>
    obtain ⟨i, rfl⟩ := eq_integer_of_kind (hkind.trans (kind_of_bits? hbits))
    by_cases hfits : Fits bits i
    · obtain ⟨data, hdata⟩ := exists_widen_of_fits hbits hfits
      exact .inl ⟨data, hdata.symm⟩
    · exact .inr ⟨_, .range hbits hfits⟩
  | none =>
    cases s <;> simp only [bits?, reduceCtorEq] at hbits
    case f32 => exact absurd rfl not_single
    case f64 | bool | string =>
      cases value <;> simp [Value.kind, kind] at hkind
      exact .inl ⟨_, rfl⟩
    case char =>
      cases value <;> simp [Value.kind, kind] at hkind
      rename_i text
      by_cases hlength : text.length = 1
      · obtain ⟨c, hc⟩ := exists_widen_of_length hlength
        exact .inl ⟨c, hc.symm⟩
      · exact .inr ⟨_, .length hlength⟩

/-! ## What is refused -/

theorem narrow_of_not_fits {bits : Nat} {i : Int64} (hs : s.bits? = some bits)
    (h : ¬Fits bits i) (property : String) :
    s.narrow property (.integer i) = .error (s.integerOutOfRange property i) := by
  obtain ⟨type, hlow, hbeyond, -, hnarrow⟩ := exists_integerType hs
  have hnone : type.ofInt64? i = none :=
    type.ofInt64?_eq_none_iff.mpr (by rw [hlow, hbeyond]; exact h)
  rw [hnarrow, narrowInteger, hnone]

theorem onlyChar_of_length_ne {text : String} (h : text.length ≠ 1) (property : String) :
    onlyChar property text = .error (notOneCharacter property text) := by
  rw [← String.length_toList] at h
  unfold onlyChar
  split
  · rename_i hsingle
    rw [hsingle] at h
    exact absurd rfl h
  · rfl

/-- A value is refused as soon as there is a reason. -/
theorem narrow_of_refuses {found : String} (h : s.Refuses value found) (not_single : s ≠ f32)
    (not_double : s ≠ f64) (property : String) :
    s.narrow property value = .error (.conversion property s.name found) := by
  cases h with
  | kind h =>
    unfold narrow
    split
    -- both float types take integers, which are of another kind
    case h_5 | h_6 => exact absurd rfl not_single
    case h_7 | h_8 => exact absurd rfl not_double
    case h_12 => rfl
    all_goals exact absurd rfl h
  | range hs h => exact narrow_of_not_fits hs h property
  | length h => exact onlyChar_of_length_ne h property

/-! ## Both ways -/

theorem narrow_eq_ok_iff (not_single : s ≠ f32) (not_double : s ≠ f64) {data : s.Carrier} :
    s.narrow property value = .ok data ↔ value = s.widen data := by
  constructor
  · intro h
    rcases widens_or_refuses not_single value with ⟨other, rfl⟩ | ⟨found, hrefuses⟩
    · rw [narrow_widen s property other not_single] at h
      cases h
      rfl
    · rw [narrow_of_refuses hrefuses not_single not_double] at h
      cases h
  · rintro rfl
    exact narrow_widen s property data not_single

theorem narrow_eq_error_iff (not_single : s ≠ f32) (not_double : s ≠ f64) {error : Error} :
    s.narrow property value = .error error ↔
      ∃ found, s.Refuses value found ∧ error = .conversion property s.name found := by
  constructor
  · intro h
    rcases widens_or_refuses not_single value with ⟨data, rfl⟩ | ⟨found, hrefuses⟩
    · rw [narrow_widen s property data not_single] at h
      cases h
    · rw [narrow_of_refuses hrefuses not_single not_double] at h
      cases h
      exact ⟨found, hrefuses, rfl⟩
  · rintro ⟨found, hrefuses, rfl⟩
    exact narrow_of_refuses hrefuses not_single not_double property

/-- A double is read from floats and from integers. -/
theorem narrow_double_eq_ok_iff {f : Float} :
    f64.narrow property value = .ok f ↔
      value = .float f ∨ ∃ i, value = .integer i ∧ f = Value.nearestFloat i := by
  cases value with
  | float g => simp [narrow]
  | integer i => simp [narrow, eq_comm]
  | _ => simp [narrow]

/-- **A scalar is read exactly from the value it travels as.**  Each other value is refused with
a conversion error of the property, which names the type and says what was found: the kind of
the value, an integer beyond the bits of the type, or the length of a text.  A double is read
from a float as it is and from an integer as the double nearest to it, and from nothing else. -/
theorem narrow_inverts_widen (property : String) (value : Value) :
    (∀ s : Scalar, s ≠ f32 → s ≠ f64 →
      (∀ data, s.narrow property value = .ok data ↔ value = s.widen data) ∧
      ∀ error, s.narrow property value = .error error ↔
        ∃ found, s.Refuses value found ∧ error = .conversion property s.name found) ∧
    ∀ f, f64.narrow property value = .ok f ↔
      value = .float f ∨ ∃ i, value = .integer i ∧ f = Value.nearestFloat i := by
  constructor
  · intro s not_single not_double
    exact ⟨fun data => narrow_eq_ok_iff not_single not_double,
      fun error => narrow_eq_error_iff not_single not_double⟩
  · intro f
    exact narrow_double_eq_ok_iff

/-- The least integer of eight bits is read and the one above the greatest is refused; a
character of two bytes is read and two characters are refused; a truth value is no text, and an
integer is read as the double that it is. -/
theorem narrow_inverts_widen_edges :
    i8 ≠ f32 ∧ i8 ≠ f64 ∧ char ≠ f32 ∧ char ≠ f64 ∧ string ≠ f32 ∧ string ≠ f64 ∧
    i8.narrow "n" (.integer (-128)) = .ok (-128 : Int8) ∧
    i8.narrow "n" (.integer 128) =
      .error (.conversion "n" "i8" "integer 128 out of range") ∧
    char.narrow "c" (.string "é") = .ok 'é' ∧
    char.narrow "c" (.string "éa") =
      .error (.conversion "c" "char" "string of length 2") ∧
    string.narrow "t" (.bool true) = .error (.conversion "t" "string" "bool") ∧
    f64.narrow "x" (.integer 3) = .ok (3.0 : Float) := by
  refine ⟨by decide, by decide, by decide, by decide, by decide, by decide, ?_, ?_, ?_, ?_, ?_, ?_⟩
  · obtain ⟨hok, -⟩ := (narrow_inverts_widen "n" (.integer (-128))).1 i8 (by decide) (by decide)
    exact (hok (-128 : Int8)).mpr rfl
  · obtain ⟨-, herror⟩ := (narrow_inverts_widen "n" (.integer 128)).1 i8 (by decide) (by decide)
    exact (herror _).mpr ⟨_, .range rfl (by decide), rfl⟩
  · obtain ⟨hok, -⟩ := (narrow_inverts_widen "c" (.string "é")).1 char (by decide) (by decide)
    exact (hok 'é').mpr rfl
  · obtain ⟨-, herror⟩ := (narrow_inverts_widen "c" (.string "éa")).1 char (by decide) (by decide)
    exact (herror _).mpr ⟨_, .length (by decide), rfl⟩
  · obtain ⟨-, herror⟩ := (narrow_inverts_widen "t" (.bool true)).1 string (by decide) (by decide)
    exact (herror _).mpr ⟨_, .kind (by decide), rfl⟩
  · exact ((narrow_inverts_widen "x" (.integer 3)).2 _).mpr (.inr ⟨3, rfl, rfl⟩)

end Scalar
end PropertyBinding
