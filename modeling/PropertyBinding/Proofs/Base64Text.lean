import Mathlib.Algebra.Group.Nat.Defs
import PropertyBinding.Base64

/-! # What Base64 text says

`Base64.Spells` tells the standard text of bytes by their bits, without the code that makes
it: the bits, filled up with zeros, are cut into groups of six, each group is written as
the character of its number, and equality signs fill up the last four characters.  There
is one such text, and it is the one that is written (`Base64.standard_iff`).
-/
namespace PropertyBinding
namespace Base64

/-- The characters in the order of the numbers they stand for. -/
def alphabet : List Char :=
  "ABCDEFGHIJKLMNOPQRSTUVWXYZabcdefghijklmnopqrstuvwxyz0123456789+/".toList

/-- The last `width` binary digits of a number, the most significant one first. -/
def bits : Nat → Nat → List Bool
  | 0, _ => []
  | width + 1, n => bits width (n / 2) ++ [n % 2 == 1]

/-- The bits of bytes, one byte after the other. -/
def byteBits (data : List UInt8) : List Bool :=
  data.flatMap fun byte => bits 8 byte.toNat

/-- A text spells bytes: its digits carry their bits and fewer than six zeros, and it is
padded to groups of four characters. -/
structure Spells (data : List UInt8) (text : List Char) (digits : List Nat) (padding : Nat) :
    Prop where
  below : ∀ digit ∈ digits, digit < 64
  carried : digits.flatMap (bits 6) = byteBits data ++ List.replicate (2 * padding) false
  written : text = digits.map (fun digit => alphabet.getD digit '=') ++ List.replicate padding '='
  short : padding < 3
  whole : 4 ∣ text.length

/-- The text is the standard one of the bytes. -/
def Standard (data : List UInt8) (text : String) : Prop :=
  ∃ digits padding, Spells data text.toList digits padding

/-! ## Bits -/

theorem length_bits (width n : Nat) : (bits width n).length = width := by
  induction width generalizing n with
  | zero => rfl
  | succ width ih => rw [bits, List.length_append, ih, List.length_singleton]

theorem bits_zero (width : Nat) : bits width 0 = List.replicate width false := by
  induction width with
  | zero => rfl
  | succ width ih =>
    rw [bits, ih, List.replicate_succ']
    rfl

theorem bits_add (high low n : Nat) :
    bits (high + low) n = bits high (n / 2 ^ low) ++ bits low n := by
  induction low generalizing n with
  | zero => simp [bits]
  | succ low ih =>
    rw [← Nat.add_assoc, bits, bits, ih, List.append_assoc, Nat.div_div_eq_div_mul,
      Nat.pow_succ']

theorem bits_mod (width n : Nat) : bits width (n % 2 ^ width) = bits width n := by
  induction width generalizing n with
  | zero => rfl
  | succ width ih =>
    have hhalf : n % 2 ^ (width + 1) / 2 = n / 2 % 2 ^ width := by
      rw [Nat.pow_succ', Nat.mod_mul_right_div_self]
    have hlast : n % 2 ^ (width + 1) % 2 = n % 2 := by
      rw [Nat.pow_succ', Nat.mod_mul_right_mod]
    rw [bits, bits, hhalf, hlast, ih]

/-- A number is cut before its last six bits. -/
theorem bits_cut (high n : Nat) : bits (high + 6) n = bits high (n / 64) ++ bits 6 (n % 64) := by
  have hsixty : 64 = 2 ^ 6 := rfl
  rw [bits_add, hsixty, bits_mod]

/-- A number that is put together from two is cut where these meet. -/
theorem bits_join (high : Nat) {low m n : Nat} (hn : n < 2 ^ low) :
    bits (high + low) (m * 2 ^ low + n) = bits high m ++ bits low n := by
  have hm : (m * 2 ^ low + n) / 2 ^ low = m := by
    rw [Nat.mul_comm, Nat.mul_add_div (Nat.two_pow_pos low), Nat.div_eq_of_lt hn, Nat.add_zero]
  have hrest : (m * 2 ^ low + n) % 2 ^ low = n := by
    rw [Nat.mul_comm, Nat.mul_add_mod, Nat.mod_eq_of_lt hn]
  rw [bits_add, hm, ← bits_mod low (m * 2 ^ low + n), hrest]

theorem bits_inj {width n m : Nat} (hn : n < 2 ^ width) (hm : m < 2 ^ width)
    (h : bits width n = bits width m) : n = m := by
  induction width generalizing n m with
  | zero => omega
  | succ width ih =>
    rw [Nat.pow_succ] at hn hm
    obtain ⟨hhigh, hlow⟩ := List.append_inj' h rfl
    have hhalf : n / 2 = m / 2 := ih (by omega) (by omega) hhigh
    have hlast : (n % 2 == 1) = (m % 2 == 1) := List.singleton_inj.mp hlow
    have hodd : n % 2 = 1 ↔ m % 2 = 1 := by simpa using congrArg (· = true) hlast
    omega

theorem length_flatMap_bits (width : Nat) (digits : List Nat) :
    (digits.flatMap (bits width)).length = width * digits.length := by
  induction digits with
  | nil => rfl
  | cons digit rest ih =>
    rw [List.flatMap_cons, List.length_append, length_bits, ih, List.length_cons, Nat.mul_succ,
      Nat.add_comm]

theorem length_byteBits (data : List UInt8) : (byteBits data).length = 8 * data.length := by
  have hdigits : byteBits data = (data.map UInt8.toNat).flatMap (bits 8) :=
    (List.flatMap_map UInt8.toNat (bits 8) data).symm
  rw [hdigits, length_flatMap_bits, List.length_map]

/-- Digits are known by their bits. -/
theorem flatMap_bits_inj {width : Nat} {digits others : List Nat}
    (hd : ∀ digit ∈ digits, digit < 2 ^ width) (ho : ∀ digit ∈ others, digit < 2 ^ width)
    (hlength : digits.length = others.length)
    (h : digits.flatMap (bits width) = others.flatMap (bits width)) : digits = others := by
  induction digits generalizing others with
  | nil => exact (List.eq_nil_of_length_eq_zero hlength.symm).symm
  | cons digit rest ih =>
    cases others with
    | nil => cases hlength
    | cons other others =>
      rw [List.flatMap_cons, List.flatMap_cons] at h
      obtain ⟨hfirst, hrest⟩ :=
        List.append_inj h ((length_bits width digit).trans (length_bits width other).symm)
      have hsame : digit = other :=
        bits_inj (hd digit List.mem_cons_self) (ho other List.mem_cons_self) hfirst
      rw [hsame, ih (fun d hmem => hd d (List.mem_cons_of_mem _ hmem))
        (fun d hmem => ho d (List.mem_cons_of_mem _ hmem)) (Nat.succ.inj hlength) hrest]

/-! ## Digits of six bits -/

theorem symbol_eq : ∀ digit < 64, symbol digit = alphabet.getD digit '=' := by decide

/-- Six-bit digits of a number, as many as asked for, the most significant one first. -/
def sextets : Nat → Nat → List Nat
  | 0, _ => []
  | count + 1, n => sextets count (n / 64) ++ [n % 64]

theorem flatMap_sextets (count n : Nat) :
    (sextets count n).flatMap (bits 6) = bits (6 * count) n := by
  induction count generalizing n with
  | zero => rfl
  | succ count ih =>
    rw [sextets, List.flatMap_append, ih, List.flatMap_singleton]
    exact (bits_cut (6 * count) n).symm

theorem sextets_below {count n digit : Nat} (h : digit ∈ sextets count n) : digit < 64 := by
  induction count generalizing n with
  | zero => cases h
  | succ count ih =>
    rcases List.mem_append.mp h with h | h
    · exact ih h
    · rw [List.mem_singleton.mp h]
      exact Nat.mod_lt n (by decide)

/-- The characters of a group are those of its digits. -/
theorem map_sextets (count n : Nat) :
    (sextets count n).map symbol = (sextets count n).map fun digit => alphabet.getD digit '=' :=
  List.map_congr_left fun digit h => symbol_eq digit (sextets_below h)

theorem length_sextets (count n : Nat) : (sextets count n).length = count := by
  induction count generalizing n with
  | zero => rfl
  | succ count ih => rw [sextets, List.length_append, ih, List.length_singleton]

/-! ## The written text -/

/-- The digits of a group of bytes: one more than there are bytes. -/
def groupDigits (count padding n : Nat) : List Nat :=
  sextets (count + 1) (n * 2 ^ (2 * padding))

/-- A group of bytes that are put together in one number, with its padding. -/
def group (count padding n : Nat) : List Char :=
  (groupDigits count padding n).map symbol ++ List.replicate padding '='

theorem spells_group {bytes : List UInt8} {count padding n : Nat}
    (hbytes : byteBits bytes = bits (8 * count) n) (hcount : count + padding = 3)
    (hshort : padding < 3) :
    Spells bytes (group count padding n) (groupDigits count padding n) padding where
  below _ h := sextets_below h
  carried := by
    have hwidth : 6 * (count + 1) = 8 * count + 2 * padding := by omega
    have hjoin := bits_join (8 * count) (m := n) (Nat.two_pow_pos (2 * padding))
    rw [groupDigits, flatMap_sextets, hbytes, hwidth, ← bits_zero]
    exact hjoin
  written := by rw [group, groupDigits, map_sextets]
  short := hshort
  whole := by
    rw [group, groupDigits, List.length_append, List.length_map, length_sextets,
      List.length_replicate]
    omega

/-- A text without padding can be continued. -/
theorem Spells.append {group rest : List UInt8} {text text' : List Char} {digits digits' : List Nat}
    {padding : Nat} (h : Spells group text digits 0) (h' : Spells rest text' digits' padding) :
    Spells (group ++ rest) (text ++ text') (digits ++ digits') padding where
  below digit hmem := (List.mem_append.mp hmem).elim (h.below digit) (h'.below digit)
  carried := by
    have hcarried : digits.flatMap (bits 6) = byteBits group ++ [] := h.carried
    rw [List.flatMap_append, hcarried, h'.carried, List.append_nil, ← List.append_assoc]
    unfold byteBits
    rw [List.flatMap_append]
  written := by
    have hwritten : text = digits.map (fun digit => alphabet.getD digit '=') ++ [] := h.written
    rw [hwritten, h'.written, List.map_append, List.append_nil, List.append_assoc]
  short := h'.short
  whole := by
    rw [List.length_append]
    exact Nat.dvd_add h.whole h'.whole

theorem byteBits_two (a b : UInt8) : byteBits [a, b] = bits 16 (a.toNat * 2 ^ 8 + b.toNat) := by
  rw [bits_join 8 b.toNat_lt]
  rfl

theorem byteBits_three (a b c : UInt8) :
    byteBits [a, b, c] = bits 24 ((a.toNat * 2 ^ 8 + b.toNat) * 2 ^ 8 + c.toNat) := by
  rw [bits_join 16 c.toNat_lt, ← byteBits_two]
  rfl

/-- A group starts with the digit that its number leaves. -/
theorem sextets_succ {count n : Nat} (hn : n < 64 ^ (count + 1)) :
    sextets (count + 1) n = n / 64 ^ count :: sextets count n := by
  induction count generalizing n with
  | zero =>
    have hdigit : n % 64 = n := Nat.mod_eq_of_lt hn
    rw [Nat.pow_zero, Nat.div_one]
    exact congrArg (fun digit => [digit]) hdigit
  | succ count ih =>
    have hhigh : n / 64 < 64 ^ (count + 1) := by
      rw [Nat.pow_succ] at hn
      omega
    rw [sextets, ih hhigh, sextets, Nat.div_div_eq_div_mul, ← Nat.pow_succ', List.cons_append]

theorem sextets_four {n : Nat} (hn : n < 64 ^ 4) :
    sextets 4 n = [n / 262144, n / 4096 % 64, n / 64 % 64, n % 64] := by
  have hsecond : n / 64 / 64 = n / 4096 := Nat.div_div_eq_div_mul n 64 64
  rw [sextets_succ hn, sextets, sextets, hsecond]
  rfl

theorem chars_one (a : UInt8) : chars [a] = group 1 2 a.toNat := by
  have ha : a.toNat < 256 := a.toNat_lt
  rw [group, groupDigits, sextets_succ (by omega)]
  rfl

theorem chars_two (a b : UInt8) : chars [a, b] = group 2 1 (a.toNat * 2 ^ 8 + b.toNat) := by
  have ha : a.toNat < 256 := a.toNat_lt
  have hb : b.toNat < 256 := b.toNat_lt
  rw [group, groupDigits, sextets_succ (by omega)]
  rfl

theorem chars_three (a b c : UInt8) (rest : List UInt8) :
    chars (a :: b :: c :: rest) =
      group 3 0 ((a.toNat * 2 ^ 8 + b.toNat) * 2 ^ 8 + c.toNat) ++ chars rest := by
  have ha : a.toNat < 256 := a.toNat_lt
  have hb : b.toNat < 256 := b.toNat_lt
  have hc : c.toNat < 256 := c.toNat_lt
  rw [group, groupDigits, Nat.mul_zero, Nat.pow_zero, Nat.mul_one, sextets_four (by omega), chars]
  rfl

/-- The written text is a text of the bytes. -/
theorem spells_chars (data : List UInt8) :
    ∃ digits padding, Spells data (chars data) digits padding := by
  induction data using chars.induct with
  | case1 => exact ⟨[], 0, ⟨fun _ h => (nomatch h), rfl, rfl, by decide, by decide⟩⟩
  | case2 a =>
    rw [chars_one]
    exact ⟨_, 2, spells_group (List.append_nil (bits 8 a.toNat)) rfl (by decide)⟩
  | case3 a b =>
    rw [chars_two]
    exact ⟨_, 1, spells_group (byteBits_two a b) rfl (by decide)⟩
  | case4 a b c rest ih =>
    obtain ⟨digits, padding, hrest⟩ := ih
    let n := (a.toNat * 2 ^ 8 + b.toNat) * 2 ^ 8 + c.toNat
    have hgroup : Spells [a, b, c] (group 3 0 n) (groupDigits 3 0 n) 0 :=
      spells_group (byteBits_three a b c) rfl (by decide)
    rw [chars_three]
    exact ⟨_, padding, hgroup.append hrest⟩

/-! ## The only text -/

theorem Spells.unique {data : List UInt8} {text text' : List Char} {digits digits' : List Nat}
    {padding padding' : Nat} (h : Spells data text digits padding)
    (h' : Spells data text' digits' padding') : text = text' := by
  have hcarried := congrArg List.length h.carried
  have hcarried' := congrArg List.length h'.carried
  have hwhole := h.whole
  have hwhole' := h'.whole
  have hshort := h.short
  have hshort' := h'.short
  simp only [length_flatMap_bits, List.length_append, length_byteBits, List.length_replicate]
    at hcarried hcarried'
  simp only [h.written, h'.written, List.length_append, List.length_map, List.length_replicate]
    at hwhole hwhole'
  have hpadding : padding = padding' := by omega
  have hlength : digits.length = digits'.length := by omega
  subst hpadding
  have hdigits : digits = digits' :=
    flatMap_bits_inj h.below h'.below hlength (h.carried.trans h'.carried.symm)
  rw [h.written, h'.written, hdigits]

/-- The standard text of bytes is the one that is written, and there is no other. -/
theorem standard_iff {data : List UInt8} {text : String} :
    Standard data text ↔ text = encode data := by
  obtain ⟨digits, padding, hchars⟩ := spells_chars data
  constructor
  · rintro ⟨digits', padding', h⟩
    rw [encode, ← h.unique hchars, String.ofList_toList]
  · rintro rfl
    refine ⟨digits, padding, ?_⟩
    rw [encode, String.toList_ofList]
    exact hchars

end Base64
end PropertyBinding
