import Mathlib.Tactic.SplitIfs
import PropertyBinding.Json.Decoder

/-! # Trees are read back from their text

The text of a tree is scanned to the outline of the tree, with nothing left over
(`Json.scan_chars`), so a decoder that is given the text answers what it answers on that
outline (`Json.decode_text`).  This holds of every tree whose numbers are read back one by
one (`Json.Legible`); all integers are (`JsonNumber.legible_integer`).

The leaves come first: a string is scanned up to its closing quote, whatever characters it
holds, and a number up to the first symbol that cannot belong to it.  Then `Outline.Scans`
says of an amount of fuel that it is enough for all texts of half its size.  The scanner
spends one unit on each call, so this is proved by induction on the fuel, with one lemma
for each of the three scanners.
-/
namespace PropertyBinding
namespace Json
namespace Outline

/-! ## Strings -/

/-- The four digits of an escaped control spell its number. -/
theorem hexCode?_control {n : Nat} (h : n < 0x20) :
    hexCode? (some '0') (some '0') (some (hexDigit (n / 16))) (some (hexDigit (n % 16))) =
      some n := by
  have hall : ∀ n < 0x20, hexCode? (some '0') (some '0') (some (hexDigit (n / 16)))
      (some (hexDigit (n % 16))) = some n := by decide
  exact hall n h

theorem pieces?_plain {c : Char} (hquote : c ≠ '"') (hslash : c ≠ '\\')
    (hcontrol : ¬c.toNat < 0x20) (rest : List Symbol) :
    pieces? (some c :: rest) =
      (pieces? rest).map fun (found, after) => (.char c :: found, after) := by
  rw [pieces?]
  · rw [if_neg hcontrol]
  all_goals simp_all

theorem pieces?_short {c letter : Char} (h : unescape? letter = some c) (hu : letter ≠ 'u')
    (rest : List Symbol) :
    pieces? (some '\\' :: some letter :: rest) =
      (pieces? rest).map fun (found, after) => (.char c :: found, after) := by
  rw [pieces?]
  · rw [h]
  · simp_all

theorem pieces?_control {c : Char} (h : c.toNat < 0x20) (rest : List Symbol) :
    pieces? (some '\\' :: some 'u' :: some '0' :: some '0' :: some (hexDigit (c.toNat / 16)) ::
        some (hexDigit (c.toNat % 16)) :: rest) =
      (pieces? rest).map fun (found, after) => (.char c :: found, after) := by
  have hcode : Piece.ofCode c.toNat = .char c := by
    unfold Piece.ofCode
    rw [if_neg (by omega), Char.ofNat_toNat]
  simp only [pieces?, hexCode?_control h, hcode]

/-- However a character is written in a string, it is scanned as itself. -/
theorem pieces?_escaped (c : Char) (rest : List Symbol) :
    pieces? ((escaped c).map some ++ rest) =
      (pieces? rest).map fun (found, after) => (.char c :: found, after) := by
  unfold escaped
  split_ifs with hquote hslash hb hf hn hr ht hcontrol
  · subst hquote
    exact pieces?_short rfl (by decide) rest
  · subst hslash
    exact pieces?_short rfl (by decide) rest
  · subst hb
    exact pieces?_short rfl (by decide) rest
  · subst hf
    exact pieces?_short rfl (by decide) rest
  · subst hn
    exact pieces?_short rfl (by decide) rest
  · subst hr
    exact pieces?_short rfl (by decide) rest
  · subst ht
    exact pieces?_short rfl (by decide) rest
  · exact pieces?_control hcontrol rest
  · exact pieces?_plain hquote hslash hcontrol rest

theorem pieces?_flatMap_escaped (cs : List Char) (rest : List Symbol) :
    pieces? ((cs.flatMap escaped).map some ++ some '"' :: rest) =
      some (cs.map .char, rest) := by
  induction cs with
  | nil => simp [pieces?]
  | cons c cs ih =>
    rw [List.flatMap_cons, List.map_append, List.append_assoc, pieces?_escaped, ih]
    rfl

theorem assemble?_map_char (cs : List Char) : assemble? (cs.map .char) = some cs := by
  induction cs with
  | nil => rfl
  | cons c cs ih => simp [assemble?, ih]

/-- A written text is scanned up to its closing quote. -/
theorem scanText?_chars (text : String) (rest : List Symbol) :
    scanText? ((text.toList.flatMap escaped).map some ++ some '"' :: rest) =
      some (some text, rest) := by
  simp [scanText?, pieces?_flatMap_escaped, assemble?_map_char]

/-! ## Numbers -/

/-- What follows a number: nothing that could still belong to it. -/
def Ended (rest : List Symbol) : Prop :=
  ∀ c after, rest = some c :: after → c.isDigit = false ∧ c ≠ '.' ∧ c ≠ 'e' ∧ c ≠ 'E'

theorem ended_nil : Ended [] := by
  intro c after h
  cases h

theorem ended_cons {c : Char} {rest : List Symbol} (h : c = ',' ∨ c = ']' ∨ c = '}') :
    Ended (some c :: rest) := by
  intro first after heq
  cases heq
  rcases h with rfl | rfl | rfl <;> decide

/-- The decimal digits of a number. -/
def digitsOf (n : Nat) : List Nat :=
  (Decimal.digitChars n).map fun c => c.toNat - '0'.toNat

theorem digitsOf_ne_nil (n : Nat) : digitsOf n ≠ [] := by
  simp [digitsOf, Decimal.digitChars, Nat.toDigits_ne_nil]

theorem isDigit_of_mem_digitChars {n : Nat} {c : Char} (h : c ∈ Decimal.digitChars n) :
    c.isDigit = true :=
  Nat.isDigit_of_mem_toDigits (by decide) (by decide) h

/-- Only zero is written with a zero in front. -/
theorem head_digitsOf {n d : Nat} {ds : List Nat} (hn : n ≠ 0) (h : digitsOf n = d :: ds) :
    d ≠ 0 := by
  induction n using Nat.strongRecOn generalizing ds with
  | _ n ih =>
    unfold digitsOf Decimal.digitChars at h
    by_cases hlt : n < 10
    · have hone : ∀ n < 10, n.digitChar.toNat - '0'.toNat = n := by decide
      rw [Nat.toDigits_of_lt_base hlt, List.map_cons, hone n hlt] at h
      cases h
      exact hn
    · -- the first digit is that of the number without its last one
      rw [Nat.toDigits_of_base_le (by decide) (by omega), List.map_append] at h
      change digitsOf (n / 10) ++ _ = _ at h
      cases hq : digitsOf (n / 10) with
      | nil => exact absurd hq (digitsOf_ne_nil _)
      | cons first others =>
        rw [hq] at h
        cases h
        exact ih (n / 10) (by omega) (by omega) hq

theorem digits_map_some {cs : List Char} (hcs : ∀ c ∈ cs, c.isDigit = true)
    {rest : List Symbol} (hr : Ended rest) :
    digits (cs.map some ++ rest) = (cs.map fun c => c.toNat - '0'.toNat, rest) := by
  induction cs with
  | nil =>
    match rest, hr with
    | [], _ => rfl
    | none :: _, _ => rfl
    | some c :: after, hr => simp [digits, (hr c after rfl).1]
  | cons c cs ih =>
    have hrest := ih fun d hd => hcs d (List.mem_cons_of_mem _ hd)
    simp [digits, hcs c List.mem_cons_self, hrest]

theorem scanWhole?_digitChars (n : Nat) {rest : List Symbol} (hr : Ended rest) :
    Numeral.scanWhole? ((Decimal.digitChars n).map some ++ rest) = some (digitsOf n, rest) := by
  have hdigits : digits ((Decimal.digitChars n).map some ++ rest) = (digitsOf n, rest) :=
    digits_map_some (fun _ => isDigit_of_mem_digitChars) hr
  unfold Numeral.scanWhole?
  rw [hdigits]
  split
  · rename_i heq
    exact absurd (congrArg Prod.fst heq) (digitsOf_ne_nil n)
  · rename_i heq
    by_cases hn : n = 0
    · subst hn
      cases heq
    · exact absurd rfl (head_digitsOf hn (congrArg Prod.fst heq))
  · rename_i heq
    cases heq
    rfl

theorem scanFraction?_ended {rest : List Symbol} (hr : Ended rest) :
    Numeral.scanFraction? rest = some (none, rest) := by
  unfold Numeral.scanFraction?
  split
  · exact absurd rfl (hr _ _ rfl).2.1
  · rfl

theorem scanExponent?_ended {rest : List Symbol} (hr : Ended rest) :
    Numeral.scanExponent? rest = some (none, rest) := by
  unfold Numeral.scanExponent?
  split
  all_goals first
    | rfl
    | exact absurd rfl (hr _ _ rfl).2.2.1
    | exact absurd rfl (hr _ _ rfl).2.2.2

theorem scanSign_of_ne {c : Char} (h : c ≠ '-') (rest : List Symbol) :
    Numeral.scanSign (some c :: rest) = (false, some c :: rest) := by
  unfold Numeral.scanSign
  split
  · simp_all
  · rfl

theorem scanSign_digitChars (n : Nat) (rest : List Symbol) :
    Numeral.scanSign ((Decimal.digitChars n).map some ++ rest) =
      (false, (Decimal.digitChars n).map some ++ rest) := by
  cases hd : Decimal.digitChars n with
  | nil => exact absurd hd Nat.toDigits_ne_nil
  | cons c cs =>
    refine scanSign_of_ne ?_ _
    rintro rfl
    have hminus : '-'.isDigit = true :=
      isDigit_of_mem_digitChars (n := n) (hd ▸ List.mem_cons_self)
    exact absurd hminus (by decide)

/-- A written integer is scanned as a numeral of its digits alone. -/
theorem scan?_integerChars (i : Int) {rest : List Symbol} (hr : Ended rest) :
    Numeral.scan? ((integerChars i).map some ++ rest) =
      some (⟨decide (i < 0), digitsOf i.natAbs, none, none⟩, rest) := by
  unfold Numeral.scan? integerChars
  by_cases hi : i < 0
  · simp [hi, Numeral.scanSign, scanWhole?_digitChars, hr, scanFraction?_ended,
      scanExponent?_ended]
  · simp [hi, scanSign_digitChars, scanWhole?_digitChars, hr, scanFraction?_ended,
      scanExponent?_ended]

theorem ofDigits_digitsOf (n : Nat) : Numeral.ofDigits (digitsOf n) = n := by
  unfold Numeral.ofDigits digitsOf Decimal.digitChars
  rw [List.foldl_map]
  simp only [Nat.mul_comm _ 10]
  rw [← Nat.ofDigitChars_eq_foldl, Nat.ofDigitChars_ten_toDigits]

theorem le_foldl_digits (ds : List Nat) (word : Nat) :
    word ≤ ds.foldl (fun n d => n * 10 + d) word := by
  induction ds generalizing word with
  | nil => exact Nat.le_refl _
  | cons d ds ih =>
    calc word ≤ word * 10 + d := by omega
      _ ≤ ds.foldl (fun n d => n * 10 + d) (word * 10 + d) := ih _

/-- Digits whose number a word holds are all gathered. -/
theorem gather_eq {ds : List Nat} {word : Nat}
    (h : ds.foldl (fun n d => n * 10 + d) word < 0x10000000000000000) :
    Numeral.gather word ds = (ds.foldl (fun n d => n * 10 + d) word, []) := by
  induction ds generalizing word with
  | nil => rfl
  | cons d ds ih =>
    have hd : word * 10 + d < 0x10000000000000000 :=
      Nat.lt_of_le_of_lt (le_foldl_digits ds _) h
    rw [Numeral.gather, if_pos hd, ih h]
    rfl

/-- The numeral of an integer stands for that integer. -/
theorem value?_digitsOf
    (i : { i : Int // -0x8000000000000000 ≤ i ∧ i < 0x10000000000000000 }) :
    Numeral.value? ⟨decide (i.val < 0), digitsOf i.val.natAbs, none, none⟩ =
      some (.integer i) := by
  have hword : Numeral.gather 0 (digitsOf i.val.natAbs) = (i.val.natAbs, []) := by
    have hnumber := ofDigits_digitsOf i.val.natAbs
    unfold Numeral.ofDigits at hnumber
    rw [gather_eq (by rw [hnumber]; omega), hnumber]
  have hsigned : (if decide (i.val < 0) = true then -(i.val.natAbs : Int) else i.val.natAbs) =
      i.val := by
    by_cases hneg : i.val < 0
    · rw [if_pos (by simpa using hneg)]
      omega
    · rw [if_neg (by simpa using hneg)]
      omega
  unfold Numeral.value?
  simp only [hword, and_self, if_true]
  unfold Numeral.integer?
  simp only [hsigned]
  rw [dif_pos i.property, if_neg]
  -- zero is written without a sign
  simp only [decide_eq_true_eq]
  omega

/-- A number begins with a digit or a sign. -/
theorem head_of_scan? {s : List Symbol} {found : Numeral × List Symbol}
    (h : Numeral.scan? s = some found) :
    ∃ c after, s = some c :: after ∧ (c = '-' ∨ c.isDigit = true) := by
  match s with
  | [] => simp [Numeral.scan?, Numeral.scanSign, Numeral.scanWhole?, digits] at h
  | none :: _ => simp [Numeral.scan?, Numeral.scanSign, Numeral.scanWhole?, digits] at h
  | some c :: after =>
    refine ⟨c, after, rfl, ?_⟩
    by_cases hminus : c = '-'
    · exact .inl hminus
    · by_cases hdigit : c.isDigit = true
      · exact .inr hdigit
      · simp [Numeral.scan?, scanSign_of_ne hminus, Numeral.scanWhole?, digits, hdigit] at h

end Outline

open Outline

/-- A number is read back from its text, up to the first symbol that cannot belong to it. -/
def JsonNumber.Legible (n : JsonNumber) : Prop :=
  ∀ rest, Ended rest → ∃ numeral,
    Numeral.scan? ((numberChars n).map some ++ rest) = some (numeral, rest) ∧
      numeral.value? = some n

theorem JsonNumber.legible_integer
    (i : { i : Int // -0x8000000000000000 ≤ i ∧ i < 0x10000000000000000 }) :
    JsonNumber.Legible (.integer i) :=
  fun _ hr => ⟨_, scan?_integerChars i.val hr, value?_digitsOf i⟩

/-! ## Trees -/

mutual

/-- All numbers of a tree are read back from their text. -/
def Legible : Json → Prop
  | .number n => JsonNumber.Legible n
  | .array items => LegibleItems items
  | .object fields => LegibleFields fields
  | _ => True

/-- The same for a list of trees. -/
def LegibleItems : List Json → Prop
  | [] => True
  | item :: rest => Legible item ∧ LegibleItems rest

/-- The same for a list of fields. -/
def LegibleFields : List (String × Json) → Prop
  | [] => True
  | (_, json) :: rest => Legible json ∧ LegibleFields rest

end

theorem legibleItems_iff (items : List Json) :
    LegibleItems items ↔ ∀ item ∈ items, item.Legible := by
  induction items with
  | nil => simp [LegibleItems]
  | cons item rest ih => simp [LegibleItems, ih]

theorem legibleFields_iff (fields : List (String × Json)) :
    LegibleFields fields ↔ ∀ field ∈ fields, field.2.Legible := by
  induction fields with
  | nil => simp [LegibleFields]
  | cons field rest ih => simp [LegibleFields, ih]

mutual

/-- The outline of the text of a tree. -/
def outline : Json → Outline
  | .null => .null
  | .bool b => .bool b
  | .number n => .number (some n)
  | .string s => .string (some s)
  | .array items => .array (outlines items) true
  | .object fields => .object (fieldOutlines fields) true

/-- The outlines of a list of trees. -/
def outlines : List Json → List Outline
  | [] => []
  | item :: rest => outline item :: outlines rest

/-- The outlines of a list of fields. -/
def fieldOutlines : List (String × Json) → List (Option String × Outline)
  | [] => []
  | (name, json) :: rest => (some name, outline json) :: fieldOutlines rest

end

theorem outlines_eq_map (items : List Json) : outlines items = items.map outline := by
  induction items with
  | nil => rfl
  | cons item rest ih => rw [outlines, ih, List.map_cons]

namespace Outline

/-! ### What the scanners do in one step -/

theorem skipBlanks_cons {c : Char} (h : isBlank c = false) (rest : List Symbol) :
    skipBlanks (some c :: rest) = some c :: rest := by
  simp [skipBlanks, h]

theorem isBlank_of_number {c : Char} (h : c = '-' ∨ c.isDigit = true) : isBlank c = false := by
  refine Bool.eq_false_iff.mpr fun hb => ?_
  have hcases : ((c = ' ' ∨ c = '\n') ∨ c = '\t') ∨ c = '\r' := by
    simpa [isBlank] using hb
  rcases hcases with ((rfl | rfl) | rfl) | rfl <;> exact absurd h (by decide)

theorem scanValue_number {s rest : List Symbol} {numeral : Numeral}
    (h : Numeral.scan? s = some (numeral, rest)) (fuel : Nat) :
    scanValue (fuel + 1) s = (.number numeral.value?, some rest) := by
  obtain ⟨c, after, rfl, hc⟩ := head_of_scan? h
  unfold scanValue
  rw [skipBlanks_cons (isBlank_of_number hc)]
  -- nothing else than a number begins with a digit or a sign
  split
  all_goals first
    | (rename_i heq; cases heq; exact absurd hc (by decide))
    | simp only [scanNumber, h]

theorem scanValue_string (s : String) (fuel : Nat) (rest : List Symbol) :
    scanValue (fuel + 1) ((stringChars s).map some ++ rest) = (.string (some s), some rest) := by
  have htext := scanText?_chars s rest
  simp [stringChars, scanValue, skipBlanks_cons (show isBlank '"' = false by decide),
    scanString, htext]

theorem scanValue_array {c : Char} (hblank : isBlank c = false) (hc : c ≠ ']') (fuel : Nat)
    (rest : List Symbol) :
    scanValue (fuel + 1) (some '[' :: some c :: rest) =
      (.array (scanItems fuel (some c :: rest)).1 (scanItems fuel (some c :: rest)).2.isSome,
        (scanItems fuel (some c :: rest)).2) := by
  rw [scanValue, skipBlanks_cons (by decide)]
  simp only [skipBlanks_cons hblank]
  split
  · simp_all
  · rfl

theorem scanValue_object (fuel : Nat) (rest : List Symbol) :
    scanValue (fuel + 1) (some '{' :: some '"' :: rest) =
      (.object (scanFields fuel (some '"' :: rest)).1
          (scanFields fuel (some '"' :: rest)).2.isSome,
        (scanFields fuel (some '"' :: rest)).2) := rfl

theorem scanItems_last {s rest : List Symbol} {fuel : Nat} {item : Outline}
    (h : scanValue fuel s = (item, some (some ']' :: rest))) :
    scanItems (fuel + 1) s = ([item], some rest) := by
  simp only [scanItems, h, skipBlanks_cons (show isBlank ']' = false by decide)]

theorem scanItems_more {s rest : List Symbol} {fuel : Nat} {item : Outline}
    (h : scanValue fuel s = (item, some (some ',' :: rest))) :
    scanItems (fuel + 1) s = (item :: (scanItems fuel rest).1, (scanItems fuel rest).2) := by
  simp only [scanItems, h, skipBlanks_cons (show isBlank ',' = false by decide)]

theorem scanFields_last {name : String} {s rest : List Symbol} {fuel : Nat} {value : Outline}
    (h : scanValue fuel s = (value, some (some '}' :: rest))) :
    scanFields (fuel + 1) ((stringChars name).map some ++ some ':' :: s) =
      ([(some name, value)], some rest) := by
  have htext := scanText?_chars name (some ':' :: s)
  simp [stringChars, scanFields, htext, h, skipBlanks, isBlank]

theorem scanFields_more {name : String} {s rest : List Symbol} {fuel : Nat} {value : Outline}
    (h : scanValue fuel s = (value, some (some ',' :: rest))) :
    scanFields (fuel + 1) ((stringChars name).map some ++ some ':' :: s) =
      ((some name, value) :: (scanFields fuel rest).1, (scanFields fuel rest).2) := by
  have htext := scanText?_chars name (some ':' :: s)
  simp [stringChars, scanFields, htext, h, skipBlanks, isBlank]

/-! ### Whole texts -/

/-- The text of a tree begins with a symbol that neither separates nor closes. -/
theorem exists_chars_eq_cons {json : Json} (h : json.Legible) :
    ∃ c after, json.chars = c :: after ∧ isBlank c = false ∧ c ≠ ']' := by
  match json, h with
  | .null, _ => exact ⟨_, _, rfl, by decide⟩
  | .bool true, _ => exact ⟨_, _, rfl, by decide⟩
  | .bool false, _ => exact ⟨_, _, rfl, by decide⟩
  | .string _, _ => exact ⟨_, _, rfl, by decide⟩
  | .array [], _ => exact ⟨_, _, rfl, by decide⟩
  | .array (_ :: _), _ => exact ⟨_, _, rfl, by decide⟩
  | .object [], _ => exact ⟨_, _, rfl, by decide⟩
  | .object ((_, _) :: _), _ => exact ⟨_, _, rfl, by decide⟩
  | .number n, h =>
    obtain ⟨numeral, hscan, -⟩ := h [] ended_nil
    obtain ⟨c, after, hc, hd⟩ := head_of_scan? hscan
    rw [List.append_nil] at hc
    obtain ⟨c, after, hn, ⟨⟩, -⟩ := List.map_eq_cons_iff.mp hc
    refine ⟨c, after, hn, isBlank_of_number hd, ?_⟩
    rintro rfl
    exact absurd hd (by decide)

/-- An amount of fuel is enough for the scanners to go through any text of half its size:
that of a tree, of the items of an array, and of the fields of an object. -/
structure Scans (fuel : Nat) : Prop where
  value : ∀ json : Json, json.Legible → 2 * json.chars.length ≤ fuel → ∀ rest, Ended rest →
    scanValue fuel (json.chars.map some ++ rest) = (json.outline, some rest)
  items : ∀ item more, LegibleItems (item :: more) →
    2 * (item.chars ++ moreItems more).length < fuel → ∀ rest,
      scanItems fuel ((item.chars ++ moreItems more).map some ++ rest) =
        (outlines (item :: more), some rest)
  fields : ∀ name json more, LegibleFields ((name, json) :: more) →
    2 * (stringChars name ++ ':' :: (json.chars ++ moreFields more)).length < fuel → ∀ rest,
      scanFields fuel
          ((stringChars name ++ ':' :: (json.chars ++ moreFields more)).map some ++ rest) =
        (fieldOutlines ((name, json) :: more), some rest)

theorem Scans.value_succ {fuel : Nat} (h : Scans fuel) (json : Json) (hl : json.Legible)
    (hf : 2 * json.chars.length ≤ fuel + 1) (rest : List Symbol) (hr : Ended rest) :
    scanValue (fuel + 1) (json.chars.map some ++ rest) = (json.outline, some rest) := by
  match json with
  | .null => rfl
  | .bool true => rfl
  | .bool false => rfl
  | .number n =>
    obtain ⟨numeral, hscan, hvalue⟩ := hl rest hr
    rw [outline, ← hvalue]
    exact scanValue_number hscan fuel
  | .string s => exact scanValue_string s fuel rest
  | .array [] => rfl
  | .array (item :: more) =>
    have hitems := h.items item more hl (by simp [chars] at hf ⊢; omega) rest
    -- the first item does not begin like the end of an array
    obtain ⟨c, after, hc, hblank, hne⟩ := exists_chars_eq_cons hl.1
    rw [chars]
    rw [hc] at hitems ⊢
    simp only [List.cons_append, List.map_cons] at hitems ⊢
    rw [scanValue_array hblank hne, hitems]
    rfl
  | .object [] => rfl
  | .object ((name, json) :: more) =>
    have hfields := h.fields name json more hl (by simp [chars] at hf ⊢; omega) rest
    rw [chars]
    rw [stringChars] at hfields ⊢
    simp only [List.cons_append, List.map_cons] at hfields ⊢
    rw [scanValue_object, hfields]
    rfl

theorem Scans.items_succ {fuel : Nat} (h : Scans fuel) (item : Json) (more : List Json)
    (hl : LegibleItems (item :: more))
    (hf : 2 * (item.chars ++ moreItems more).length < fuel + 1) (rest : List Symbol) :
    scanItems (fuel + 1) ((item.chars ++ moreItems more).map some ++ rest) =
      (outlines (item :: more), some rest) := by
  rw [List.length_append] at hf
  rw [List.map_append, List.append_assoc]
  match more with
  | [] => exact scanItems_last (h.value item hl.1 (by omega) _ (ended_cons (by decide)))
  | next :: more =>
    have hitem := h.value item hl.1 (by omega)
      (some ',' :: ((next.chars ++ moreItems more).map some ++ rest)) (ended_cons (by decide))
    have hmore := h.items next more hl.2 (by simp [moreItems] at hf ⊢; omega) rest
    rw [moreItems, List.map_cons, List.cons_append, scanItems_more hitem, hmore]
    rfl

theorem Scans.fields_succ {fuel : Nat} (h : Scans fuel) (name : String) (json : Json)
    (more : List (String × Json)) (hl : LegibleFields ((name, json) :: more))
    (hf : 2 * (stringChars name ++ ':' :: (json.chars ++ moreFields more)).length < fuel + 1)
    (rest : List Symbol) :
    scanFields (fuel + 1)
        ((stringChars name ++ ':' :: (json.chars ++ moreFields more)).map some ++ rest) =
      (fieldOutlines ((name, json) :: more), some rest) := by
  simp only [List.length_append, List.length_cons] at hf
  rw [List.map_append, List.append_assoc, List.map_cons, List.map_append, List.cons_append,
    List.append_assoc]
  match more with
  | [] => exact scanFields_last (h.value json hl.1 (by omega) _ (ended_cons (by decide)))
  | (next, other) :: more =>
    have hvalue := h.value json hl.1 (by omega)
      (some ',' :: ((stringChars next ++ ':' :: (other.chars ++ moreFields more)).map some ++
        rest)) (ended_cons (by decide))
    have hmore := h.fields next other more hl.2 (by simp [moreFields] at hf ⊢; omega) rest
    rw [moreFields, List.map_cons, List.cons_append, scanFields_more hvalue, hmore]
    rfl

/-- Every amount of fuel is enough for the texts that fit it. -/
theorem scans (fuel : Nat) : Scans fuel := by
  induction fuel with
  | zero =>
    refine ⟨fun json hl hf => ?_, fun _ _ _ hf => ?_, fun _ _ _ _ hf => ?_⟩
    · obtain ⟨c, after, hc, -⟩ := exists_chars_eq_cons hl
      rw [hc, List.length_cons] at hf
      omega
    · omega
    · omega
  | succ fuel ih => exact ⟨ih.value_succ, ih.items_succ, ih.fields_succ⟩

end Outline

/-- The text of a tree is scanned to the outline of the tree, up to its end. -/
theorem scan_chars {json : Json} (h : json.Legible) :
    scan (symbolsOfText json.text) = (json.outline, true) := by
  have hsymbols : symbolsOfText json.text = json.chars.map some ++ [] := by
    simp [symbolsOfText, text]
  unfold scan
  rw [hsymbols, (scans _).value json h (by simp) [] ended_nil]
  rfl

/-- **A decoder reads from the text of a tree what it reads from the tree's outline.** -/
theorem decode_text {β : Type} (decoder : Decoder β) {json : Json} (h : json.Legible) :
    decode decoder (symbolsOfText json.text) = decoder json.outline := by
  unfold decode
  rw [scan_chars h]
  simp only
  cases decoder json.outline <;> rfl

end Json
end PropertyBinding
