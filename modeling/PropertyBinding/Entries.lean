/-! # Entries: values kept under text keys, in the order of the keys

A list of pairs in which every key stands before every greater one.  Objects of
the data format, maps of property values and every dump of a store are such
lists, so that equal contents are equal lists.  `insert` keeps the order and
replaces an older entry of the same key; its two reading laws need no order, and
`Sorted` lists with the same readings are equal.
-/
namespace PropertyBinding
namespace Entries

variable {α β : Type}

/-- The value under a key: the first entry of that key counts. -/
def get? (entries : List (String × α)) (key : String) : Option α :=
  match entries with
  | [] => none
  | (k, v) :: rest => if k = key then some v else get? rest key

/-- Put a value under a key, at the key's place in the order, instead of what the
key held before. -/
def insert (entries : List (String × α)) (key : String) (value : α) : List (String × α) :=
  match entries with
  | [] => [(key, value)]
  | (k, v) :: rest =>
    if key < k then (key, value) :: (k, v) :: rest
    else if key = k then (key, value) :: rest
    else (k, v) :: insert rest key value

/-- Entries from pairs in any order; of two pairs with one key the later counts. -/
def ofList (pairs : List (String × α)) : List (String × α) :=
  pairs.foldl (fun entries pair => insert entries pair.1 pair.2) []

/-- The keys, in order. -/
def keys (entries : List (String × α)) : List String :=
  entries.map Prod.fst

/-- Change each value, whatever its key. -/
def mapValues (f : α → β) (entries : List (String × α)) : List (String × β) :=
  entries.map fun entry => (entry.1, f entry.2)

/-- Every key stands before every greater one, and none stands twice. -/
def Sorted (entries : List (String × α)) : Prop :=
  entries.Pairwise fun a b => a.1 < b.1

@[simp] theorem get?_nil (key : String) : get? ([] : List (String × α)) key = none := rfl

theorem get?_cons (k : String) (v : α) (rest : List (String × α)) (key : String) :
    get? ((k, v) :: rest) key = if k = key then some v else get? rest key := rfl

@[simp] theorem get?_insert_self (entries : List (String × α)) (key : String) (value : α) :
    get? (insert entries key value) key = some value := by
  induction entries with
  | nil => simp [insert, get?]
  | cons entry rest ih =>
    obtain ⟨k, v⟩ := entry
    by_cases before : key < k
    · simp [insert, before, get?]
    · by_cases same : key = k
      · simp [insert, get?, same]
      · simp [insert, before, same, get?, Ne.symm same, ih]

theorem get?_insert_of_ne (entries : List (String × α)) {key other : String} (value : α)
    (differs : other ≠ key) :
    get? (insert entries key value) other = get? entries other := by
  induction entries with
  | nil => simp [insert, get?, differs.symm]
  | cons entry rest ih =>
    obtain ⟨k, v⟩ := entry
    by_cases before : key < k
    · simp [insert, before, get?, differs.symm]
    · by_cases same : key = k
      · subst same
        simp [insert, get?, differs.symm]
      · simp only [insert, before, same, if_false, get?, ih]

theorem get?_insert (entries : List (String × α)) (key other : String) (value : α) :
    get? (insert entries key value) other =
      if other = key then some value else get? entries other := by
  by_cases same : other = key
  · subst same; simp
  · simp [same, get?_insert_of_ne entries value same]

/-- The keys are those under which something is read. -/
theorem mem_keys_iff {entries : List (String × α)} {key : String} :
    key ∈ keys entries ↔ ∃ value, get? entries key = some value := by
  induction entries with
  | nil => simp [keys]
  | cons entry rest ih =>
    obtain ⟨k, v⟩ := entry
    rw [get?_cons]
    by_cases same : k = key
    · simp [keys, same]
    · rw [if_neg same, ← ih]
      simp [keys, Ne.symm same]

theorem mem_keys_insert {entries : List (String × α)} {key other : String} {value : α} :
    other ∈ keys (insert entries key value) ↔ other = key ∨ other ∈ keys entries := by
  rw [mem_keys_iff, mem_keys_iff, get?_insert]
  by_cases same : other = key <;> simp [same]

theorem mem_insert {entries : List (String × α)} {key : String} {value : α}
    {entry : String × α} (h : entry ∈ insert entries key value) :
    entry = (key, value) ∨ entry ∈ entries := by
  induction entries with
  | nil => simpa [insert] using h
  | cons head rest ih =>
    obtain ⟨k, v⟩ := head
    by_cases before : key < k
    · simpa [insert, before] using h
    · by_cases same : key = k
      · rw [insert, if_neg before, if_pos same] at h
        rcases List.mem_cons.1 h with h | h
        · exact .inl h
        · exact .inr (List.mem_cons_of_mem _ h)
      · rw [insert, if_neg before, if_neg same] at h
        rcases List.mem_cons.1 h with h | h
        · exact .inr (h ▸ List.mem_cons_self)
        · rcases ih h with h | h
          · exact .inl h
          · exact .inr (List.mem_cons_of_mem _ h)

theorem sorted_insert {entries : List (String × α)} (sorted : Sorted entries)
    (key : String) (value : α) : Sorted (insert entries key value) := by
  induction entries with
  | nil => exact List.pairwise_singleton _ _
  | cons head rest ih =>
    obtain ⟨k, v⟩ := head
    obtain ⟨first, others⟩ := List.pairwise_cons.1 sorted
    by_cases before : key < k
    · rw [insert, if_pos before]
      refine List.pairwise_cons.2 ⟨fun entry h => ?_, sorted⟩
      rcases List.mem_cons.1 h with h | h
      · exact h ▸ before
      · exact String.lt_trans before (first entry h)
    · by_cases same : key = k
      · rw [insert, if_neg before, if_pos same]
        exact List.pairwise_cons.2 ⟨fun entry h => same ▸ first entry h, others⟩
      · rw [insert, if_neg before, if_neg same]
        refine List.pairwise_cons.2 ⟨fun entry h => ?_, ih others⟩
        rcases mem_insert h with h | h
        · have after : k < key := Decidable.byContradiction fun not_after =>
            same (String.le_antisymm (String.not_lt.1 not_after) (String.not_lt.1 before))
          exact h ▸ after
        · exact first entry h

/-- No key stands twice, so that what stands in the list is what is read. -/
theorem Sorted.get?_of_mem {entries : List (String × α)} (sorted : Sorted entries)
    {entry : String × α} (h : entry ∈ entries) : get? entries entry.1 = some entry.2 := by
  induction entries with
  | nil => cases h
  | cons head rest ih =>
    obtain ⟨first, others⟩ := List.pairwise_cons.1 sorted
    rcases List.mem_cons.1 h with rfl | h
    · exact if_pos rfl
    · have differs : head.1 ≠ entry.1 := fun same =>
        String.lt_irrefl head.1 (same ▸ first entry h)
      rw [get?_cons head.1 head.2, if_neg differs, ih others h]

theorem mem_of_get?_eq_some {entries : List (String × α)} {key : String} {value : α}
    (h : get? entries key = some value) : (key, value) ∈ entries := by
  induction entries with
  | nil => cases h
  | cons head rest ih =>
    rw [get?_cons head.1 head.2] at h
    split at h
    · cases h
      subst key
      exact List.mem_cons_self
    · exact List.mem_cons_of_mem _ (ih h)

theorem Sorted.distinct {entries : List (String × α)} (sorted : Sorted entries) :
    entries.Pairwise fun a b => a.1 ≠ b.1 := by
  refine List.Pairwise.imp (fun {a b} before same => ?_) sorted
  rw [same] at before
  exact String.lt_irrefl _ before

theorem Sorted.nodup {entries : List (String × α)} (sorted : Sorted entries) : entries.Nodup :=
  sorted.distinct.imp fun differs same => differs (congrArg Prod.fst same)

/-- Sorted entries are known by what is read from them. -/
theorem Sorted.ext {entries others : List (String × α)} (sorted : Sorted entries)
    (sorted' : Sorted others) (same : ∀ key, get? entries key = get? others key) :
    entries = others := by
  have members : ∀ entry, entry ∈ entries ↔ entry ∈ others := by
    intro entry
    constructor
    · intro h
      exact mem_of_get?_eq_some ((same entry.1).symm.trans (sorted.get?_of_mem h))
    · intro h
      exact mem_of_get?_eq_some ((same entry.1).trans (sorted'.get?_of_mem h))
  have perm : entries.Perm others :=
    (List.perm_ext_iff_of_nodup sorted.nodup sorted'.nodup).2 fun {entry} => members entry
  refine perm.eq_of_pairwise (fun a b _ _ before after => ?_) sorted sorted'
  exact absurd (String.lt_trans before after) (String.lt_irrefl _)

/-- Pairs of other keys that are put into entries leave a key alone. -/
theorem get?_foldl_of_not_mem {pairs : List (String × α)} {key : String}
    (h : ∀ pair ∈ pairs, key ≠ pair.1) (held : List (String × α)) :
    get? (pairs.foldl (fun entries pair => insert entries pair.1 pair.2) held) key =
      get? held key := by
  induction pairs generalizing held with
  | nil => rfl
  | cons pair rest ih =>
    rw [List.foldl_cons, ih (fun other ho => h other (List.mem_cons_of_mem _ ho)),
      get?_insert_of_ne held pair.2 (h pair List.mem_cons_self)]

theorem mem_keys_foldl {pairs held : List (String × α)} {key : String} :
    key ∈ keys (pairs.foldl (fun entries pair => insert entries pair.1 pair.2) held) ↔
      key ∈ pairs.map Prod.fst ∨ key ∈ keys held := by
  induction pairs generalizing held with
  | nil => simp
  | cons pair rest ih =>
    rw [List.foldl_cons, ih, mem_keys_insert, List.map_cons, List.mem_cons]
    exact or_left_comm.trans or_assoc.symm

theorem get?_ofList_of_not_mem {pairs : List (String × α)} {key : String}
    (h : ∀ pair ∈ pairs, key ≠ pair.1) : get? (ofList pairs) key = none :=
  get?_foldl_of_not_mem h []

/-- A pair whose key no other one has is read back. -/
theorem get?_ofList_of_mem {pairs : List (String × α)}
    (distinct : pairs.Pairwise fun a b => a.1 ≠ b.1) {pair : String × α} (h : pair ∈ pairs) :
    get? (ofList pairs) pair.1 = some pair.2 := by
  have found : ∀ held, get? (pairs.foldl (fun entries pair => insert entries pair.1 pair.2) held)
      pair.1 = some pair.2 := by
    induction pairs with
    | nil => cases h
    | cons first rest ih =>
      intro held
      obtain ⟨apart, others⟩ := List.pairwise_cons.1 distinct
      rcases List.mem_cons.1 h with rfl | h
      · rw [List.foldl_cons, get?_foldl_of_not_mem apart, get?_insert_self]
      · exact ih others h _
  exact found []

/-- Entries stay in order, whatever is put into them. -/
theorem sorted_foldl {held : List (String × α)} (sorted : Sorted held)
    (pairs : List (String × α)) :
    Sorted (pairs.foldl (fun entries pair => insert entries pair.1 pair.2) held) := by
  induction pairs generalizing held with
  | nil => exact sorted
  | cons pair rest ih => exact ih (sorted_insert sorted pair.1 pair.2)

theorem sorted_ofList (pairs : List (String × α)) : Sorted (ofList pairs) :=
  sorted_foldl List.Pairwise.nil pairs

/-- Entries that are in order already are kept as they are. -/
theorem ofList_of_sorted {entries : List (String × α)} (sorted : Sorted entries) :
    ofList entries = entries := by
  refine (sorted_ofList entries).ext sorted fun key => ?_
  cases found : get? entries key with
  | some value => exact get?_ofList_of_mem sorted.distinct (mem_of_get?_eq_some found)
  | none =>
    refine get?_ofList_of_not_mem fun entry h same => ?_
    rw [same, sorted.get?_of_mem h] at found
    cases found

theorem get?_mapValues (f : α → β) (entries : List (String × α)) (key : String) :
    get? (mapValues f entries) key = (get? entries key).map f := by
  induction entries with
  | nil => rfl
  | cons entry rest ih =>
    obtain ⟨k, v⟩ := entry
    show get? ((k, f v) :: mapValues f rest) key = _
    rw [get?_cons, get?_cons, ih]
    split <;> rfl

/-- Values may be changed before they are put in or after. -/
theorem mapValues_insert (f : α → β) (entries : List (String × α)) (key : String) (value : α) :
    mapValues f (insert entries key value) = insert (mapValues f entries) key (f value) := by
  induction entries with
  | nil => rfl
  | cons entry rest ih =>
    obtain ⟨k, v⟩ := entry
    show _ = insert ((k, f v) :: mapValues f rest) key (f value)
    rw [insert, insert, ← ih]
    split
    · rfl
    · split <;> rfl

/-- Two changes one after the other are the change that they make of each value together. -/
theorem mapValues_mapValues {γ : Type} {f : α → β} {g : β → γ} {both : α → γ}
    {entries : List (String × α)} (h : ∀ entry ∈ entries, g (f entry.2) = both entry.2) :
    mapValues g (mapValues f entries) = mapValues both entries := by
  simp only [mapValues, List.map_map]
  exact List.map_congr_left fun entry member => Prod.ext rfl (h entry member)

/-- Values that a second change leads back are those that were there. -/
theorem mapValues_mapValues_eq_self {f : α → β} {g : β → α} {entries : List (String × α)}
    (h : ∀ entry ∈ entries, g (f entry.2) = entry.2) :
    mapValues g (mapValues f entries) = entries := by
  have same : mapValues g (mapValues f entries) = mapValues id entries := mapValues_mapValues h
  exact same.trans (List.map_id entries)

theorem Sorted.mapValues {entries : List (String × α)} (sorted : Sorted entries) (f : α → β) :
    Sorted (mapValues f entries) :=
  List.pairwise_map.2 sorted

end Entries
end PropertyBinding
