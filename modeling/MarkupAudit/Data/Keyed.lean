/-!
# Tables with keys

A table holds a value for each of its keys and remembers the order in which the keys were first
set.

Main statements: setting a key makes its value the one that is found (`lookup_set_self`), and leaves
every other key as it was (`lookup_set_of_ne`); the keys of a table stay distinct
(`Keyed.distinct`); a table made of entries has each key at its first place (`keys_ofList`) with its
last value (`get?_ofList`).
-/

namespace MarkupAudit

/-! ## Entries -/

namespace Entries

variable {κ α : Type} [DecidableEq κ]

/-- The entries with one set: in its place if the key exists, else at the end. -/
def set (key : κ) (v : α) : List (κ × α) → List (κ × α)
  | [] => [(key, v)]
  | entry :: rest => if entry.1 = key then (key, v) :: rest else entry :: set key v rest

/-- The entries with one set, unless its key exists already. -/
def setDefault (key : κ) (v : α) (entries : List (κ × α)) : List (κ × α) :=
  if (entries.lookup key).isSome then entries else set key v entries

/-- The entries set one after another. A repeated key keeps its first place and takes its last
value. -/
def merged (entries : List (κ × α)) : List (κ × α) :=
  entries.foldl (fun kept entry => set entry.1 entry.2 kept) []

theorem mem_of_lookup {key : κ} {v : α} {entries : List (κ × α)}
    (h : entries.lookup key = some v) : (key, v) ∈ entries := by
  rcases List.lookup_eq_some_iff.1 h with ⟨before, behind, hsplit, -⟩
  simp [hsplit]

theorem lookup_cons_fst (entry : κ × α) (rest : List (κ × α)) :
    (entry :: rest).lookup entry.1 = some entry.2 :=
  List.lookup_cons_self

theorem lookup_cons_of_ne {key : κ} {entry : κ × α} (hne : key ≠ entry.1)
    (rest : List (κ × α)) : (entry :: rest).lookup key = rest.lookup key := by
  rcases entry with ⟨first, v⟩
  have hfalse : (key == first) = false := by simpa using hne
  simp [List.lookup_cons, hfalse]

theorem lookup_eq_none_of_not_mem {key : κ} {entries : List (κ × α)}
    (h : key ∉ entries.map Prod.fst) : entries.lookup key = none := by
  cases hfound : entries.lookup key with
  | none => rfl
  | some v => exact absurd (List.mem_map_of_mem (mem_of_lookup hfound)) h

theorem lookup_set_self (key : κ) (v : α) (entries : List (κ × α)) :
    (set key v entries).lookup key = some v := by
  induction entries with
  | nil => simp [set]
  | cons entry rest ih =>
    by_cases hkey : entry.1 = key
    · simp [set, hkey]
    · simpa [set, hkey, lookup_cons_of_ne (Ne.symm hkey)] using ih

theorem lookup_set_of_ne {key other : κ} (hne : other ≠ key) (v : α) (entries : List (κ × α)) :
    (set key v entries).lookup other = entries.lookup other := by
  induction entries with
  | nil => exact lookup_cons_of_ne hne []
  | cons entry rest ih =>
    by_cases hkey : entry.1 = key
    · -- The entry that is replaced is not the one that is looked up.
      have hentry : other ≠ entry.1 := by simpa [hkey] using hne
      have hset : set key v (entry :: rest) = (key, v) :: rest := by simp [set, hkey]
      rw [hset, lookup_cons_of_ne hne, lookup_cons_of_ne hentry]
    · have hset : set key v (entry :: rest) = entry :: set key v rest := by simp [set, hkey]
      rw [hset]
      by_cases hentry : other = entry.1
      · subst hentry
        rw [lookup_cons_fst, lookup_cons_fst]
      · rw [lookup_cons_of_ne hentry, lookup_cons_of_ne hentry, ih]

theorem setDefault_of_lookup {key : κ} {v found : α} {entries : List (κ × α)}
    (h : entries.lookup key = some found) : setDefault key v entries = entries := by
  simp [setDefault, h]

theorem setDefault_of_absent {key : κ} {v : α} {entries : List (κ × α)}
    (h : entries.lookup key = none) : setDefault key v entries = set key v entries := by
  simp [setDefault, h]

/-- Setting a key to the value that it has changes nothing. -/
theorem set_of_lookup {key : κ} {v : α} {entries : List (κ × α)}
    (h : entries.lookup key = some v) : set key v entries = entries := by
  induction entries with
  | nil => cases h
  | cons entry rest ih =>
    by_cases hkey : entry.1 = key
    · have hvalue : entry.2 = v := by
        rw [← hkey, lookup_cons_fst] at h
        exact Option.some.inj h
      simp [set, ← hkey, ← hvalue]
    · rw [lookup_cons_of_ne (Ne.symm hkey)] at h
      simp [set, hkey, ih h]

/-- Of two values that a key is set to, the first one leaves nothing behind. -/
theorem set_set (key : κ) (first second : α) (entries : List (κ × α)) :
    set key second (set key first entries) = set key second entries := by
  induction entries with
  | nil => simp [set]
  | cons entry rest ih =>
    by_cases hkey : entry.1 = key
    · simp [set, hkey]
    · simp [set, hkey, ih]

theorem map_fst_set (key : κ) (v : α) (entries : List (κ × α)) :
    (set key v entries).map Prod.fst =
      if key ∈ entries.map Prod.fst then entries.map Prod.fst
      else entries.map Prod.fst ++ [key] := by
  induction entries with
  | nil => simp [set]
  | cons entry rest ih =>
    by_cases hkey : entry.1 = key
    · simp [set, hkey]
    · have hne : ¬ key = entry.1 := fun heq => hkey heq.symm
      simp only [set, hkey, if_false, List.map_cons, ih, List.mem_cons, hne, false_or]
      split <;> rfl

theorem nodup_set (key : κ) (v : α) {entries : List (κ × α)}
    (hnodup : (entries.map Prod.fst).Nodup) : ((set key v entries).map Prod.fst).Nodup := by
  rw [map_fst_set]
  split
  · exact hnodup
  · next habsent =>
    -- A key is put at the end only when it is absent, so it repeats none before it.
    refine List.nodup_append.2 ⟨hnodup, by simp, ?_⟩
    intro a ha b hb heq
    have hb' : b = key := by simpa using hb
    exact habsent (hb' ▸ heq ▸ ha)

/-- An absent key is put at the end. -/
theorem set_of_not_mem {key : κ} (v : α) {entries : List (κ × α)}
    (habsent : key ∉ entries.map Prod.fst) : set key v entries = entries ++ [(key, v)] := by
  induction entries with
  | nil => rfl
  | cons entry rest ih =>
    have hcases : key ≠ entry.1 ∧ key ∉ rest.map Prod.fst := by
      simpa only [List.map_cons, List.mem_cons, not_or] using habsent
    simp [set, Ne.symm hcases.1, ih hcases.2]

/-- Changing the values of entries has nothing to do with setting one. -/
theorem set_map {β : Type} (f : α → β) (key : κ) (v : α) (entries : List (κ × α)) :
    set key (f v) (entries.map fun entry => (entry.1, f entry.2)) =
      (set key v entries).map fun entry => (entry.1, f entry.2) := by
  induction entries with
  | nil => rfl
  | cons entry rest ih =>
    by_cases hkey : entry.1 = key
    · simp [set, hkey]
    · simp [set, hkey, ih]

theorem lookup_of_mem {entries : List (κ × α)} (hnodup : (entries.map Prod.fst).Nodup)
    {entry : κ × α} (hentry : entry ∈ entries) : entries.lookup entry.1 = some entry.2 := by
  induction entries with
  | nil => cases hentry
  | cons first rest ih =>
    have hcons := List.nodup_cons.1 hnodup
    rcases List.mem_cons.1 hentry with rfl | hrest
    · exact lookup_cons_fst entry rest
    · have hne : entry.1 ≠ first.1 := by
        intro heq
        exact hcons.1 (heq ▸ List.mem_map_of_mem hrest)
      exact (lookup_cons_of_ne hne rest).trans (ih hcons.2 hrest)

end Entries

/-! ## Tables -/

/-- Values by key in the order in which the keys were first set. -/
structure Keyed (κ α : Type) where
  entries : List (κ × α)
  distinct : (entries.map Prod.fst).Nodup
  deriving DecidableEq

namespace Keyed

variable {κ α : Type}

def empty : Keyed κ α := ⟨[], List.nodup_nil⟩

instance : Inhabited (Keyed κ α) := ⟨empty⟩

/-- The keys in order. -/
def keys (table : Keyed κ α) : List κ :=
  table.entries.map Prod.fst

def values (table : Keyed κ α) : List α :=
  table.entries.map Prod.snd

def map {β : Type} (f : α → β) (table : Keyed κ α) : Keyed κ β where
  entries := table.entries.map fun entry => (entry.1, f entry.2)
  distinct := by
    rw [List.map_map]
    exact table.distinct

theorem ext {a b : Keyed κ α} (h : a.entries = b.entries) : a = b := by
  cases a; cases b; cases h; rfl

variable [DecidableEq κ]

/-- The table with one entry set: in its place if the key exists, else at the end. -/
def set (table : Keyed κ α) (key : κ) (v : α) : Keyed κ α where
  entries := Entries.set key v table.entries
  distinct := Entries.nodup_set key v table.distinct

/-- The entries set one after another. A repeated key keeps its first place and takes its last
value. -/
def ofList (entries : List (κ × α)) : Keyed κ α :=
  entries.foldl (fun table entry => table.set entry.1 entry.2) empty

def get? (table : Keyed κ α) (key : κ) : Option α :=
  table.entries.lookup key

def contains (table : Keyed κ α) (key : κ) : Bool :=
  (table.get? key).isSome

theorem contains_iff {table : Keyed κ α} {key : κ} :
    table.contains key = true ↔ key ∈ table.keys := by
  rw [contains, get?, keys, List.mem_map]
  constructor
  · intro hsome
    rcases Option.isSome_iff_exists.1 hsome with ⟨v, hv⟩
    exact ⟨(key, v), Entries.mem_of_lookup hv, rfl⟩
  · rintro ⟨entry, hentry, rfl⟩
    rw [Entries.lookup_of_mem table.distinct hentry]
    rfl

theorem get?_set_self (table : Keyed κ α) (key : κ) (v : α) :
    (table.set key v).get? key = some v :=
  Entries.lookup_set_self key v table.entries

theorem get?_set_of_ne (table : Keyed κ α) {key other : κ} (hne : other ≠ key) (v : α) :
    (table.set key v).get? other = table.get? other :=
  Entries.lookup_set_of_ne hne v table.entries

/-- An absent key is put at the end. -/
theorem entries_set_of_absent {table : Keyed κ α} {key : κ} (v : α)
    (h : ¬ table.contains key = true) : (table.set key v).entries = table.entries ++ [(key, v)] :=
  Entries.set_of_not_mem v fun hmem => h (contains_iff.2 hmem)

theorem contains_set_self (table : Keyed κ α) (key : κ) (v : α) :
    (table.set key v).contains key = true := by
  rw [contains, get?_set_self]
  rfl

theorem contains_set_of_contains {table : Keyed κ α} {key other : κ} {v : α}
    (h : table.contains other = true) : (table.set key v).contains other = true := by
  by_cases hother : other = key
  · rw [hother, contains_set_self]
  · rw [contains, get?_set_of_ne _ hother]
    exact h

theorem foldl_set (table : Keyed κ α) {entries : List (κ × α)}
    (hnodup : ((table.entries ++ entries).map Prod.fst).Nodup) :
    (entries.foldl (fun table entry => table.set entry.1 entry.2) table).entries =
      table.entries ++ entries := by
  induction entries generalizing table with
  | nil => simp
  | cons entry rest ih =>
    have habsent : entry.1 ∉ table.entries.map Prod.fst := by
      intro hmem
      rw [List.map_append, List.nodup_append] at hnodup
      exact hnodup.2.2 _ hmem _ (by simp) rfl
    have hset : (table.set entry.1 entry.2).entries = table.entries ++ [entry] :=
      Entries.set_of_not_mem entry.2 habsent
    have hrest := ih (table.set entry.1 entry.2) (by simpa [hset] using hnodup)
    simpa [hset] using hrest

/-- A table is made of its own entries. -/
theorem ofList_entries (table : Keyed κ α) : ofList table.entries = table :=
  ext (foldl_set empty table.distinct)

theorem foldl_set_map {β : Type} (f : α → β) (entries : List (κ × α)) (table : Keyed κ α) :
    ((entries.map fun entry => (entry.1, f entry.2)).foldl
        (fun table entry => table.set entry.1 entry.2) (table.map f)) =
      (entries.foldl (fun table entry => table.set entry.1 entry.2) table).map f := by
  induction entries generalizing table with
  | nil => rfl
  | cons entry rest ih =>
    have hset : (table.map f).set entry.1 (f entry.2) = (table.set entry.1 entry.2).map f :=
      ext (Entries.set_map f entry.1 entry.2 table.entries)
    rw [List.map_cons, List.foldl_cons, List.foldl_cons, hset, ih]

/-- A table made of changed entries is the table made of the entries, with its values changed. -/
theorem ofList_map {β : Type} (f : α → β) (entries : List (κ × α)) :
    ofList (entries.map fun entry => (entry.1, f entry.2)) = (ofList entries).map f :=
  foldl_set_map f entries empty

/-- Items that are set one after another, each to a value that may depend on what is there, put the
new ones of their keys behind those of the table, each at its first place. -/
theorem keys_foldl_set {ι : Type} (key : ι → κ) (v : Keyed κ α → ι → α) (items : List ι)
    (table : Keyed κ α) :
    (items.foldl (fun table item => table.set (key item) (v table item)) table).keys =
      table.keys ++ ((items.map key).removeAll table.keys).eraseDups := by
  induction items generalizing table with
  | nil => simp [List.removeAll]
  | cons item rest ih =>
    have hset : (table.set (key item) (v table item)).keys =
        if key item ∈ table.keys then table.keys else table.keys ++ [key item] :=
      Entries.map_fst_set (key item) (v table item) table.entries
    rw [List.foldl_cons, ih, hset, List.map_cons, List.cons_removeAll]
    by_cases hknown : key item ∈ table.keys
    · simp [hknown]
    · -- The new key is the first of those that are left, and the later ones are told from it too.
      have hlater : (rest.map key).removeAll (table.keys ++ [key item]) =
          ((rest.map key).removeAll table.keys).filter fun other => !other == key item := by
        rw [List.removeAll, List.removeAll, List.filter_filter]
        refine List.filter_congr ?_
        intro other _
        by_cases hother : other = key item <;> simp [hother]
      simp [hknown, hlater, List.eraseDups_cons]

/-- The keys of a table made of entries are those of the entries, each at its first place. -/
theorem keys_ofList (entries : List (κ × α)) :
    (ofList entries).keys = (entries.map Prod.fst).eraseDups := by
  have hkeys := keys_foldl_set Prod.fst (fun _ entry => entry.2) entries empty
  simpa [empty, keys, ofList] using hkeys

theorem get?_foldl_set (entries : List (κ × α)) (table : Keyed κ α) (key : κ) :
    (entries.foldl (fun table entry => table.set entry.1 entry.2) table).get? key =
      (entries.reverse.lookup key).or (table.get? key) := by
  induction entries generalizing table with
  | nil => simp
  | cons entry rest ih =>
    have hset : (table.set entry.1 entry.2).get? key =
        ([entry].lookup key).or (table.get? key) := by
      by_cases hkey : key = entry.1
      · subst hkey
        simp [get?_set_self, Entries.lookup_cons_fst]
      · simp [get?_set_of_ne _ hkey, Entries.lookup_cons_of_ne hkey]
    simp only [List.foldl_cons, ih, hset, List.reverse_cons, List.lookup_append, Option.or_assoc]

/-- A key of a table made of entries has the last of its values. -/
theorem get?_ofList (entries : List (κ × α)) (key : κ) :
    (ofList entries).get? key = entries.reverse.lookup key := by
  have hget := get?_foldl_set entries empty key
  simpa [empty, get?, ofList] using hget

/-- The entries of a table are read off its keys and their values. -/
theorem entries_eq_map_keys (table : Keyed κ α) (other : α) :
    table.entries = table.keys.map fun key => (key, (table.get? key).getD other) := by
  have heach : ∀ entry ∈ table.entries, (entry.1, (table.get? entry.1).getD other) = entry := by
    intro entry hentry
    simp [get?, Entries.lookup_of_mem table.distinct hentry]
  calc
    table.entries = table.entries.map id := (List.map_id _).symm
    _ = table.entries.map fun entry => (entry.1, (table.get? entry.1).getD other) :=
        List.map_congr_left fun entry hentry => (heach entry hentry).symm
    _ = table.keys.map fun key => (key, (table.get? key).getD other) := by
        simp [keys, Function.comp_def]

end Keyed

end MarkupAudit
