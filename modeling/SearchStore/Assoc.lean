/-!
# Insertion-ordered maps

A map is the list of its entries in the order in which their keys first arrived. Overwriting a key
keeps its position, a new key goes last (`insert`, `alter`), and `swapRemove` moves the last entry
into the gap it leaves. Maps that are kept in key order use `insertSorted`.

`keys_alter` and `get?_alter` say what one write does to the two views of a map, its keys in order
and the value at each key; `get?_insert` and `nodup_keys_insert` follow. `get?_eq_none_iff` ties the
two views together, and with unique keys they determine the map (`eq_of_keys_eq`). Removing a key leaves
all other entries (`swapRemove_perm`). Keys of maps in key order ascend (`ascending_sorted`), such maps stay
as they are when they are sorted again (`sorted_of_ascending`), and sorting keeps the last value at each key
(`get?_sorted`).
-/

namespace SearchStore.Assoc

variable {α β : Type}

/-- The value at the first entry for `key`. -/
def get? (key : String) : List (String × α) → Option α
  | [] => none
  | (k, value) :: rest => if k = key then some value else get? key rest

/-- Whether some entry carries `key`. -/
def contains (key : String) (entries : List (String × α)) : Bool :=
  (get? key entries).isSome

/-- The keys in order. -/
def keys (entries : List (String × α)) : List String :=
  entries.map (·.1)

/-- Replaces the value at `key` by `change` of it, or appends the entry `(key, fresh)`. -/
def alter (key : String) (fresh : α) (change : α → α) : List (String × α) → List (String × α)
  | [] => [(key, fresh)]
  | (k, value) :: rest =>
    if k = key then (k, change value) :: rest else (k, value) :: alter key fresh change rest

/-- Sets `key` to `value`: in place when the key is present, at the end otherwise. -/
def insert (key : String) (value : α) (entries : List (String × α)) : List (String × α) :=
  alter key value (fun _ => value) entries

/-- The map with the given entries written one after the other. -/
def ofList (entries : List (String × α)) : List (String × α) :=
  entries.foldl (fun map entry => insert entry.1 entry.2 map) []

/-- Writes every entry of `source` over `entries`, in order. -/
def insertAll (entries source : List (String × α)) : List (String × α) :=
  source.foldl (fun map entry => insert entry.1 entry.2 map) entries

/-- Replaces the first entry for `key` by `filler`. -/
def replaceEntry (key : String) (filler : String × α) : List (String × α) → List (String × α)
  | [] => []
  | (k, value) :: rest =>
    if k = key then filler :: rest else (k, value) :: replaceEntry key filler rest

/-- Removes `key`; the last entry takes the place of the removed one. -/
def swapRemove (key : String) (entries : List (String × α)) : List (String × α) :=
  match entries.getLast? with
  | none => []
  | some last =>
    if last.1 = key then entries.dropLast
    else if contains key entries then replaceEntry key last entries.dropLast
    else entries

/-- Sets `key` in a map kept in ascending key order. -/
def insertSorted (key : String) (value : α) : List (String × α) → List (String × α)
  | [] => [(key, value)]
  | (k, old) :: rest =>
    if k = key then (key, value) :: rest
    else if key < k then (key, value) :: (k, old) :: rest
    else (k, old) :: insertSorted key value rest

/-- The entries in ascending key order, the last of equal keys winning. -/
def sorted (entries : List (String × α)) : List (String × α) :=
  entries.foldl (fun map entry => insertSorted entry.1 entry.2 map) []

/-- The map with `f` applied to every value. -/
def mapValues (f : α → β) (entries : List (String × α)) : List (String × β) :=
  entries.map fun entry => (entry.1, f entry.2)

/-! ### What a write does -/

theorem keys_alter (key : String) (fresh : α) (change : α → α) (entries : List (String × α)) :
    keys (alter key fresh change entries) =
      if key ∈ keys entries then keys entries else keys entries ++ [key] := by
  induction entries with
  | nil => simp [alter, keys]
  | cons entry rest ih =>
    obtain ⟨k, value⟩ := entry
    by_cases h : k = key
    · simp [alter, keys, h]
    · have h' : key ≠ k := Ne.symm h
      simp only [keys] at ih ⊢
      simp only [alter, h, if_false, List.map_cons, ih, List.mem_cons, h', false_or]
      by_cases hm : key ∈ rest.map (·.1) <;> simp [hm]

theorem get?_alter (key other : String) (fresh : α) (change : α → α)
    (entries : List (String × α)) :
    get? other (alter key fresh change entries) =
      if other = key then some (((get? key entries).map change).getD fresh)
      else get? other entries := by
  induction entries with
  | nil => by_cases h : other = key <;> simp [alter, get?, h, Ne.symm]
  | cons entry rest ih =>
    obtain ⟨k, value⟩ := entry
    by_cases hk : k = key
    · subst hk
      by_cases ho : other = k
      · simp [alter, get?, ho]
      · simp [alter, get?, ho, Ne.symm ho]
    · by_cases ho : k = other
      · subst ho
        simp [alter, get?, hk]
      · simp [alter, hk, get?, ho, ih]

theorem get?_insert (key other : String) (value : α) (entries : List (String × α)) :
    get? other (insert key value entries) =
      if other = key then some value else get? other entries := by
  rw [insert, get?_alter]
  cases get? key entries <;> simp

theorem get?_eq_none_iff {key : String} {entries : List (String × α)} :
    get? key entries = none ↔ key ∉ keys entries := by
  induction entries with
  | nil => simp [get?, keys]
  | cons entry rest ih =>
    obtain ⟨k, value⟩ := entry
    by_cases h : k = key
    · simp [get?, keys, h]
    · have h' : key ≠ k := Ne.symm h
      simpa [get?, keys, h, h'] using ih

theorem get?_insertAll (key : String) {source : List (String × α)} (h : (keys source).Nodup)
    (entries : List (String × α)) :
    get? key (insertAll entries source) = (get? key source).or (get? key entries) := by
  induction source generalizing entries with
  | nil => rfl
  | cons entry rest ih =>
    obtain ⟨k, value⟩ := entry
    obtain ⟨hk, hrest⟩ := List.nodup_cons.mp h
    have hstep : insertAll entries ((k, value) :: rest) = insertAll (insert k value entries) rest := rfl
    rw [hstep, ih hrest, get?_insert, get?]
    by_cases hkey : k = key
    · subst hkey
      rw [get?_eq_none_iff.mpr hk]
      simp
    · simp [hkey, Ne.symm hkey]

theorem nodup_keys_insert (key : String) (value : α) {entries : List (String × α)}
    (h : (keys entries).Nodup) : (keys (insert key value entries)).Nodup := by
  rw [insert, keys_alter]
  split
  · exact h
  · rename_i hkey
    rw [List.nodup_append]
    refine ⟨h, by simp, ?_⟩
    intro other hother last hlast
    rw [List.mem_singleton.mp hlast]
    rintro rfl
    exact hkey hother

theorem contains_iff {key : String} {entries : List (String × α)} :
    contains key entries = true ↔ key ∈ keys entries := by
  rw [contains, Option.isSome_iff_ne_none, ne_eq, get?_eq_none_iff, Decidable.not_not]

theorem mem_keys_of_get? {key : String} {value : α} {entries : List (String × α)}
    (h : get? key entries = some value) : key ∈ keys entries := by
  refine Decidable.byContradiction fun habsent => ?_
  rw [get?_eq_none_iff.mpr habsent] at h
  cases h

theorem get?_of_mem {entries : List (String × α)} (hunique : (keys entries).Nodup) {entry : String × α}
    (h : entry ∈ entries) : get? entry.1 entries = some entry.2 := by
  induction entries with
  | nil => cases h
  | cons first rest ih =>
    obtain ⟨k, value⟩ := first
    obtain ⟨hk, hrest⟩ := List.nodup_cons.mp hunique
    rcases List.mem_cons.mp h with rfl | hlater
    · rw [get?, if_pos rfl]
    · have hkey : entry.1 ∈ keys rest := List.mem_map_of_mem hlater
      have hne : k ≠ entry.1 := by
        rintro rfl
        exact hk hkey
      rw [get?, if_neg hne, ih hrest hlater]

/-- A map with unique keys is given by its keys in order and by the value at each key. -/
theorem eq_of_keys_eq {entries others : List (String × α)} (hkeys : keys entries = keys others)
    (hunique : (keys entries).Nodup) (hvalues : ∀ key, get? key entries = get? key others) : entries = others := by
  induction entries generalizing others with
  | nil =>
    cases others with
    | nil => rfl
    | cons entry rest => cases hkeys
  | cons entry rest ih =>
    obtain ⟨key, value⟩ := entry
    cases others with
    | nil => cases hkeys
    | cons other later =>
      obtain ⟨k, v⟩ := other
      obtain ⟨rfl, hrest⟩ := List.cons.inj hkeys
      obtain ⟨hkey, hlater⟩ := List.nodup_cons.mp hunique
      obtain rfl : value = v := by simpa [get?] using hvalues key
      rw [ih hrest hlater]
      intro other
      by_cases h : other = key
      · subst h
        have hother : other ∉ keys later := by rwa [keys, ← hrest]
        rw [get?_eq_none_iff.mpr hkey, get?_eq_none_iff.mpr hother]
      · simpa [get?, Ne.symm h] using hvalues other

theorem get?_append (key : String) (front rest : List (String × α)) :
    get? key (front ++ rest) = (get? key front).or (get? key rest) := by
  induction front with
  | nil => rfl
  | cons entry front ih =>
    obtain ⟨k, value⟩ := entry
    rw [List.cons_append, get?, get?, ih]
    split <;> rfl

/-! ### What a removal leaves -/

theorem filter_of_absent {key : String} {entries : List (String × α)} (h : key ∉ keys entries) :
    entries.filter (·.1 ≠ key) = entries := by
  rw [List.filter_eq_self]
  intro entry hentry
  have hkey : entry.1 ≠ key := fun heq => h (heq ▸ List.mem_map_of_mem hentry)
  simpa using hkey

theorem replaceEntry_perm {key : String} (filler : String × α) {entries : List (String × α)}
    (hunique : (keys entries).Nodup) (h : key ∈ keys entries) :
    (replaceEntry key filler entries).Perm (filler :: entries.filter (·.1 ≠ key)) := by
  induction entries with
  | nil => cases h
  | cons entry rest ih =>
    obtain ⟨k, value⟩ := entry
    obtain ⟨hfirst, hrest⟩ := List.nodup_cons.mp hunique
    rw [replaceEntry]
    split
    · rename_i hk
      subst hk
      have hbehind : rest.filter (·.1 ≠ k) = rest := filter_of_absent hfirst
      rw [List.filter_cons_of_neg (by simp), hbehind]
    · rename_i hk
      have hlater : key ∈ keys rest := (List.mem_cons.mp h).resolve_left (Ne.symm hk)
      rw [List.filter_cons_of_pos (by simpa using hk)]
      exact ((ih hrest hlater).cons _).trans (List.Perm.swap _ _ _)

theorem swapRemove_perm (key : String) {entries : List (String × α)} (hunique : (keys entries).Nodup) :
    (swapRemove key entries).Perm (entries.filter (·.1 ≠ key)) := by
  cases hlast : entries.getLast? with
  | none =>
    obtain rfl := List.getLast?_eq_none_iff.mp hlast
    exact List.Perm.nil
  | some last =>
    obtain ⟨front, rfl⟩ := List.getLast?_eq_some_iff.mp hlast
    have hkeys : keys (front ++ [last]) = keys front ++ [last.1] := by simp [keys]
    rw [hkeys, List.nodup_append] at hunique
    obtain ⟨hfront, -, happart⟩ := hunique
    have hdrop : (front ++ [last]).dropLast = front := List.dropLast_concat
    simp only [swapRemove, hlast, hdrop, List.filter_append, contains_iff, hkeys, List.mem_append,
      List.mem_singleton]
    split
    · rename_i hkey
      have habsent : key ∉ keys front := fun hmem => happart key hmem last.1 (by simp) hkey.symm
      rw [filter_of_absent habsent, List.filter_cons_of_neg (by simpa using hkey), List.filter_nil, List.append_nil]
    · rename_i hkey
      have hkept : [last].filter (·.1 ≠ key) = [last] := by simpa using hkey
      rw [hkept]
      by_cases hmem : key ∈ keys front
      · rw [if_pos (.inl hmem)]
        exact (replaceEntry_perm last hfront hmem).trans (List.perm_append_singleton _ _).symm
      · rw [if_neg (not_or.mpr ⟨hmem, Ne.symm hkey⟩), filter_of_absent hmem]

/-! ### Key order -/

/-- The keys ascend, so they are unique. -/
def Ascending (entries : List (String × α)) : Prop := (keys entries).Pairwise (· < ·)

theorem eq_or_mem_of_mem_keys_insertSorted {key other : String} {value : α} {entries : List (String × α)}
    (h : other ∈ keys (insertSorted key value entries)) : other = key ∨ other ∈ keys entries := by
  induction entries with
  | nil => simpa [insertSorted, keys] using h
  | cons entry rest ih =>
    obtain ⟨k, old⟩ := entry
    simp only [keys] at ih h ⊢
    rw [insertSorted] at h
    split at h
    · rename_i hk
      simpa [hk] using h
    · split at h
      · simpa using h
      · rcases List.mem_cons.mp h with hfirst | hlater
        · exact .inr (List.mem_cons.mpr (.inl hfirst))
        · exact (ih hlater).imp_right (List.mem_cons_of_mem k)

theorem ascending_insertSorted (key : String) (value : α) {entries : List (String × α)} (h : Ascending entries) :
    Ascending (insertSorted key value entries) := by
  induction entries with
  | nil => exact List.pairwise_singleton _ _
  | cons entry rest ih =>
    obtain ⟨k, old⟩ := entry
    obtain ⟨hfirst, hrest⟩ := List.pairwise_cons.mp h
    rw [insertSorted]
    split
    · rename_i hk
      subst hk
      exact h
    · rename_i hne
      split
      · rename_i hlt
        refine List.pairwise_cons.mpr ⟨?_, h⟩
        intro other hother
        rcases List.mem_cons.mp hother with rfl | hlater
        · exact hlt
        · exact String.lt_trans hlt (hfirst other hlater)
      · rename_i hge
        refine List.pairwise_cons.mpr ⟨?_, ih hrest⟩
        intro other hother
        rcases eq_or_mem_of_mem_keys_insertSorted hother with rfl | hlater
        · exact Std.lt_of_le_of_ne hge hne
        · exact hfirst other hlater

theorem ascending_sorted (entries : List (String × α)) : Ascending (sorted entries) := by
  have hfold : ∀ map : List (String × α), Ascending map →
      Ascending (entries.foldl (fun map entry => insertSorted entry.1 entry.2 map) map) := by
    induction entries with
    | nil => exact fun _ hmap => hmap
    | cons entry rest ih => exact fun map hmap => ih _ (ascending_insertSorted entry.1 entry.2 hmap)
  exact hfold [] List.Pairwise.nil

theorem insertSorted_of_lt {key : String} (value : α) {entries : List (String × α)}
    (h : ∀ k ∈ keys entries, k < key) : insertSorted key value entries = entries ++ [(key, value)] := by
  induction entries with
  | nil => rfl
  | cons entry rest ih =>
    obtain ⟨k, old⟩ := entry
    obtain ⟨hk, hrest⟩ := List.forall_mem_cons.mp h
    rw [insertSorted, if_neg (String.ne_of_lt hk), if_neg (String.lt_asymm hk), ih hrest, List.cons_append]

theorem sorted_of_ascending {entries : List (String × α)} (h : Ascending entries) : sorted entries = entries := by
  have hfold : ∀ front : List (String × α), Ascending (front ++ entries) →
      entries.foldl (fun map entry => insertSorted entry.1 entry.2 map) front = front ++ entries := by
    clear h
    induction entries with
    | nil => exact fun front _ => (List.append_nil front).symm
    | cons entry rest ih =>
      intro front hfront
      have hbehind : ∀ k ∈ keys front, k < entry.1 := by
        intro k hk
        rw [Ascending, keys, List.map_append, List.pairwise_append] at hfront
        exact hfront.2.2 k hk entry.1 List.mem_cons_self
      rw [List.foldl_cons, insertSorted_of_lt entry.2 hbehind]
      rw [List.append_cons front entry rest] at hfront ⊢
      exact ih (front ++ [entry]) hfront
  exact hfold [] h

theorem get?_insertSorted (key other : String) (value : α) (entries : List (String × α)) :
    get? other (insertSorted key value entries) = if other = key then some value else get? other entries := by
  induction entries with
  | nil => by_cases h : other = key <;> simp [insertSorted, get?, h, Ne.symm]
  | cons entry rest ih =>
    obtain ⟨k, old⟩ := entry
    rw [insertSorted]
    split
    · rename_i hk
      subst hk
      by_cases h : other = k <;> simp [get?, h, Ne.symm]
    · rename_i hne
      split
      · by_cases h : other = key <;> simp [get?, h, Ne.symm]
      · by_cases h : k = other
        · subst h
          simp [get?, hne]
        · simp [get?, h, ih]

/-- Of the values that are written at a key, the last one stays. -/
theorem get?_sorted (key : String) (entries : List (String × α)) :
    get? key (sorted entries) = get? key entries.reverse := by
  have hfold : ∀ map : List (String × α),
      get? key (entries.foldl (fun map entry => insertSorted entry.1 entry.2 map) map) =
        (get? key entries.reverse).or (get? key map) := by
    induction entries with
    | nil => exact fun _ => rfl
    | cons entry rest ih =>
      intro map
      rw [List.foldl_cons, ih, List.reverse_cons, get?_append, get?_insertSorted]
      by_cases h : key = entry.1
      · cases get? key rest.reverse <;> simp [get?, h]
      · cases get? key rest.reverse <;> simp [get?, h, Ne.symm h]
  rw [sorted, hfold, get?, Option.or_none]

end SearchStore.Assoc
