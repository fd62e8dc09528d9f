/-!
# Keyed lists

Lists of keys and values in the order in which the keys first came. Look-up is `List.lookup`.
-/

namespace QueryAssist.Keyed

variable {β : Type}

/-- A key that is present keeps its place and takes the new value; a new key goes to the end. -/
def put (key : String) (value : β) : List (String × β) → List (String × β)
  | [] => [(key, value)]
  | (k, v) :: rest => if k = key then (k, value) :: rest else (k, v) :: put key value rest

def erase (key : String) (entries : List (String × β)) : List (String × β) :=
  entries.filter (·.1 ≠ key)

def has (key : String) (entries : List (String × β)) : Bool :=
  (entries.lookup key).isSome

variable {key k : String} {value : β}

theorem lookup_cons (k : String) (v : β) (rest : List (String × β)) :
    ((k, v) :: rest).lookup key = if k = key then some v else rest.lookup key := by
  by_cases h : k = key
  · rw [if_pos h, h, List.lookup_cons_self]
  · rw [if_neg h, List.lookup_cons, beq_eq_false_iff_ne.2 (Ne.symm h)]

theorem mem_of_lookup_eq_some {entries : List (String × β)} (h : entries.lookup key = some value) :
    (key, value) ∈ entries := by
  obtain ⟨before, after, rfl, _⟩ := List.lookup_eq_some_iff.1 h
  exact List.mem_append_right _ List.mem_cons_self

theorem lookup_put (entries : List (String × β)) :
    (put key value entries).lookup k = if key = k then some value else entries.lookup k := by
  induction entries with
  | nil => rw [put, lookup_cons]
  | cons entry rest ih =>
      obtain ⟨first, v⟩ := entry
      rw [put]
      by_cases hfirst : first = key
      · rw [if_pos hfirst, lookup_cons, lookup_cons, hfirst]
        split <;> rfl
      · rw [if_neg hfirst, lookup_cons, lookup_cons, ih]
        by_cases hk : first = k
        · rw [if_pos hk, if_pos hk, if_neg fun h => hfirst (hk.trans h.symm)]
        · rw [if_neg hk, if_neg hk]

theorem lookup_erase (entries : List (String × β)) :
    (erase key entries).lookup k = if key = k then none else entries.lookup k := by
  induction entries with
  | nil => simp [erase]
  | cons entry rest ih =>
      obtain ⟨first, v⟩ := entry
      rw [erase] at ih ⊢
      rw [List.filter_cons, lookup_cons]
      by_cases hfirst : first = key
      · rw [if_neg (by simp [hfirst]), ih, hfirst]
        split <;> rfl
      · rw [if_pos (by simp [hfirst]), lookup_cons, ih]
        by_cases hk : first = k
        · rw [if_pos hk, if_pos hk, if_neg fun h => hfirst (hk.trans h.symm)]
        · rw [if_neg hk, if_neg hk]

theorem mem_keys_put (entries : List (String × β)) :
    k ∈ (put key value entries).map Prod.fst ↔ k = key ∨ k ∈ entries.map Prod.fst := by
  induction entries with
  | nil => simp [put]
  | cons entry rest ih =>
      obtain ⟨first, v⟩ := entry
      rw [put]
      by_cases hfirst : first = key
      · simp [hfirst]
      · rw [if_neg hfirst, List.map_cons, List.map_cons, List.mem_cons, List.mem_cons, ih]
        exact or_left_comm

theorem nodup_keys_put {entries : List (String × β)} (h : (entries.map Prod.fst).Nodup) :
    ((put key value entries).map Prod.fst).Nodup := by
  induction entries with
  | nil => simp [put]
  | cons entry rest ih =>
      obtain ⟨first, v⟩ := entry
      rw [List.map_cons, List.nodup_cons] at h
      rw [put]
      by_cases hfirst : first = key
      · rw [if_pos hfirst, List.map_cons, List.nodup_cons]
        exact h
      · rw [if_neg hfirst, List.map_cons, List.nodup_cons, mem_keys_put]
        exact ⟨fun hmem => hmem.elim hfirst h.1, ih h.2⟩

theorem mem_iff_lookup_eq_some {entries : List (String × β)} (h : (entries.map Prod.fst).Nodup) :
    (key, value) ∈ entries ↔ entries.lookup key = some value := by
  refine ⟨fun hmem => ?_, mem_of_lookup_eq_some⟩
  induction entries with
  | nil => cases hmem
  | cons entry rest ih =>
      obtain ⟨first, v⟩ := entry
      rw [List.map_cons, List.nodup_cons] at h
      rw [lookup_cons]
      rcases List.mem_cons.1 hmem with heq | hrest
      · cases heq
        rw [if_pos rfl]
      · rw [if_neg fun hfirst => h.1 (List.mem_map.2 ⟨(key, value), hrest, hfirst.symm⟩)]
        exact ih h.2 hrest

end QueryAssist.Keyed
