/-!
Records by their keys, in the order in which the keys were first used. A table shows itself through
`get?`, with one law for each operation that changes it.
-/

namespace TokenAuthority

/-- Records by their keys, each key once. -/
structure Table (α : Type) where
  entries : List (String × α)
  distinct : (entries.map Prod.fst).Nodup

namespace Table

variable {α : Type}

def empty : Table α := ⟨[], .nil⟩

instance : Inhabited (Table α) := ⟨empty⟩

def get? (t : Table α) (key : String) : Option α := t.entries.lookup key

def contains (t : Table α) (key : String) : Bool := (t.get? key).isSome

def size (t : Table α) : Nat := t.entries.length

def values (t : Table α) : List α := t.entries.map Prod.snd

def modify (t : Table α) (key : String) (f : α → α) : Table α where
  entries := t.entries.map fun e => if e.1 = key then (e.1, f e.2) else e
  distinct := by
    have same : (Prod.fst ∘ fun e : String × α => if e.1 = key then (e.1, f e.2) else e) =
        Prod.fst := by
      funext e
      simp only [Function.comp]
      split <;> rfl
    rw [List.map_map, same]
    exact t.distinct

theorem lookup_eq_none_iff {entries : List (String × α)} {key : String} :
    entries.lookup key = none ↔ key ∉ entries.map Prod.fst := by
  simp only [List.lookup_eq_none_iff, bne_iff_ne, List.mem_map, not_exists, not_and]
  exact ⟨fun h e he hk => h e he hk.symm, fun h e he hk => h e he hk.symm⟩

def insert (t : Table α) (key : String) (value : α) : Table α :=
  if h : t.get? key = none then
    { entries := t.entries ++ [(key, value)]
      distinct := by
        rw [List.map_append, List.nodup_append]
        refine ⟨t.distinct, by simp, ?_⟩
        intro a ha b hb
        simp only [List.map_cons, List.map_nil, List.mem_singleton] at hb
        rintro rfl
        exact lookup_eq_none_iff.1 h (hb ▸ ha) }
  else t.modify key fun _ => value

/-- A table of the given records; of a repeated key the last record counts. -/
def ofList (entries : List (String × α)) : Table α :=
  entries.foldl (fun t e => t.insert e.1 e.2) empty

@[simp] theorem get?_empty (key : String) : (empty : Table α).get? key = none := rfl

theorem lookup_map_ite (entries : List (String × α)) (key other : String) (f : α → α) :
    (entries.map fun e => if e.1 = key then (e.1, f e.2) else e).lookup other =
      if other = key then (entries.lookup other).map f else entries.lookup other := by
  induction entries with
  | nil => simp
  | cons e entries ih =>
    obtain ⟨k, v⟩ := e
    by_cases ho : other = k
    · subst ho
      by_cases hk : other = key <;> simp [hk]
    · have hb : (other == k) = false := beq_false_of_ne ho
      have step (v : α) (es : List (String × α)) :
          ((k, v) :: es).lookup other = es.lookup other := by simp [List.lookup_cons, hb]
      rw [List.map_cons]
      split <;> rw [step, step, ih]

theorem get?_of_mem {t : Table α} {key : String} {value : α} (member : (key, value) ∈ t.entries) :
    t.get? key = some value := by
  obtain ⟨before, after, split⟩ := List.append_of_mem member
  refine List.lookup_eq_some_iff.2 ⟨before, after, split, fun e earlier => ?_⟩
  have distinct := t.distinct
  rw [split, List.map_append, List.nodup_append] at distinct
  have different := distinct.2.2 e.1 (List.mem_map_of_mem earlier) key (by simp)
  exact bne_iff_ne.2 different.symm

theorem get?_modify (t : Table α) (key other : String) (f : α → α) :
    (t.modify key f).get? other =
      if other = key then (t.get? other).map f else t.get? other :=
  lookup_map_ite t.entries key other f

theorem lookup_append_single (entries : List (String × α)) (key other : String) (value : α) :
    (entries ++ [(key, value)]).lookup other =
      (entries.lookup other).or (if other = key then some value else none) := by
  rw [List.lookup_append]
  by_cases h : other = key
  · simp [h]
  · simp [h, List.lookup_cons, beq_false_of_ne h]

theorem get?_insert (t : Table α) (key other : String) (value : α) :
    (t.insert key value).get? other = if other = key then some value else t.get? other := by
  unfold insert
  split
  · rename_i h
    simp only [get?, lookup_append_single] at h ⊢
    by_cases ho : other = key
    · subst ho
      simp [h]
    · simp [ho]
  · rename_i h
    rw [get?_modify]
    by_cases ho : other = key
    · subst ho
      obtain ⟨v, hv⟩ := Option.ne_none_iff_exists'.1 h
      simp [hv]
    · simp [ho]

theorem modify_of_absent {t : Table α} {key : String} {f : α → α} (absent : t.get? key = none) :
    t.modify key f = t := by
  have unchanged : (t.entries.map fun e => if e.1 = key then (e.1, f e.2) else e) = t.entries := by
    refine (List.map_congr_left fun e member => ?_).trans (List.map_id _)
    have other : e.1 ≠ key := by
      rintro rfl
      exact lookup_eq_none_iff.1 absent (List.mem_map_of_mem member)
    exact if_neg other
  obtain ⟨entries, distinct⟩ := t
  simp only [modify, unchanged]

theorem get?_modify_eq_some {t : Table α} {key other : String} {f : α → α} {value : α} :
    (t.modify key f).get? other = some value ↔
      ∃ old, t.get? other = some old ∧ value = if other = key then f old else old := by
  rw [get?_modify]
  cases t.get? other with
  | none => simp
  | some old => split <;> simp [eq_comm]

theorem get?_insert_eq_some {t : Table α} {key other : String} {value found : α}
    (unused : t.get? key = none) :
    (t.insert key value).get? other = some found ↔
      other = key ∧ found = value ∨ t.get? other = some found := by
  rw [get?_insert]
  by_cases same : other = key
  · simp [same, unused, eq_comm]
  · simp [same]

@[simp] theorem size_modify (t : Table α) (key : String) (f : α → α) :
    (t.modify key f).size = t.size := by simp [modify, size]

theorem size_insert (t : Table α) (key : String) (value : α) :
    (t.insert key value).size = if t.get? key = none then t.size + 1 else t.size := by
  unfold insert
  split
  · simp_all [size]
  · simp_all

end Table

end TokenAuthority
