import TokenAuthority.Http.Form

/-!
# Fields of a form

A form gives a field by its name if the name occurs once. `repeated?` finds the first field that repeats one of
the names that matter, and if there is none, a look-up finds the only value that a name has.
-/

namespace TokenAuthority.Http.Form

variable {names seen : List String} {fields : List (String × String)} {name value : String}

/-- Each of the names occurs once at most. -/
def Once (names : List String) (fields : List (String × String)) : Prop :=
  ∀ name ∈ names, (fields.map Prod.fst).count name ≤ 1

/-- A name does not occur. -/
def Lacks (fields : List (String × String)) (name : String) : Prop := ∀ value, (name, value) ∉ fields

/-- A name is the first one of those given that occurs for the second time. -/
def Repeats (names : List String) (fields : List (String × String)) (name : String) : Prop :=
  ∃ before value after, fields = before ++ (name, value) :: after ∧ name ∈ names ∧
    name ∈ before.map Prod.fst ∧ Once names before

theorem go_eq_none_iff : repeated?.go names seen fields = none ↔
    ∀ name ∈ names, (fields.map Prod.fst).count name ≤ if name ∈ seen then 0 else 1 := by
  induction fields generalizing seen with
  | nil => simp [repeated?.go]
  | cons field rest ih =>
    obtain ⟨name, value⟩ := field
    rw [repeated?.go]
    split
    · rename_i known
      replace known : name ∈ names := by simpa using known
      split
      · rename_i again
        replace again : name ∈ seen := by simpa using again
        constructor
        · exact fun absurd => nomatch absurd
        · intro few
          have none := few name known
          rw [if_pos again, List.map_cons, List.count_cons_self] at none
          omega
      · rename_i new
        replace new : name ∉ seen := by simpa using new
        rw [ih]
        refine forall₂_congr fun other _ => ?_
        rw [List.map_cons]
        by_cases same : other = name
        · subst same
          rw [List.count_cons_self, if_pos List.mem_cons_self, if_neg new]
          omega
        · rw [List.count_cons_of_ne (Ne.symm same)]
          simp only [List.mem_cons, same, false_or]
    · rename_i unknown
      replace unknown : name ∉ names := by simpa using unknown
      rw [ih]
      refine forall₂_congr fun other known => ?_
      have different : name ≠ other := by
        rintro rfl
        exact unknown known
      rw [List.map_cons, List.count_cons_of_ne different]

theorem go_eq_some_iff : repeated?.go names seen fields = some name ↔
    ∃ before value after, fields = before ++ (name, value) :: after ∧ name ∈ names ∧
      (name ∈ seen ∨ name ∈ before.map Prod.fst) ∧ repeated?.go names seen before = none := by
  induction fields generalizing seen with
  | nil => simp [repeated?.go]
  | cons field rest ih =>
    obtain ⟨first, own⟩ := field
    constructor
    · intro found
      rw [repeated?.go] at found
      split at found
      · rename_i known
        split at found
        · rename_i again
          obtain rfl := Option.some.inj found
          exact ⟨[], own, rest, rfl, by simpa using known, .inl (by simpa using again), rfl⟩
        · rename_i new
          obtain ⟨before, value, after, rfl, mem, earlier, none⟩ := ih.1 found
          refine ⟨(first, own) :: before, value, after, rfl, mem, ?_, ?_⟩
          · rcases earlier with old | here
            · rcases List.mem_cons.1 old with rfl | old
              · exact .inr List.mem_cons_self
              · exact .inl old
            · exact .inr (List.mem_cons_of_mem _ here)
          · rw [repeated?.go, if_pos known, if_neg new]
            exact none
      · rename_i unknown
        obtain ⟨before, value, after, rfl, mem, earlier, none⟩ := ih.1 found
        refine ⟨(first, own) :: before, value, after, rfl, mem, ?_, ?_⟩
        · exact earlier.imp_right (List.mem_cons_of_mem _)
        · rw [repeated?.go, if_neg unknown]
          exact none
    · rintro ⟨before, value, after, split_, mem, earlier, none⟩
      cases before with
      | nil =>
        obtain ⟨same, rfl⟩ := List.cons.inj split_
        obtain ⟨rfl, rfl⟩ := Prod.mk.inj same
        have old : first ∈ seen := earlier.resolve_right (by simp)
        simp [repeated?.go, mem, old]
      | cons field before =>
        obtain ⟨rfl, rfl⟩ := List.cons.inj split_
        rw [repeated?.go] at none ⊢
        split at none
        · rename_i known
          split at none
          · cases none
          · rename_i new
            rw [if_pos known, if_neg new]
            refine ih.2 ⟨before, value, after, rfl, mem, ?_, none⟩
            rw [List.map_cons, List.mem_cons] at earlier
            rcases earlier with old | same | here
            · exact .inl (List.mem_cons_of_mem _ old)
            · exact .inl (List.mem_cons.2 (.inl same))
            · exact .inr here
        · rename_i unknown
          rw [if_neg unknown]
          refine ih.2 ⟨before, value, after, rfl, mem, ?_, none⟩
          have different : name ≠ first := by
            rintro rfl
            exact unknown (by simpa using mem)
          rw [List.map_cons, List.mem_cons] at earlier
          exact earlier.imp_right fun here => here.resolve_left different

theorem repeated?_eq_none_iff : repeated? names fields = none ↔ Once names fields := by
  rw [repeated?, go_eq_none_iff]
  simp only [List.not_mem_nil, if_false, Once]

theorem repeated?_eq_some_iff : repeated? names fields = some name ↔ Repeats names fields name := by
  rw [repeated?, go_eq_some_iff]
  simp only [List.not_mem_nil, false_or, Repeats, ← repeated?_eq_none_iff, repeated?]

variable (names fields) in
theorem once_or_repeats : Once names fields ∨ ∃ name, Repeats names fields name := by
  cases found : repeated? names fields with
  | none => exact .inl (repeated?_eq_none_iff.1 found)
  | some name => exact .inr ⟨name, repeated?_eq_some_iff.1 found⟩

theorem value?_eq_none_iff : value? fields name = none ↔ Lacks fields name := by
  rw [value?, List.lookup_eq_none_iff]
  constructor
  · intro other value mem
    simpa using other (name, value) mem
  · rintro lacks ⟨other, value⟩ mem
    refine bne_iff_ne.2 ?_
    rintro rfl
    exact lacks value mem

theorem mem_of_value? (found : value? fields name = some value) : (name, value) ∈ fields := by
  obtain ⟨before, after, rfl, -⟩ := List.lookup_eq_some_iff.1 found
  exact List.mem_append_right _ List.mem_cons_self

/-- A name that occurs once has the value that it occurs with. -/
theorem value?_eq_some_iff (once : Once names fields) (known : name ∈ names) :
    value? fields name = some value ↔ (name, value) ∈ fields := by
  refine ⟨mem_of_value?, fun mem => ?_⟩
  obtain ⟨before, after, rfl⟩ := List.append_of_mem mem
  refine List.lookup_eq_some_iff.2 ⟨before, after, rfl, ?_⟩
  rintro ⟨other, earlier⟩ front
  refine bne_iff_ne.2 ?_
  rintro rfl
  have few := once name known
  have here : 0 < (before.map Prod.fst).count name :=
    List.count_pos_iff.2 (List.mem_map_of_mem (f := Prod.fst) front)
  rw [List.map_append, List.map_cons, List.count_append, List.count_cons_self] at few
  omega

end TokenAuthority.Http.Form
