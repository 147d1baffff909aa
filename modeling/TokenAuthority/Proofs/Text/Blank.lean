import TokenAuthority.Text.Blank

/-!
# Texts without the blanks around them

Cutting the blanks off a text leaves the one part of it that has blanks at neither end and nothing but blanks around it.
-/

namespace TokenAuthority.Text

/-- A text with blanks at neither end. -/
structure Bare (text : List Char) : Prop where
  first : ∀ c ∈ text.head?, isBlank c = false
  last : ∀ c ∈ text.getLast?, isBlank c = false

/-- A bare text with blanks around it. -/
inductive Surrounds (text core : List Char) : Prop where
  | of {front back : List Char} (split : text = front ++ core ++ back) (before : ∀ c ∈ front, isBlank c = true)
      (after : ∀ c ∈ back, isBlank c = true) (bare : Bare core)

variable {text core front back : List Char}

theorem dropWhile_isBlank (before : ∀ c ∈ front, isBlank c = true) (first : ∀ c ∈ core.head?, isBlank c = false) :
    (front ++ core).dropWhile isBlank = core := by
  rw [List.dropWhile_append_of_pos before]
  cases core with
  | nil => rfl
  | cons c cs => simp [first c rfl]

theorem first_dropWhile_isBlank (text : List Char) : ∀ c ∈ (text.dropWhile isBlank).head?, isBlank c = false := by
  intro c mem
  have stop := List.head?_dropWhile_not isBlank text
  rw [Option.mem_def.1 mem] at stop
  exact stop

theorem surrounds_trimmed (text : List Char) : Surrounds text (trimmed text) := by
  let rest := text.dropWhile isBlank
  have front : text = text.takeWhile isBlank ++ rest := List.takeWhile_append_dropWhile.symm
  have back : rest = trimmed text ++ (rest.reverse.takeWhile isBlank).reverse := by
    apply List.reverse_inj.1
    rw [List.reverse_append, List.reverse_reverse, trimmed, List.reverse_reverse]
    exact List.takeWhile_append_dropWhile.symm
  have split : text = text.takeWhile isBlank ++ trimmed text ++ (rest.reverse.takeWhile isBlank).reverse := by
    rw [List.append_assoc, ← back]
    exact front
  refine .of split ?_ ?_ ⟨?_, ?_⟩
  · intro c mem
    exact List.all_eq_true.1 List.all_takeWhile c mem
  · intro c mem
    exact List.all_eq_true.1 List.all_takeWhile c (List.mem_reverse.1 mem)
  · -- What is left starts as the text did after its blanks in front.
    intro c mem
    apply first_dropWhile_isBlank text c
    show c ∈ rest.head?
    rw [back, List.head?_append, Option.mem_def.1 mem]
    rfl
  · intro c mem
    apply first_dropWhile_isBlank rest.reverse c
    rw [trimmed, List.getLast?_reverse] at mem
    exact mem

/-- Trimming finds the bare text that has blanks around it. -/
theorem trimmed_eq_iff : trimmed text = core ↔ Surrounds text core := by
  constructor
  · rintro rfl
    exact surrounds_trimmed text
  · rintro ⟨rfl, before, after, bare⟩
    rename_i front back
    have last : ∀ c ∈ core.reverse.head?, isBlank c = false := by
      intro c mem
      exact bare.last c (by rwa [List.head?_reverse] at mem)
    have reversed : ∀ c ∈ back.reverse, isBlank c = true := fun c mem => after c (List.mem_reverse.1 mem)
    cases core with
    | nil =>
      have blank : ∀ c ∈ front ++ [] ++ back, isBlank c = true := by
        simpa [or_imp, forall_and] using ⟨before, after⟩
      have gone : (front ++ [] ++ back).dropWhile isBlank = [] := by
        simpa using @dropWhile_isBlank [] _ blank nofun
      rw [trimmed, gone]
      rfl
    | cons c cs =>
      rw [trimmed, List.append_assoc, @dropWhile_isBlank (c :: cs ++ back) _ before bare.first, List.reverse_append,
        dropWhile_isBlank reversed last, List.reverse_reverse]

end TokenAuthority.Text
