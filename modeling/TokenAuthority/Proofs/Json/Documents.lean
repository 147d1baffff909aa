import TokenAuthority.Proofs.Json.Scalars

/-!
# Documents that are read back

`Recoverable` says which values their compact text gives back: those that are not nested too deep, hold no
floating-point number that reading would change, and no object whose first key makes readers take it for an embedded
text.
-/

namespace TokenAuthority.Json

/-- A value of at most `depth` levels that its text gives back. -/
inductive Recoverable : Nat → Json → Prop where
  | null {depth : Nat} : Recoverable depth .null
  | bool {depth : Nat} (b : Bool) : Recoverable depth (.bool b)
  | number {depth : Nat} {n : Number} (exact : n.Exact) : Recoverable depth (.number n)
  | text {depth : Nat} (s : String) : Recoverable depth (.text s)
  | array {depth : Nat} {items : List Json} (all : ∀ item ∈ items, Recoverable depth item) :
    Recoverable (depth + 1) (.array items)
  | object {depth : Nat} {members : Members} (ordered : (members.map Prod.fst).Pairwise (· < ·))
      (plain : ∀ key ∈ (members.map Prod.fst).head?, key ≠ embeddingKey)
      (all : ∀ member ∈ members, Recoverable depth member.2) : Recoverable (depth + 1) (.object members)

variable {depth : Nat} {j : Json}

theorem writeItems_cons (item : Json) (items : List Json) :
    writeItems (item :: items) = write item ++ items.flatMap fun item => ',' :: write item := by
  induction items generalizing item with
  | nil => simp [writeItems]
  | cons next items ih => rw [writeItems, ih, List.flatMap_cons, List.cons_append]

/-- The text of a member. -/
def writeMember (member : String × Json) : List Char := quoted member.1 ++ ':' :: write member.2

theorem writeMembers_cons (member : String × Json) (members : Members) :
    writeMembers (member :: members) =
      writeMember member ++ members.flatMap fun member => ',' :: writeMember member := by
  induction members generalizing member with
  | nil => simp [writeMembers, writeMember]
  | cons next members ih =>
    rw [writeMembers, ih, List.flatMap_cons]
    simp [writeMember]

theorem joined_writeItems (items : List Json) :
    Joined Prod.fst (writeItems items) (items.map fun item => (write item, item)) := by
  cases items with
  | nil => exact .none .nil
  | cons item items =>
    have joined := Joined.cons Prod.fst (write item, item) (items.map fun item => (write item, item))
    rwa [List.flatMap_map, ← writeItems_cons] at joined

/-- A member as its text is written. -/
def entryOf (member : String × Json) : Entry := ⟨quoted member.1, member.1, write member.2, member.2⟩

theorem joined_writeMembers (members : Members) :
    Joined Entry.written (writeMembers members) (members.map entryOf) := by
  cases members with
  | nil => exact .none .nil
  | cons member members =>
    have joined := Joined.cons Entry.written (entryOf member) (members.map entryOf)
    rw [List.flatMap_map] at joined
    rw [writeMembers_cons]
    exact joined

/-- The text of an object spells the object that has the members in order. -/
theorem spells_object {members : Members} (plain : ∀ key ∈ (members.map Prod.fst).head?, key ≠ embeddingKey)
    (all : ∀ member ∈ members, SpellsValue true depth (write member.2) member.2) :
    SpellsValue true (depth + 1) (write (.object members)) (.object (sorted members)) := by
  have keys : ∀ e ∈ members.map entryOf, SpellsString e.name e.key :=
    List.forall_mem_map.2 fun member _ => spellsString_quoted member.1
  have first : ∀ e ∈ (members.map entryOf).head?, e.key ≠ embeddingKey := by
    cases members with
    | nil => nofun
    | cons member members =>
      rintro _ ⟨⟩
      exact plain member.1 rfl
  have spells := SpellsValue.object (joined_writeMembers members) keys (fun _ => first) (List.forall_mem_map.2 all)
  have same : (members.map entryOf).map Entry.member = members := by
    rw [List.map_map]
    exact List.map_id members
  rw [write]
  rwa [same] at spells

/-- A value that its text gives back is spelled by its text. -/
theorem Recoverable.spells (recoverable : Recoverable depth j) : SpellsValue true depth (write j) j := by
  induction recoverable with
  | null => exact .null
  | bool b =>
    cases b with
    | true => exact .yes
    | false => exact .no
  | number exact => exact exact.spells
  | text s => exact .text (spellsString_quoted s)
  | @array depth items all ih =>
    have spells := SpellsValue.array (joined_writeItems items) (List.forall_mem_map.2 ih)
    have values : (items.map fun item => (write item, item)).map Prod.snd = items := by
      rw [List.map_map]
      exact List.map_id items
    rw [write]
    rwa [values] at spells
  | @object depth members ordered plain all ih =>
    have spells := spells_object plain ih
    rwa [Ordered.sorted_eq ordered] at spells

theorem read_render_of_spells {v : Json} (spells : SpellsValue true depthLimit (write j) v) :
    Json.read (render j).toList = .ok v := by
  obtain ⟨back, reads, ends⟩ := readValue_of_spells spells (Nat.le_refl _) Stops.nil
  rw [List.append_nil] at reads
  rw [render, String.toList_ofList, Json.read]
  exact finish_eq_ok_iff.2 ⟨back, reads, skipBlanks_eq_nil_iff.1 ends⟩

/-- A value that its text gives back is read from it. -/
theorem Recoverable.read_render (recoverable : Recoverable depthLimit j) : Json.read (render j).toList = .ok j :=
  read_render_of_spells recoverable.spells

/-- An object whose members are in any order is read with its members in order. -/
theorem read_render_object {members : Members} (plain : ∀ key ∈ (members.map Prod.fst).head?, key ≠ embeddingKey)
    (all : ∀ member ∈ members, Recoverable (depthLimit - 1) member.2) :
    Json.read (render (.object members)).toList = .ok (.object (sorted members)) :=
  read_render_of_spells (spells_object plain fun member mem => (all member mem).spells)

end TokenAuthority.Json
