import Mathlib.Data.List.Induction
import TokenAuthority.Json.Basic

/-!
# Members in the order of their keys

Objects that were read hold each key once and in order. Such objects are the same if they give the same values to all
keys, and the value of a key is the last one that was given to it.
-/

namespace TokenAuthority.Json

/-- Members in the order of their keys, each key once. -/
def Ordered (members : Members) : Prop := (members.map Prod.fst).Pairwise (· < ·)

variable {members others : Members} {member : String × Json} {key other : String} {v : Json}

theorem Ordered.nil : Ordered [] := List.Pairwise.nil

theorem ordered_cons : Ordered (member :: members) ↔ (∀ m ∈ members, member.1 < m.1) ∧ Ordered members := by
  rw [Ordered, List.map_cons, List.pairwise_cons, List.forall_mem_map, Ordered]

theorem lookup_cons_self (key : String) (v : Json) (members : Members) :
    ((key, v) :: members).lookup key = some v := by
  rw [List.lookup_cons, beq_self_eq_true]

theorem lookup_cons_ne (ne : key ≠ member.1) : (member :: members).lookup key = members.lookup key := by
  rw [List.lookup_cons, beq_false_of_ne ne]

theorem lookup_insertMember_self (key : String) (v : Json) (members : Members) :
    (insertMember key v members).lookup key = some v := by
  induction members with
  | nil => exact lookup_cons_self key v []
  | cons member members ih =>
    obtain ⟨k, x⟩ := member
    rw [insertMember]
    split
    · exact lookup_cons_self key v _
    · split
      · exact lookup_cons_self key v _
      · rename_i ne
        rw [lookup_cons_ne ne, ih]

theorem lookup_insertMember_ne (ne : other ≠ key) (v : Json) (members : Members) :
    (insertMember key v members).lookup other = members.lookup other := by
  induction members with
  | nil => exact lookup_cons_ne ne
  | cons member members ih =>
    obtain ⟨k, x⟩ := member
    rw [insertMember]
    split
    · exact lookup_cons_ne ne
    · split
      · rename_i same
        subst same
        rw [lookup_cons_ne ne, lookup_cons_ne ne]
      · rw [List.lookup_cons, List.lookup_cons, ih]

theorem insertMember_nil (key : String) (v : Json) : insertMember key v [] = [(key, v)] := rfl

theorem insertMember_of_lt (before : key < other) (v w : Json) (members : Members) :
    insertMember key v ((other, w) :: members) = (key, v) :: (other, w) :: members := if_pos before

theorem insertMember_of_gt (after : other < key) (v w : Json) (members : Members) :
    insertMember key v ((other, w) :: members) = (other, w) :: insertMember key v members := by
  have different : key ≠ other := fun same => String.lt_irrefl key (by rwa [← same] at after)
  rw [insertMember, if_neg (String.lt_asymm after), if_neg different]

theorem mem_insertMember (mem : member ∈ insertMember key v members) : member = (key, v) ∨ member ∈ members := by
  induction members with
  | nil => exact .inl (List.mem_singleton.1 mem)
  | cons first members ih =>
    obtain ⟨k, x⟩ := first
    rw [insertMember] at mem
    split at mem
    · exact List.mem_cons.1 mem
    · split at mem
      · exact (List.mem_cons.1 mem).imp_right (List.mem_cons_of_mem _)
      · rcases List.mem_cons.1 mem with rfl | mem
        · exact .inr List.mem_cons_self
        · exact (ih mem).imp_right (List.mem_cons_of_mem _)

theorem Ordered.insertMember (ordered : Ordered members) (key : String) (v : Json) :
    Ordered (insertMember key v members) := by
  induction members with
  | nil => exact ordered_cons.2 ⟨List.forall_mem_nil _, .nil⟩
  | cons first members ih =>
    obtain ⟨k, x⟩ := first
    obtain ⟨least, rest⟩ := ordered_cons.1 ordered
    rw [Json.insertMember]
    split
    · rename_i before
      refine ordered_cons.2 ⟨List.forall_mem_cons.2 ⟨before, fun m mem => ?_⟩, ordered⟩
      exact String.lt_trans before (least m mem)
    · rename_i after
      split
      · rename_i same
        subst same
        exact ordered_cons.2 ⟨least, rest⟩
      · rename_i ne
        refine ordered_cons.2 ⟨fun m mem => ?_, ih rest⟩
        rcases mem_insertMember mem with rfl | mem
        · exact Std.lt_of_le_of_ne after (Ne.symm ne)
        · exact least m mem

theorem lookup_eq_none_of_lt (greater : ∀ m ∈ members, key < m.1) : members.lookup key = none := by
  rw [List.lookup_eq_none_iff]
  intro m mem
  have ne : key ≠ m.1 := fun same => String.lt_irrefl m.1 (same ▸ greater m mem)
  exact bne_iff_ne.2 ne

theorem insertMember_last {key : String} {found : Members} (last : ∀ other ∈ found, other.1 < key) :
    insertMember key j found = found ++ [(key, j)] := by
  induction found with
  | nil => rfl
  | cons other found ih =>
    rw [insertMember_of_gt (last other List.mem_cons_self) j other.2 found, ih fun other mem => last other (List.mem_cons_of_mem _ mem),
      List.cons_append]

/-- Objects are the same if they give the same values to all keys. -/
theorem Ordered.eq_of_lookup_eq (ordered : Ordered members) (ordered' : Ordered others)
    (same : ∀ key, members.lookup key = others.lookup key) : members = others := by
  induction members generalizing others with
  | nil =>
    cases others with
    | nil => rfl
    | cons first others =>
      have found := same first.1
      rw [lookup_cons_self] at found
      cases found
  | cons member members ih =>
    obtain ⟨k, x⟩ := member
    obtain ⟨least, rest⟩ := ordered_cons.1 ordered
    have found := same k
    rw [lookup_cons_self] at found
    cases others with
    | nil => cases found
    | cons first others =>
      obtain ⟨l, y⟩ := first
      obtain ⟨least', rest'⟩ := ordered_cons.1 ordered'
      have keys : k = l := by
        rcases Std.lt_trichotomy k l with before | same | after
        · have absent : ((l, y) :: others).lookup k = none := lookup_eq_none_of_lt
            (List.forall_mem_cons.2 ⟨before, fun m mem => String.lt_trans before (least' m mem)⟩)
          rw [absent] at found
          cases found
        · exact same
        · have absent : ((k, x) :: members).lookup l = none := lookup_eq_none_of_lt
            (List.forall_mem_cons.2 ⟨after, fun m mem => String.lt_trans after (least m mem)⟩)
          rw [same, lookup_cons_self] at absent
          cases absent
      subst keys
      rw [lookup_cons_self] at found
      cases found
      rw [ih rest rest' fun key => ?_]
      by_cases own : key = k
      · subst own
        rw [lookup_eq_none_of_lt least, lookup_eq_none_of_lt least']
      · have value := same key
        rwa [lookup_cons_ne own, lookup_cons_ne own] at value

/-! ### Members in any order -/

/-- Members with others added, one after the other. -/
def insertAll (members others : Members) : Members := others.foldl (fun acc m => insertMember m.1 m.2 acc) members

theorem sorted_append (members : Members) (member : String × Json) :
    sorted (members ++ [member]) = insertMember member.1 member.2 (sorted members) := by
  rw [sorted, List.foldl_append]
  rfl

theorem ordered_sorted (members : Members) : Ordered (sorted members) := by
  induction members using List.reverseRecOn with
  | nil => exact .nil
  | append_singleton members member ih =>
    rw [sorted_append]
    exact ih.insertMember member.1 member.2

theorem Ordered.sorted_eq (ordered : Ordered members) : sorted members = members := by
  induction members using List.reverseRecOn with
  | nil => rfl
  | append_singleton members member ih =>
    rw [Ordered, List.map_append, List.pairwise_append] at ordered
    have last : ∀ m ∈ members, m.1 < member.1 :=
      fun m mem => ordered.2.2 m.1 (List.mem_map_of_mem mem) member.1 List.mem_cons_self
    rw [sorted_append, ih ordered.1, insertMember_last last]

/-- Of the values of a key the last one counts. -/
theorem lookup_sorted (members : Members) (key : String) :
    (sorted members).lookup key = members.reverse.lookup key := by
  induction members using List.reverseRecOn with
  | nil => rfl
  | append_singleton members member ih =>
    rw [sorted_append, List.reverse_append, List.reverse_singleton, List.singleton_append]
    by_cases own : key = member.1
    · subst own
      rw [lookup_insertMember_self]
      exact (lookup_cons_self member.1 member.2 _).symm
    · rw [lookup_insertMember_ne own, lookup_cons_ne own, ih]

theorem lookup_filter (p : String → Bool) (members : Members) (key : String) :
    (members.filter fun m => p m.1).lookup key = if p key then members.lookup key else none := by
  induction members with
  | nil => rw [List.filter_nil, List.lookup_nil, ite_self]
  | cons member members ih =>
    obtain ⟨k, x⟩ := member
    rw [List.filter_cons]
    by_cases own : key = k
    · subst own
      split
      · rw [lookup_cons_self, lookup_cons_self]
      · rename_i dropped
        rw [ih, if_neg dropped]
    · rw [lookup_cons_ne own, ← ih]
      split
      · exact lookup_cons_ne own
      · rfl

/-- A key has one value at most, which a filter keeps or drops. -/
theorem Ordered.lookup_filter (ordered : Ordered members) (p : String × Json → Bool) (key : String) :
    (members.filter p).lookup key = (members.lookup key).filter fun v => p (key, v) := by
  induction members with
  | nil => rfl
  | cons member members ih =>
    obtain ⟨k, x⟩ := member
    obtain ⟨least, rest⟩ := ordered_cons.1 ordered
    rw [List.filter_cons]
    by_cases own : key = k
    · subst own
      rw [lookup_cons_self, Option.filter_some]
      split
      · exact lookup_cons_self key x _
      · exact lookup_eq_none_of_lt fun m mem => least m (List.mem_filter.1 mem).1
    · rw [lookup_cons_ne own, ← ih rest]
      split
      · exact lookup_cons_ne own
      · rfl

theorem Ordered.filter (ordered : Ordered members) (p : String × Json → Bool) : Ordered (members.filter p) :=
  List.Pairwise.sublist (List.filter_sublist.map Prod.fst) ordered

end TokenAuthority.Json
