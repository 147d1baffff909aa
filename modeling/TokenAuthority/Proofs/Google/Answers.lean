import TokenAuthority.Google
import TokenAuthority.Proofs.Json.Acceptance
import TokenAuthority.Proofs.Json.Members

/-!
# Userinfo answers as they are read

`Describes` says which profile the members of an answer give, apart from any reader. An answer is read as a profile
exactly if it is written as one object whose members give this profile.
-/

namespace TokenAuthority.Google

open Json Text

/-- Whether a member is kept as a field. -/
def isField (key : String) : Bool := key ≠ "sub" ∧ key ≠ "email"

/-- The members of an answer give a profile: a string `sub` that occurs once, a string or null `email` that occurs at
most once, and all other members as fields, the last one of each key. -/
structure Describes (entries : List Entry) (p : Profile) : Prop where
  provider : p.provider = id
  subject : ∃ e, (entries.filter (·.key = "sub")) = [e] ∧ SpellsString e.text p.subject
  email : (entries.filter (·.key = "email") = [] ∧ p.email = none) ∨
    ∃ e, entries.filter (·.key = "email") = [e] ∧ SpellsOptional e.text p.email
  ordered : Ordered p.fields
  fields : ∀ key,
    p.fields.lookup key = if isField key then (entries.map Entry.member).reverse.lookup key else none

/-! ### Reading member by member -/

variable {cs rest text inside : List Char} {body : List UInt8} {d d' : Draft} {e : Entry} {entries : List Entry}
  {p : Profile}

/-- What a member does to what was read before it. -/
inductive Extends (e : Entry) (d : Draft) : Draft → Prop where
  | sub {s : String} (key : e.key = "sub") (first : d.sub = none) (string : SpellsString e.text s) :
    Extends e d { d with sub := some s }
  | email {email : Option String} (key : e.key = "email") (first : d.email = none)
      (string : SpellsOptional e.text email) : Extends e d { d with email := some email }
  | field (key : isField e.key) : Extends e d { d with rest := insertMember e.key e.value d.rest }

/-- A member of an answer is read if it is a value that does something. -/
def Step (d : Draft) (e : Entry) (d' : Draft) : Prop :=
  SpellsValue true Profile.innerDepth e.text e.value ∧ Extends e d d'

theorem readOnce_eq_ok {α : Type} {seen : Option α} {value : List Char → Except Fault (α × List Char)} {a : α}
    (reads : Profile.readOnce seen value cs = .ok (a, rest)) :
    seen = none ∧ ∃ left, readColon cs = .ok left ∧ value left = .ok (a, rest) := by
  unfold Profile.readOnce at reads
  split at reads
  · cases reads
  · rename_i absent
    exact ⟨by simpa using absent, Except.bind_eq_ok_iff.1 reads⟩

theorem readOnce_none {α : Type} {value : List Char → Except Fault (α × List Char)} {back left : List Char} {a : α}
    (blank : Blank back) (reads : value cs = .ok (a, left)) :
    Profile.readOnce none value (back ++ ':' :: cs) = .ok (a, left) :=
  Except.bind_eq_ok_iff.2 ⟨_, readColon_append blank cs, reads⟩

theorem readMember_stepsOnly : StepsOnly Step readMember where
  steps {d key cs d' rest} reads := by
    unfold readMember at reads
    split at reads
    · rename_i sub
      obtain ⟨⟨s, left⟩, once, same⟩ := Except.bind_eq_ok_iff.1 reads
      cases same
      obtain ⟨first, more, colon, string⟩ := readOnce_eq_ok once
      obtain ⟨front, before, rfl⟩ := colon_of_readColon colon
      obtain ⟨text, rfl, spells⟩ := spells_of_readString string
      refine ⟨front, text, .text s, before, rfl, fun after => ?_⟩
      have padded := spells.padded .nil after
      exact ⟨.text padded, .sub sub first padded⟩
    · split at reads
      · rename_i email
        obtain ⟨⟨s, left⟩, once, same⟩ := Except.bind_eq_ok_iff.1 reads
        cases same
        obtain ⟨first, more, colon, string⟩ := readOnce_eq_ok once
        obtain ⟨front, before, rfl⟩ := colon_of_readColon colon
        obtain ⟨text, rfl, spells⟩ := spells_of_readString? string
        refine ⟨front, text, (s.map Json.text).getD .null, before, rfl, fun after => ?_⟩
        have padded := spells.padded .nil after
        exact ⟨padded.spellsValue, .email email first padded⟩
      · rename_i sub email
        obtain ⟨more, colon, reads⟩ := Except.bind_eq_ok_iff.1 reads
        obtain ⟨⟨v, left⟩, value, same⟩ := Except.bind_eq_ok_iff.1 reads
        cases same
        obtain ⟨front, before, rfl⟩ := colon_of_readColon colon
        obtain ⟨text, rfl, spells⟩ := spells_of_readValue _ _ value
        refine ⟨front, text, v, before, rfl, fun after => ⟨.padded .nil after spells, .field ?_⟩⟩
        simp [isField, sub, email]

theorem readMember_stepsAll : StepsAll Step readMember where
  reads {d e d' back rest} step blank stops := by
    obtain ⟨value, takes⟩ := step
    cases takes with
    | sub key first string =>
      obtain ⟨left, reads, same⟩ := readString_of_spells string rest
      rw [readMember, if_pos key, first]
      exact ⟨left, Except.bind_eq_ok_iff.2 ⟨_, readOnce_none blank reads, rfl⟩, same⟩
    | email key first string =>
      obtain ⟨left, reads, same⟩ := readString?_of_spells string rest
      rw [readMember, if_neg (by rw [key]; decide), if_pos key, first]
      exact ⟨left, Except.bind_eq_ok_iff.2 ⟨_, readOnce_none blank reads, rfl⟩, same⟩
    | field key =>
      obtain ⟨sub, email⟩ : e.key ≠ "sub" ∧ e.key ≠ "email" := by simpa [isField] using key
      have enough : e.text.length ≤ (back ++ ':' :: (e.text ++ rest)).length := by
        simp only [List.length_append, List.length_cons]
        omega
      obtain ⟨left, reads, same⟩ := readValue_of_spells value enough stops
      rw [readMember, if_neg sub, if_neg email]
      exact ⟨left, Except.bind_eq_ok_iff.2 ⟨_, readColon_append blank _, Except.bind_eq_ok_iff.2 ⟨_, reads, rfl⟩⟩, same⟩

/-! ### Reading all members -/

/-- A member that may occur once was read, or was not and is not there. -/
inductive Once {α : Type} (spells : List Char → α → Prop) : Option α → List Entry → Option α → Prop where
  | kept {seen : Option α} : Once spells seen [] seen
  | read {e : Entry} {a : α} (own : spells e.text a) : Once spells none [e] (some a)

section

variable {α : Type} {spells : List Char → α → Prop} {seen after : Option α} {a : α}

theorem once_nil_iff : Once spells seen [] after ↔ after = seen := by
  constructor
  · intro once
    cases once
    rfl
  · rintro rfl
    exact .kept

theorem once_some_iff : Once spells (some a) entries after ↔ entries = [] ∧ after = some a := by
  constructor
  · intro once
    cases once
    exact ⟨rfl, rfl⟩
  · rintro ⟨rfl, rfl⟩
    exact .kept

theorem once_cons_iff :
    Once spells seen (e :: entries) after ↔ seen = none ∧ entries = [] ∧ ∃ a, spells e.text a ∧ after = some a := by
  constructor
  · intro once
    cases once with
    | read own => exact ⟨rfl, rfl, _, own, rfl⟩
  · rintro ⟨rfl, rfl, a, own, rfl⟩
    exact .read own

end

/-- The members of an answer that are kept as fields, in their order. -/
def fieldsOf (entries : List Entry) : Members := (entries.map Entry.member).filter fun m => isField m.1

theorem fieldsOf_cons_of_field (key : isField e.key) : fieldsOf (e :: entries) = e.member :: fieldsOf entries :=
  List.filter_cons_of_pos key

theorem fieldsOf_cons_of_not (key : ¬isField e.key) : fieldsOf (e :: entries) = fieldsOf entries :=
  List.filter_cons_of_neg key

theorem isField_iff {key : String} : isField key = true ↔ key ≠ "sub" ∧ key ≠ "email" := by simp [isField]

theorem filter_cons_same {key : String} (same : e.key = key) :
    (e :: entries).filter (·.key = key) = e :: entries.filter (·.key = key) :=
  List.filter_cons_of_pos (decide_eq_true same)

theorem filter_cons_ne {key : String} (ne : e.key ≠ key) :
    (e :: entries).filter (·.key = key) = entries.filter (·.key = key) :=
  List.filter_cons_of_neg (by simpa using ne)

/-- What the members of an answer do, with no regard to the order of different ones. -/
structure Course (d : Draft) (entries : List Entry) (d' : Draft) : Prop where
  values : ∀ e ∈ entries, SpellsValue true Profile.innerDepth e.text e.value
  sub : Once SpellsString d.sub (entries.filter (·.key = "sub")) d'.sub
  email : Once SpellsOptional d.email (entries.filter (·.key = "email")) d'.email
  rest : d'.rest = insertAll d.rest (fieldsOf entries)

theorem course_nil_iff : Course d [] d' ↔ d' = d := by
  obtain ⟨sub, email, rest⟩ := d
  obtain ⟨sub', email', rest'⟩ := d'
  constructor
  · rintro ⟨-, sub, email, rest⟩
    cases once_nil_iff.1 sub
    cases once_nil_iff.1 email
    cases rest
    rfl
  · rintro ⟨⟩
    exact ⟨List.forall_mem_nil _, .kept, .kept, rfl⟩

theorem Course.cons (value : SpellsValue true Profile.innerDepth e.text e.value) {mid : Draft} (takes : Extends e d mid)
    (others : Course mid entries d') : Course d (e :: entries) d' := by
  obtain ⟨values, sub, email, rest⟩ := others
  have values : ∀ other ∈ e :: entries, SpellsValue true Profile.innerDepth other.text other.value :=
    List.forall_mem_cons.2 ⟨value, values⟩
  cases takes with
  | sub key first string =>
    obtain ⟨none, kept⟩ := once_some_iff.1 sub
    have other : e.key ≠ "email" := by rw [key]; decide
    refine ⟨values, ?_, ?_, ?_⟩
    · rw [filter_cons_same key, none, first, kept]
      exact .read string
    · rwa [filter_cons_ne other]
    · rwa [fieldsOf_cons_of_not (by simp [isField_iff, key])]
  | email key first string =>
    obtain ⟨none, kept⟩ := once_some_iff.1 email
    have other : e.key ≠ "sub" := by rw [key]; decide
    refine ⟨values, ?_, ?_, ?_⟩
    · rwa [filter_cons_ne other]
    · rw [filter_cons_same key, none, first, kept]
      exact .read string
    · rwa [fieldsOf_cons_of_not (by simp [isField_iff, key])]
  | field key =>
    obtain ⟨notSub, notEmail⟩ := isField_iff.1 key
    refine ⟨values, ?_, ?_, ?_⟩
    · rwa [filter_cons_ne notSub]
    · rwa [filter_cons_ne notEmail]
    · rwa [fieldsOf_cons_of_field key]

theorem Course.exists_step (course : Course d (e :: entries) d') : ∃ mid, Step d e mid ∧ Course mid entries d' := by
  obtain ⟨values, sub, email, rest⟩ := course
  obtain ⟨value, values⟩ := List.forall_mem_cons.1 values
  by_cases key : e.key = "sub"
  · have other : e.key ≠ "email" := by rw [key]; decide
    rw [filter_cons_same key, once_cons_iff] at sub
    rw [filter_cons_ne other] at email
    rw [fieldsOf_cons_of_not (by simp [isField_iff, key])] at rest
    obtain ⟨first, none, s, string, kept⟩ := sub
    exact ⟨_, ⟨value, .sub key first string⟩, values, once_some_iff.2 ⟨none, kept⟩, email, rest⟩
  · rw [filter_cons_ne key] at sub
    by_cases other : e.key = "email"
    · rw [filter_cons_same other, once_cons_iff] at email
      rw [fieldsOf_cons_of_not (by simp [isField_iff, other])] at rest
      obtain ⟨first, none, address, string, kept⟩ := email
      exact ⟨_, ⟨value, .email other first string⟩, values, sub, once_some_iff.2 ⟨none, kept⟩, rest⟩
    · have field := isField_iff.2 ⟨key, other⟩
      rw [filter_cons_ne other] at email
      rw [fieldsOf_cons_of_field field] at rest
      exact ⟨_, ⟨value, .field field⟩, values, sub, email, rest⟩

/-- All members of an answer are read one after the other. -/
theorem runs_step_iff : Runs Step d entries d' ↔ Course d entries d' := by
  constructor
  · intro runs
    induction runs with
    | nil => exact course_nil_iff.2 rfl
    | cons first others ih => exact .cons first.1 first.2 ih
  · intro course
    induction entries generalizing d with
    | nil =>
      cases course_nil_iff.1 course
      exact .nil
    | cons e entries ih =>
      obtain ⟨mid, first, others⟩ := course.exists_step
      exact .cons first (ih others)

/-! ### Profiles -/

theorem lookup_fieldsOf (entries : List Entry) (key : String) : (sorted (fieldsOf entries)).lookup key =
    if isField key then (entries.map Entry.member).reverse.lookup key else none := by
  rw [lookup_sorted, fieldsOf, ← List.filter_reverse, lookup_filter]

theorem once_none_some_iff {α : Type} {spells : List Char → α → Prop} {a : α} :
    Once spells none entries (some a) ↔ ∃ e, entries = [e] ∧ spells e.text a := by
  constructor
  · intro once
    cases once with
    | read own => exact ⟨_, rfl, own⟩
  · rintro ⟨e, rfl, own⟩
    exact .read own

theorem profile?_eq_some_iff : d.profile? = some p ↔
    p.provider = id ∧ d.sub = some p.subject ∧ p.email = d.email.join ∧ p.fields = d.rest := by
  obtain ⟨provider, subject, email, fields⟩ := p
  rw [Draft.profile?, Option.bind_eq_bind, Option.bind_eq_some_iff]
  constructor
  · rintro ⟨s, sub, same⟩
    cases same
    exact ⟨rfl, sub, rfl, rfl⟩
  · rintro ⟨rfl, sub, rfl, rfl⟩
    exact ⟨subject, sub, rfl⟩

/-- Members that are read one after the other give the profile that they describe. -/
theorem exists_course_iff : (∃ d, Course ⟨none, none, []⟩ entries d ∧ d.profile? = some p) ↔
    (∀ e ∈ entries, SpellsValue true Profile.innerDepth e.text e.value) ∧ Describes entries p := by
  constructor
  · rintro ⟨d, ⟨values, sub, email, rest⟩, profile⟩
    obtain ⟨provider, subject, address, fields⟩ := profile?_eq_some_iff.1 profile
    have sorted : p.fields = sorted (fieldsOf entries) := fields.trans rest
    rw [subject] at sub
    refine ⟨values, provider, once_none_some_iff.1 sub, ?_, ?_, fun key => ?_⟩
    · rw [address]
      generalize d.email = found at email
      generalize entries.filter (·.key = "email") = named at email
      cases email with
      | kept => exact .inl ⟨rfl, rfl⟩
      | read own => exact .inr ⟨_, rfl, own⟩
    · rw [sorted]
      exact ordered_sorted _
    · rw [sorted, lookup_fieldsOf]
  · rintro ⟨values, provider, subject, email, ordered, fields⟩
    have sorted : sorted (fieldsOf entries) = p.fields :=
      (ordered_sorted _).eq_of_lookup_eq ordered fun key => by rw [fields, lookup_fieldsOf]
    rcases email with ⟨missing, absent⟩ | ⟨e, one, string⟩
    · refine ⟨⟨some p.subject, none, p.fields⟩, ⟨values, once_none_some_iff.2 subject, ?_, sorted.symm⟩,
        profile?_eq_some_iff.2 ⟨provider, rfl, absent, rfl⟩⟩
      rw [missing]
      exact .kept
    · refine ⟨⟨some p.subject, some p.email, p.fields⟩, ⟨values, once_none_some_iff.2 subject, ?_, sorted.symm⟩,
        profile?_eq_some_iff.2 ⟨provider, rfl, rfl, rfl⟩⟩
      rw [one]
      exact .read string

theorem toOption_eq_some_iff {ε α : Type} {result : Except ε α} {a : α} :
    result.toOption = some a ↔ result = .ok a := by
  cases result with
  | error fault => exact ⟨nofun, nofun⟩
  | ok found => exact ⟨fun same => congrArg Except.ok (Option.some.inj same), fun same => congrArg Except.toOption same⟩

/-- An answer gives a profile if it is written as one object whose members describe the profile. -/
theorem readProfile?_eq_some_iff : readProfile? body = some p ↔ ∃ text entries,
    body = Utf8.encode text ∧ SpellsObject true Profile.innerDepth text entries ∧ Describes entries p := by
  rw [readProfile?, Option.bind_eq_bind, Option.bind_eq_some_iff]
  constructor
  · rintro ⟨text, characters, reads⟩
    obtain ⟨front, before, split⟩ := exists_skipBlanks text
    split at reads
    · rename_i tail brace
      obtain ⟨d, whole, profile⟩ := Option.bind_eq_some_iff.1 reads
      obtain ⟨back, members, after⟩ := finish_eq_ok_iff.1 (toOption_eq_some_iff.1 whole)
      obtain ⟨inside, entries, joined, rfl, keys, runs⟩ := joined_of_readMembers readMember_stepsOnly members
      obtain ⟨values, describes⟩ := exists_course_iff.1 ⟨d, runs_step_iff.1 runs, profile⟩
      refine ⟨text, entries, Utf8.strict?_eq_some_iff.1 characters, ?_, describes⟩
      rw [split, brace]
      exact .of before joined keys values after
    · cases reads
  · rintro ⟨text, entries, rfl, object, describes⟩
    refine ⟨text, Utf8.strict?_eq_some_iff.2 rfl, ?_⟩
    obtain ⟨before, joined, keys, values, after⟩ := object
    obtain ⟨d, course, profile⟩ := exists_course_iff.2 ⟨values, describes⟩
    rw [skipBlanks_append before, skipBlanks_cons (by decide)]
    refine Option.bind_eq_some_iff.2 ⟨d, toOption_eq_some_iff.2 (finish_eq_ok_iff.2 ⟨_, ?_, after⟩), profile⟩
    refine readMembers_of_joined readMember_stepsAll joined (runs_step_iff.2 course) keys ?_
    have few := joined.length_le
    simp only [List.length_append, List.length_cons]
    omega

end TokenAuthority.Google
