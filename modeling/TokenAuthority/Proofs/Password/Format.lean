import TokenAuthority.Proofs.Password.Fields

/-!
# Password hashes as they are written

Reading a password hash accepts exactly what writing one produces, as long as its fields hold what they may hold. So
each well-formed text stands for one hash, and no other text is read.
-/

namespace TokenAuthority.Password.PasswordHash

/-- The fields of a hash hold what they may hold. -/
structure WellFormed (h : PasswordHash) : Prop where
  algorithm : IsName h.algorithm
  version : ∀ n ∈ h.version, n < 1 <<< 32
  parameters : h.parameters = [] ∨ AreParameters h.parameters
  /-- A sole parameter with the name `v` would be taken for the version. -/
  plain : h.version = none → h.parameters.map Prod.fst ≠ [['v']]
  salt : ∀ salt ∈ h.salt, IsSalt salt
  output : ∀ output ∈ h.output, IsOutput output
  /-- There is no output without a salt. -/
  salted : h.output.isSome → h.salt.isSome

/-- A text that is the written form of a password hash. -/
def Written (text : String) : Prop := ∃ h : PasswordHash, h.WellFormed ∧ h.render = text

/-- A field that is taken for a version. -/
def ShowsVersion (field : List Char) : Prop := ∃ value, field = 'v' :: '=' :: value ∧ ',' ∉ value

variable {h : PasswordHash} {fields rest : List (List Char)} {value : List Char} {version : Option Nat} {n : Nat}
  {ps : List (List Char × List Char)} {salt : Option (List Char)} {output : Option (List UInt8)} {text : String}

/-! ### Reading field by field -/

theorem not_mem_toDigits {sign : Char} (other : sign.isDigit = false) : sign ∉ Nat.toDigits 10 n :=
  not_mem_of_forall (fun _ mem => Text.isDigit_of_mem_toDigits mem) other

theorem readVersion_of_plain (plain : ∀ field ∈ fields.head?, ¬ShowsVersion field) :
    readVersion fields = .ok (none, fields) := by
  unfold readVersion
  split
  · rename_i value rest
    have comma : ',' ∈ value := not_not.1 fun absent => plain _ rfl ⟨value, rfl, absent⟩
    rw [if_pos comma]
  · rfl

theorem readVersion_cons_eq_ok_iff (plain : ',' ∉ value) :
    readVersion (('v' :: '=' :: value) :: fields) = .ok (version, rest) ↔
      ∃ n, version = some n ∧ rest = fields ∧ value = Nat.toDigits 10 n ∧ n < 1 <<< 32 := by
  rw [readVersion, if_neg plain]
  simp only [Except.bind_eq_ok_iff, Except.mapError_eq_ok_iff, readValue_eq_ok_iff, readDecimal_eq_ok_iff]
  constructor
  · rintro ⟨_, ⟨rfl, -⟩, n, ⟨rfl, small⟩, same⟩
    cases same
    exact ⟨n, rfl, rfl, rfl, small⟩
  · rintro ⟨n, rfl, rfl, rfl, small⟩
    exact ⟨_, ⟨rfl, isValue_toDigits small⟩, n, ⟨rfl, small⟩, rfl⟩

theorem readVersion_eq_ok_iff : readVersion fields = .ok (version, rest) ↔
    fields = (version.map fun n => "v=".toList ++ Nat.toDigits 10 n).toList ++ rest ∧ (∀ n ∈ version, n < 1 <<< 32) ∧
      (version = none → ∀ field ∈ rest.head?, ¬ShowsVersion field) := by
  by_cases plain : ∀ field ∈ fields.head?, ¬ShowsVersion field
  · rw [readVersion_of_plain plain]
    constructor
    · intro same
      cases same
      exact ⟨rfl, nofun, fun _ => plain⟩
    · rintro ⟨rfl, -, -⟩
      cases version with
      | none => rfl
      | some n => exact (plain _ rfl ⟨_, rfl, not_mem_toDigits rfl⟩).elim
  · obtain ⟨_, mem, shows⟩ : ∃ field ∈ fields.head?, ShowsVersion field := by simpa using plain
    obtain ⟨value, rfl, unparted⟩ := shows
    obtain ⟨others, rfl⟩ := List.head?_eq_some_iff.1 mem
    rw [readVersion_cons_eq_ok_iff unparted]
    constructor
    · rintro ⟨n, rfl, rfl, rfl, small⟩
      exact ⟨rfl, fun _ same => Option.some.inj same ▸ small, nofun⟩
    · rintro ⟨same, small, none⟩
      cases version with
      | none =>
        obtain rfl := same
        exact (plain (none rfl)).elim
      | some n =>
        cases same
        exact ⟨n, rfl, rfl, rfl, small n rfl⟩

theorem mem_renderParameters_of_ne_nil (filled : ps ≠ []) : '=' ∈ renderParameters ps := by
  cases ps with
  | nil => exact (filled rfl).elim
  | cons p ps =>
    cases ps with
    | nil => simp [renderParameters]
    | cons q ps => simp [renderParameters_cons_cons]

theorem readOptional_eq_ok_iff : readOptional fields = .ok (ps, rest) ↔
    fields = (if ps = [] then [] else [renderParameters ps]) ++ rest ∧ (ps = [] ∨ AreParameters ps) ∧
      (ps = [] → ∀ field ∈ rest.head?, '=' ∉ field) := by
  cases fields with
  | nil =>
    rw [readOptional]
    constructor
    · intro same
      cases same
      exact ⟨rfl, .inl rfl, nofun⟩
    · rintro ⟨same, -, -⟩
      split at same
      · rename_i none
        cases same
        rw [none]
      · cases same
  | cons field others =>
    rw [readOptional]
    split
    · rename_i equals
      simp only [Except.bind_eq_ok_iff, readParameters_eq_ok_iff]
      constructor
      · rintro ⟨_, ⟨rfl, parameters⟩, same⟩
        cases same
        exact ⟨by rw [if_neg parameters.filled]; rfl, .inr parameters, fun none => (parameters.filled none).elim⟩
      · rintro ⟨same, parameters, plain⟩
        rcases parameters with rfl | parameters
        · cases same
          exact (plain rfl _ rfl equals).elim
        · rw [if_neg parameters.filled] at same
          cases same
          exact ⟨ps, ⟨rfl, parameters⟩, rfl⟩
    · rename_i plain
      constructor
      · intro same
        cases same
        exact ⟨rfl, .inl rfl, fun _ field mem => Option.some.inj mem ▸ plain⟩
      · rintro ⟨same, parameters, -⟩
        rcases parameters with rfl | parameters
        · cases same
          rfl
        · rw [if_neg parameters.filled] at same
          cases same
          exact (plain (mem_renderParameters_of_ne_nil parameters.filled)).elim

theorem readTail_eq_ok_iff : readTail fields = .ok (salt, output) ↔
    fields = salt.toList ++ (output.map Base64.encode).toList ∧ (∀ s ∈ salt, IsSalt s) ∧ (∀ o ∈ output, IsOutput o) ∧
      (output.isSome → salt.isSome) := by
  unfold readTail
  constructor
  · intro read
    split at read
    · cases read
      exact ⟨rfl, nofun, nofun, nofun⟩
    · obtain ⟨s, salted, same⟩ := Except.bind_eq_ok_iff.1 read
      obtain ⟨rfl, isSalt⟩ := readSalt_eq_ok_iff.1 salted
      cases same
      exact ⟨rfl, fun _ same => Option.some.inj same ▸ isSalt, nofun, nofun⟩
    · obtain ⟨s, salted, more⟩ := Except.bind_eq_ok_iff.1 read
      obtain ⟨o, found, ends⟩ := Except.bind_eq_ok_iff.1 more
      obtain ⟨last, same⟩ := Except.refuse_eq_ok_iff.1 ends
      obtain ⟨rfl, isSalt⟩ := readSalt_eq_ok_iff.1 salted
      obtain ⟨rfl, isOutput⟩ := readOutput_eq_ok_iff.1 found
      obtain rfl := not_not.1 last
      cases same
      exact ⟨rfl, fun _ same => Option.some.inj same ▸ isSalt, fun _ same => Option.some.inj same ▸ isOutput,
        fun _ => rfl⟩
  · rintro ⟨rfl, salts, outputs, salted⟩
    cases salt with
    | none =>
      cases output with
      | none => rfl
      | some o => cases salted rfl
    | some s =>
      have readsSalt := readSalt_eq_ok_iff.2 ⟨rfl, salts s rfl⟩
      cases output with
      | none => exact Except.bind_eq_ok_iff.2 ⟨s, readsSalt, rfl⟩
      | some o =>
        have readsOutput := readOutput_eq_ok_iff.2 ⟨rfl, outputs o rfl⟩
        exact Except.bind_eq_ok_iff.2 ⟨s, readsSalt, Except.bind_eq_ok_iff.2 ⟨o, readsOutput, rfl⟩⟩

/-! ### The whole text -/

theorem ShowsVersion.equals {field : List Char} (shows : ShowsVersion field) : '=' ∈ field := by
  obtain ⟨value, rfl, -⟩ := shows
  simp

theorem showsVersion_renderParameters_iff (parameters : AreParameters ps) :
    ShowsVersion (renderParameters ps) ↔ ps.map Prod.fst = [['v']] := by
  constructor
  · rintro ⟨value, same, plain⟩
    match ps with
    | [] => exact (parameters.filled rfl).elim
    | [p] =>
      have isName := parameters.names p List.mem_cons_self
      obtain ⟨c, name, named⟩ := List.exists_cons_of_ne_nil isName.filled
      have apart : '=' ∉ c :: name := named ▸ not_mem_of_forall isName.chars rfl
      rw [renderParameters, List.map_singleton, List.intercalate_singleton, named] at same
      obtain ⟨rfl, follows⟩ := List.cons.inj same
      cases name with
      | nil => rw [List.map_singleton, named]
      | cons d name =>
        obtain ⟨rfl, -⟩ := List.cons.inj follows
        simp at apart
    | p :: q :: ps =>
      have comma : ',' ∈ renderParameters (p :: q :: ps) := by simp [renderParameters_cons_cons]
      rw [same] at comma
      simp [plain] at comma
  · intro names
    obtain ⟨⟨name, value⟩, rfl, rfl⟩ := List.map_eq_singleton_iff.1 names
    refine ⟨value, ?_, not_mem_of_forall (parameters.values _ List.mem_cons_self).chars rfl⟩
    rw [renderParameters, List.map_singleton, List.intercalate_singleton]
    rfl

/-- No field holds the sign that separates fields. -/
theorem WellFormed.unsplit (wellFormed : h.WellFormed) : ∀ field ∈ h.fields, '$' ∉ field := by
  simp only [PasswordHash.fields, List.forall_mem_append, List.forall_mem_singleton, Option.mem_toList,
    Option.map_eq_some_iff]
  refine ⟨⟨⟨⟨?_, ?_⟩, ?_⟩, ?_⟩, ?_⟩
  · exact not_mem_of_forall wellFormed.algorithm.chars rfl
  · rintro _ ⟨n, -, rfl⟩
    simpa using not_mem_toDigits rfl
  · rcases wellFormed.parameters with none | parameters
    · rw [if_pos none]
      nofun
    · rw [if_neg parameters.filled, List.forall_mem_singleton]
      intro mem
      simpa [isValueChar] using chars_renderParameters parameters.names parameters.values '$' mem
  · exact fun salt mem => not_mem_of_forall (wellFormed.salt salt mem).chars rfl
  · rintro _ ⟨o, -, rfl⟩
    exact not_mem_of_forall (Base64.isValueChar_encode o) rfl

theorem WellFormed.splitOn_render (wellFormed : h.WellFormed) : h.render.toList.splitOn '$' = [] :: h.fields := by
  rw [render, String.toList_ofList, List.splitOn_intercalate '$' ?_ (List.cons_ne_nil _ _)]
  exact List.forall_mem_cons.2 ⟨nofun, wellFormed.unsplit⟩

/-- Salt and output are not taken for parameters. -/
theorem WellFormed.tail_plain (wellFormed : h.WellFormed) :
    ∀ field ∈ (h.salt.toList ++ (h.output.map Base64.encode).toList).head?, '=' ∉ field := by
  intro field mem
  have mem := List.mem_of_mem_head? mem
  simp only [List.mem_append, Option.mem_toList, Option.map_eq_some_iff] at mem
  rcases mem with mem | ⟨o, -, rfl⟩
  · exact not_mem_of_forall (wellFormed.salt field mem).chars rfl
  · exact not_mem_of_forall (Base64.isValueChar_encode o) rfl

/-- What follows the version is not taken for it if there is none. -/
theorem WellFormed.version_plain (wellFormed : h.WellFormed) (none : h.version = none) :
    ∀ field ∈ ((if h.parameters = [] then [] else [renderParameters h.parameters]) ++
      (h.salt.toList ++ (h.output.map Base64.encode).toList)).head?, ¬ShowsVersion field := by
  intro field mem shows
  rcases wellFormed.parameters with empty | parameters
  · rw [if_pos empty] at mem
    exact wellFormed.tail_plain field mem shows.equals
  · rw [if_neg parameters.filled] at mem
    obtain rfl := Option.some.inj mem
    exact wellFormed.plain none ((showsVersion_renderParameters_iff parameters).1 shows)

/-- Reading accepts exactly what writing produces. -/
theorem read_eq_ok_iff : read text = .ok h ↔ h.WellFormed ∧ h.render = text := by
  constructor
  · intro accepted
    have joined : ['$'].intercalate (text.toList.splitOn '$') = text.toList := List.intercalate_splitOn '$'
    unfold read at accepted
    split at accepted
    · rename_i algorithm others parts
      obtain ⟨_, named, more⟩ := Except.bind_eq_ok_iff.1 accepted
      obtain ⟨⟨version, afterVersion⟩, versioned, more⟩ := Except.bind_eq_ok_iff.1 more
      obtain ⟨⟨ps, afterParameters⟩, parametrized, more⟩ := Except.bind_eq_ok_iff.1 more
      obtain ⟨⟨salt, output⟩, ends, same⟩ := Except.bind_eq_ok_iff.1 more
      obtain ⟨rfl, isName⟩ := readName_eq_ok_iff.1 named
      obtain ⟨rfl, small, plain⟩ := readVersion_eq_ok_iff.1 versioned
      obtain ⟨rfl, parameters, -⟩ := readOptional_eq_ok_iff.1 parametrized
      obtain ⟨rfl, salts, outputs, salted⟩ := readTail_eq_ok_iff.1 ends
      cases same
      refine ⟨⟨isName, small, parameters, fun none sole => ?_, salts, outputs, salted⟩, ?_⟩
      · rcases parameters with rfl | parameters
        · cases sole
        · rw [if_neg parameters.filled] at plain
          exact plain none _ rfl ((showsVersion_renderParameters_iff parameters).2 sole)
      · rw [parts] at joined
        rw [render, PasswordHash.fields]
        simp only [List.append_assoc, List.cons_append, List.nil_append]
        rw [joined, String.ofList_toList]
    · cases accepted
  · rintro ⟨wellFormed, rfl⟩
    have named := readName_eq_ok_iff.2 ⟨rfl, wellFormed.algorithm⟩
    have versioned := readVersion_eq_ok_iff.2 ⟨rfl, wellFormed.version, wellFormed.version_plain⟩
    have parametrized := readOptional_eq_ok_iff.2 ⟨rfl, wellFormed.parameters, fun _ => wellFormed.tail_plain⟩
    have ends := readTail_eq_ok_iff.2 ⟨rfl, wellFormed.salt, wellFormed.output, wellFormed.salted⟩
    rw [read, wellFormed.splitOn_render, PasswordHash.fields]
    simp only [List.append_assoc, List.cons_append, List.nil_append]
    exact Except.bind_eq_ok_iff.2 ⟨_, named, Except.bind_eq_ok_iff.2 ⟨_, versioned, Except.bind_eq_ok_iff.2
      ⟨_, parametrized, Except.bind_eq_ok_iff.2 ⟨_, ends, rfl⟩⟩⟩⟩

theorem written_iff : Written text ↔ ∃ h, read text = .ok h := by
  simp only [Written, read_eq_ok_iff]

end TokenAuthority.Password.PasswordHash
