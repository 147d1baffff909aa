import TokenAuthority.Proofs.Except
import TokenAuthority.Proofs.Password.Base64
import TokenAuthority.Proofs.Text.Digits

/-!
# The fields of a password hash

What may stand in each field, and that the reader of a field accepts just what is written so: names, values, numbers
without superfluous zeros, parameters, salts and outputs.
-/

namespace TokenAuthority.Password.PasswordHash

open Text

/-- The name of an algorithm or of a parameter. -/
structure IsName (name : List Char) : Prop where
  filled : name ≠ []
  short : name.length ≤ 32
  chars : ∀ c ∈ name, isNameChar c = true

/-- The value of a parameter. -/
structure IsValue (value : List Char) : Prop where
  short : value.length ≤ 64
  chars : ∀ c ∈ value, isValueChar c = true

/-- A salt as it is written. -/
structure IsSalt (salt : List Char) : Prop extends IsValue salt where
  long : 4 ≤ salt.length

/-- Parameters that fit into one field. -/
structure AreParameters (ps : List (List Char × List Char)) : Prop where
  filled : ps ≠ []
  names : ∀ p ∈ ps, IsName p.1
  values : ∀ p ∈ ps, IsValue p.2
  short : (renderParameters ps).length ≤ 127

/-- An output that a hash may have. -/
structure IsOutput (bytes : List UInt8) : Prop where
  long : 10 ≤ bytes.length
  short : bytes.length ≤ 64

variable {field name value salt pair : List Char} {p : List Char × List Char} {ps : List (List Char × List Char)}
  {bytes : List UInt8} {c : Char} {n : Nat}

/-! ### Characters -/

theorem isNameChar_iff : isNameChar c = true ↔
    (97 ≤ c.toNat ∧ c.toNat ≤ 122) ∨ (48 ≤ c.toNat ∧ c.toNat ≤ 57) ∨ c.toNat = 45 := by
  have hyphen : c = '-' ↔ c.toNat = 45 := Char.toNat_inj.symm
  simp [isNameChar, Base64.le_iff_toNat_le, hyphen, or_assoc]

theorem isValueChar_iff : isValueChar c = true ↔
    (65 ≤ c.toNat ∧ c.toNat ≤ 90) ∨ (97 ≤ c.toNat ∧ c.toNat ≤ 122) ∨ (48 ≤ c.toNat ∧ c.toNat ≤ 57) ∨ c.toNat = 47 ∨
      c.toNat = 43 ∨ c.toNat = 46 ∨ c.toNat = 45 := by
  have same (d : Char) : c = d ↔ c.toNat = d.toNat := Char.toNat_inj.symm
  simp [isValueChar, Base64.le_iff_toNat_le, same, or_assoc]

theorem isValueChar_of_isDigit (digit : c.isDigit = true) : isValueChar c = true :=
  isValueChar_iff.2 (.inr (.inr (.inl (Char.isDigit_iff_toNat.1 digit))))

theorem isValueChar_of_isNameChar (char : isNameChar c = true) : isValueChar c = true := by
  have code := isNameChar_iff.1 char
  exact isValueChar_iff.2 (by omega)

theorem size_of_isValueChar (chars : ∀ c ∈ value, isValueChar c = true) : Utf8.size value = value.length := by
  refine Utf8.size_of_ascii fun c mem => ?_
  have code := isValueChar_iff.1 (chars c mem)
  omega

theorem size_of_isNameChar (chars : ∀ c ∈ name, isNameChar c = true) : Utf8.size name = name.length :=
  size_of_isValueChar fun c mem => isValueChar_of_isNameChar (chars c mem)

/-- A text with characters of one kind does not hold a sign of another kind. -/
theorem not_mem_of_forall {kind : Char → Bool} {text : List Char} {sign : Char}
    (chars : ∀ c ∈ text, kind c = true) (other : kind sign = false) : sign ∉ text := by
  intro mem
  rw [chars sign mem] at other
  cases other

/-! ### Names and values -/

theorem readName_eq_ok_iff {result : List Char} : readName name = .ok result ↔ result = name ∧ IsName name := by
  have checks : (name ≠ [] && Utf8.size name ≤ 32 && name.all isNameChar) = true ↔ IsName name := by
    simp only [Bool.and_eq_true, decide_eq_true_eq, List.all_eq_true]
    constructor
    · rintro ⟨⟨filled, short⟩, chars⟩
      exact ⟨filled, size_of_isNameChar chars ▸ short, chars⟩
    · intro isName
      exact ⟨⟨isName.filled, size_of_isNameChar isName.chars ▸ isName.short⟩, isName.chars⟩
  unfold readName
  split
  · rename_i accepted
    exact ⟨fun same => ⟨(Except.ok.inj same).symm, checks.1 accepted⟩, fun ⟨same, _⟩ => same ▸ rfl⟩
  · rename_i refused
    exact ⟨nofun, fun ⟨_, isName⟩ => (refused (checks.2 isName)).elim⟩

theorem checkCharacters_eq_ok_iff : checkCharacters value = .ok () ↔ ∀ c ∈ value, isValueChar c = true := by
  unfold checkCharacters
  split
  · rename_i c found
    have strange := List.find?_some found
    have mem := List.mem_of_find?_eq_some found
    exact ⟨nofun, fun chars => absurd (chars c mem) (by simpa using strange)⟩
  · rename_i none
    exact ⟨fun _ => by simpa using none, fun _ => rfl⟩

theorem readValue_eq_ok_iff {result : List Char} : readValue value = .ok result ↔ result = value ∧ IsValue value := by
  unfold readValue
  rw [Except.refuse_eq_ok_iff, Except.bind_eq_ok_iff]
  constructor
  · rintro ⟨short, ⟨⟩, checked, same⟩
    have chars := checkCharacters_eq_ok_iff.1 checked
    rw [size_of_isValueChar chars] at short
    exact ⟨(Except.ok.inj same).symm, Nat.not_lt.1 short, chars⟩
  · rintro ⟨rfl, isValue⟩
    rw [size_of_isValueChar isValue.chars]
    exact ⟨Nat.not_lt.2 isValue.short, (), checkCharacters_eq_ok_iff.2 isValue.chars, rfl⟩

/-- A number is written by its digits. -/
theorem readDecimal_eq_ok_iff : readDecimal value = .ok n ↔ value = Nat.toDigits 10 n ∧ n < 1 <<< 32 := by
  unfold readDecimal
  rw [Except.refuse_eq_ok_iff]
  cases strange : value.find? (!Char.isDigit ·) with
  | some c =>
    have mem := List.mem_of_find?_eq_some strange
    have other : c.isDigit = false := by simpa using List.find?_some strange
    constructor
    · rintro ⟨-, refused⟩
      cases refused
    · rintro ⟨rfl, -⟩
      rw [isDigit_of_mem_toDigits mem] at other
      cases other
  | none =>
    have digits : ∀ c ∈ value, c.isDigit = true := by simpa using strange
    simp only [Except.refuse_eq_ok_iff, Bool.and_eq_true, decide_eq_true_eq, Nat.not_le]
    constructor
    · rintro ⟨filled, canonical, small, same⟩
      obtain rfl := Except.ok.inj same
      refine ⟨(toDigits_ofDigitChars filled digits fun zero => ?_).symm, small⟩
      exact Nat.not_lt.1 fun long => canonical ⟨zero, long⟩
    · rintro ⟨rfl, small⟩
      rw [Nat.ofDigitChars_ten_toDigits]
      refine ⟨Nat.toDigits_ne_nil, ?_, small, rfl⟩
      rintro ⟨zero, long⟩
      rw [head?_toDigits zero] at long
      exact absurd long (by decide)

theorem isValue_toDigits (small : n < 1 <<< 32) : IsValue (Nat.toDigits 10 n) := by
  refine ⟨?_, fun c mem => isValueChar_of_isDigit (isDigit_of_mem_toDigits mem)⟩
  have short := (Nat.length_toDigits_le_iff (b := 10) (n := n) (k := 10) (by decide) (by decide)).2 (by omega)
  omega

/-! ### Parameters -/

theorem readParameter_eq_ok_iff : readParameter pair = .ok p ↔ pair = p.1 ++ '=' :: p.2 ∧ IsName p.1 ∧ IsValue p.2 := by
  unfold readParameter
  constructor
  · intro read
    have joined : ['='].intercalate (pair.splitOn '=') = pair := List.intercalate_splitOn '='
    split at read
    · cases read
    · rename_i name rest parts
      obtain ⟨_, named, valued⟩ := Except.bind_eq_ok_iff.1 read
      obtain ⟨rfl, isName⟩ := readName_eq_ok_iff.1 named
      cases rest with
      | nil => cases valued
      | cons value more =>
        obtain ⟨_, first, ends⟩ := Except.bind_eq_ok_iff.1 valued
        obtain ⟨rfl, isValue⟩ := readValue_eq_ok_iff.1 (Except.mapError_eq_ok_iff.1 first)
        obtain ⟨last, same⟩ := Except.refuse_eq_ok_iff.1 ends
        obtain rfl := Except.ok.inj same
        obtain rfl := not_not.1 last
        rw [parts, List.intercalate_cons_cons, List.intercalate_singleton, List.append_assoc] at joined
        exact ⟨joined.symm, isName, isValue⟩
  · rintro ⟨rfl, isName, isValue⟩
    have apart : (p.1 ++ '=' :: p.2).splitOn '=' = [p.1, p.2] := by
      rw [List.splitOn_append_cons_self_of_not_mem (not_mem_of_forall isName.chars rfl),
        List.splitOn_eq_singleton (not_mem_of_forall isValue.chars rfl)]
    rw [apart]
    simp only [Except.bind_eq_ok_iff]
    exact ⟨p.1, readName_eq_ok_iff.2 ⟨rfl, isName⟩, p.2,
      Except.mapError_eq_ok_iff.2 (readValue_eq_ok_iff.2 ⟨rfl, isValue⟩), rfl⟩

theorem forall₂_readParameter_iff {pairs : List (List Char)} :
    List.Forall₂ (fun pair p => readParameter pair = .ok p) pairs ps ↔
      pairs = ps.map (fun p => p.1 ++ '=' :: p.2) ∧ (∀ p ∈ ps, IsName p.1) ∧ ∀ p ∈ ps, IsValue p.2 := by
  induction ps generalizing pairs with
  | nil => simp
  | cons p ps ih =>
    simp only [List.forall₂_cons_right_iff, ih]
    simp only [readParameter_eq_ok_iff, List.map_cons, List.forall_mem_cons]
    constructor
    · rintro ⟨_, _, ⟨rfl, name, value⟩, ⟨rfl, names, values⟩, rfl⟩
      exact ⟨rfl, ⟨name, names⟩, value, values⟩
    · rintro ⟨rfl, ⟨name, names⟩, value, values⟩
      exact ⟨_, _, ⟨rfl, name, value⟩, ⟨rfl, names, values⟩, rfl⟩

theorem renderParameters_cons_cons {q : List Char × List Char} :
    renderParameters (p :: q :: ps) = p.1 ++ '=' :: p.2 ++ ',' :: renderParameters (q :: ps) := by
  simp [renderParameters, List.intercalate_cons_cons]

/-- Apart from the signs that separate them, parameters have the characters of values. -/
theorem chars_renderParameters (names : ∀ p ∈ ps, IsName p.1) (values : ∀ p ∈ ps, IsValue p.2) :
    ∀ c ∈ renderParameters ps, isValueChar c = true ∨ c = '=' ∨ c = ',' := by
  induction ps with
  | nil => nofun
  | cons p ps ih =>
    rw [List.forall_mem_cons] at names values
    have first : ∀ c ∈ p.1 ++ '=' :: p.2, isValueChar c = true ∨ c = '=' ∨ c = ',' := by
      intro c mem
      rcases List.mem_append.1 mem with mem | mem
      · exact .inl (isValueChar_of_isNameChar (names.1.chars c mem))
      · rcases List.mem_cons.1 mem with rfl | mem
        · exact .inr (.inl rfl)
        · exact .inl (values.1.chars c mem)
    cases ps with
    | nil => simpa [renderParameters] using first
    | cons q ps =>
      rw [renderParameters_cons_cons]
      intro c mem
      rcases List.mem_append.1 mem with mem | mem
      · exact first c mem
      · rcases List.mem_cons.1 mem with rfl | mem
        · exact .inr (.inr rfl)
        · exact ih names.2 values.2 c mem

theorem size_renderParameters (names : ∀ p ∈ ps, IsName p.1) (values : ∀ p ∈ ps, IsValue p.2) :
    Utf8.size (renderParameters ps) = (renderParameters ps).length := by
  refine Utf8.size_of_ascii fun c mem => ?_
  rcases chars_renderParameters names values c mem with char | rfl | rfl
  · have code := isValueChar_iff.1 char
    omega
  · decide
  · decide

theorem readParameters_eq_ok_iff : readParameters field = .ok ps ↔ field = renderParameters ps ∧ AreParameters ps := by
  unfold readParameters
  constructor
  · intro read
    have joined : [','].intercalate (field.splitOn ',') = field := List.intercalate_splitOn ','
    split at read
    · cases read
    · rename_i short
      obtain ⟨parts, names, values⟩ := forall₂_readParameter_iff.1 (Except.mapM_eq_ok_iff.1 read)
      have same : field = renderParameters ps := by rw [renderParameters, ← parts, joined]
      rw [same, size_renderParameters names values] at short
      refine ⟨same, ?_, names, values, Nat.not_lt.1 short⟩
      rintro rfl
      exact List.splitOn_ne_nil ',' field parts
  · rintro ⟨rfl, parameters⟩
    have apart : (renderParameters ps).splitOn ',' = ps.map fun p => p.1 ++ '=' :: p.2 := by
      refine List.splitOn_intercalate ',' ?_ (by simpa using parameters.filled)
      rw [List.forall_mem_map]
      intro p mem
      have name : ',' ∉ p.1 := not_mem_of_forall (parameters.names p mem).chars rfl
      have value : ',' ∉ p.2 := not_mem_of_forall (parameters.values p mem).chars rfl
      simp [name, value]
    rw [size_renderParameters parameters.names parameters.values, if_neg (Nat.not_lt.2 parameters.short), apart]
    exact Except.mapM_eq_ok_iff.2 (forall₂_readParameter_iff.2 ⟨rfl, parameters.names, parameters.values⟩)

/-! ### Salts and outputs -/

theorem readSalt_eq_ok_iff {result : List Char} : readSalt field = .ok result ↔ result = field ∧ IsSalt field := by
  unfold readSalt
  constructor
  · intro read
    split at read
    · cases read
    · rename_i long
      split at read
      · cases read
      · rename_i short
        split at read
        · cases read
        · rename_i checked
          have chars := checkCharacters_eq_ok_iff.1 checked
          rw [size_of_isValueChar chars] at long short
          exact ⟨(Except.ok.inj read).symm, ⟨Nat.not_lt.1 short, chars⟩, Nat.not_lt.1 long⟩
  · rintro ⟨rfl, isSalt⟩
    rw [size_of_isValueChar isSalt.chars, if_neg (Nat.not_lt.2 isSalt.long), if_neg (Nat.not_lt.2 isSalt.short),
      checkCharacters_eq_ok_iff.2 isSalt.chars]

theorem readOutput_eq_ok_iff : readOutput field = .ok bytes ↔ field = Base64.encode bytes ∧ IsOutput bytes := by
  have size : Utf8.size (Base64.encode bytes) = (Base64.encode bytes).length :=
    size_of_isValueChar (Base64.isValueChar_encode bytes)
  unfold readOutput
  constructor
  · intro read
    split at read
    · cases read
    · rename_i short
      split at read
      · cases read
      · rename_i found decodes
        split at read
        · cases read
        · rename_i long
          obtain rfl := Except.ok.inj read
          obtain rfl := Base64.decode?_eq_some_iff.1 decodes
          rw [size, Base64.decodedLength_length_encode] at short
          exact ⟨rfl, Nat.not_lt.1 long, Nat.not_lt.1 short⟩
  · rintro ⟨rfl, isOutput⟩
    rw [size, Base64.decodedLength_length_encode, if_neg (Nat.not_lt.2 isOutput.short), Base64.decode?_encode]
    exact if_neg (Nat.not_lt.2 isOutput.long)

end TokenAuthority.Password.PasswordHash
