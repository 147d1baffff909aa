import TokenAuthority.Password.Hashing
import TokenAuthority.Proofs.Password.Format

/-!
# What a password is held against

A hash records the variant, the version, the costs and the salt that its output was computed with. A password verifies
just if the same computation gives the same output for it, and a hash that records a computation is well-formed. What
is stored for a new password records how its output was computed.
-/

namespace TokenAuthority.Password

/-! ### Lengths -/

theorem length_loop (bytes : ByteArray) (i : Nat) (reversed : List UInt8) :
    (ByteArray.toList.loop bytes i reversed).length = bytes.size - i + reversed.length := by
  fun_induction ByteArray.toList.loop bytes i reversed with
  | case1 i reversed more ih =>
    rw [ih, List.length_cons]
    omega
  | case2 i reversed last =>
    rw [List.length_reverse]
    omega

theorem length_toUTF8 (text : String) : text.toUTF8.toList.length = text.utf8ByteSize :=
  length_loop text.toUTF8 0 []

theorem length_wordBytes (w : UInt64) : (wordBytes w).length = 8 := rfl

theorem Blake2b.length_hash {size : Nat} (short : size ≤ 64) (message : List UInt8) :
    (Blake2b.hash size message).length = size := by
  simp [Blake2b.hash, length_wordBytes, short]

theorem Argon2.length_longHash {size : Nat} (short : size ≤ 64) (message : List UInt8) :
    (longHash size message).length = size := by
  rw [longHash, if_pos short, Blake2b.length_hash short]

/-- Whatever was mixed in memory, the output has the length that was asked for. -/
theorem Argon2.length_hash {variant : Variant} {version : Version} {cost : Parameters} (short : cost.length ≤ 64)
    (salt password : List UInt8) : (hash variant version cost salt password).length = cost.length := by
  -- The loops only decide which block is left at the end; what is returned is a digest of it.
  obtain ⟨last, same⟩ : ∃ last : Block, hash variant version cost salt password = longHash cost.length last.bytes :=
    ⟨_, rfl⟩
  rw [same, length_longHash short]

namespace PasswordHash

/-- Costs that a hash can say: the algorithm accepts them, they are three numbers of 32 bits, and the output they ask
for may stand in a hash. -/
structure Sayable (cost : Argon2.Parameters) : Prop where
  accepted : acceptable cost = true
  memory : cost.memory < 1 <<< 32
  passes : cost.passes < 1 <<< 32
  data : cost.data = []
  long : 10 ≤ cost.length
  short : cost.length ≤ 64

/-- A hash says how its output was computed, and under which salt. -/
structure Records (h : PasswordHash) (variant : Argon2.Variant) (version : Argon2.Version) (cost : Argon2.Parameters)
    (salt output : List UInt8) : Prop where
  algorithm : h.algorithm = variantName variant
  version : h.version = some version.number
  parameters : h.parameters = costParameters cost
  salt : h.salt = some (Base64.encode salt)
  length : output.length = cost.length
  output : h.output = some output

variable {h : PasswordHash} {variant : Argon2.Variant} {version : Argon2.Version} {cost : Argon2.Parameters}
  {salt output bytes : List UInt8} {password text : String}

/-! ### Costs -/

theorem Sayable.lanes (sayable : Sayable cost) : cost.lanes < 1 <<< 32 := by
  have accepted := sayable.accepted
  simp only [acceptable, Bool.and_eq_true, decide_eq_true_eq] at accepted
  omega

theorem sayable_defaultCost : Sayable defaultCost := by
  constructor <;> decide

theorem toOption_readDecimal_toDigits {n : Nat} (small : n < 1 <<< 32) :
    (readDecimal (Nat.toDigits 10 n)).toOption = some n := by
  rw [readDecimal_eq_ok_iff.2 ⟨rfl, small⟩]
  rfl

theorem variant?_variantName (variant : Argon2.Variant) : variant? (variantName variant) = some variant := by
  cases variant <;> rfl

theorem version?_number (version : Argon2.Version) : version? (some version.number) = some version := by
  cases version <;> rfl

/-- Costs are read back from the parameters that say them. -/
theorem cost?_costParameters (sayable : Sayable cost) : cost? (costParameters cost) cost.length = some cost := by
  have applied : (costParameters cost).foldlM applyParameter { defaultCost with length := cost.length } =
      some { cost with data := [] } := by
    simp [costParameters, applyParameter, toOption_readDecimal_toDigits sayable.memory,
      toOption_readDecimal_toDigits sayable.passes, toOption_readDecimal_toDigits sayable.lanes, defaultCost]
  have same : { cost with data := [] } = cost := by rw [← sayable.data]
  rw [cost?, applied, same, Option.filter_some, if_pos sayable.accepted]

theorem length_renderParameters_costParameters (cost : Argon2.Parameters) :
    (renderParameters (costParameters cost)).length = (Nat.toDigits 10 cost.memory).length +
      (Nat.toDigits 10 cost.passes).length + (Nat.toDigits 10 cost.lanes).length + 8 := by
  simp [renderParameters, costParameters, List.intercalate_cons_cons]
  omega

theorem areParameters_costParameters (sayable : Sayable cost) : AreParameters (costParameters cost) := by
  have digits {n : Nat} (small : n < 1 <<< 32) : (Nat.toDigits 10 n).length ≤ 10 :=
    (Nat.length_toDigits_le_iff (by decide) (by decide)).2 (by omega)
  refine ⟨List.cons_ne_nil _ _, ?_, ?_, ?_⟩
  · have name : ∀ c ∈ ['m', 't', 'p'], IsName [c] := by
      intro c mem
      have chars : ∀ c ∈ ['m', 't', 'p'], isNameChar c = true := List.all_eq_true.1 rfl
      exact ⟨List.cons_ne_nil _ _, Nat.le_of_ble_eq_true rfl, List.forall_mem_singleton.2 (chars c mem)⟩
    simp only [costParameters, List.forall_mem_cons]
    exact ⟨name 'm' (by decide), name 't' (by decide), name 'p' (by decide), nofun⟩
  · simp only [costParameters, List.forall_mem_cons]
    exact ⟨isValue_toDigits sayable.memory, isValue_toDigits sayable.passes, isValue_toDigits sayable.lanes, nofun⟩
  · rw [length_renderParameters_costParameters]
    have memory := digits sayable.memory
    have passes := digits sayable.passes
    have lanes := digits sayable.lanes
    omega

/-! ### Records -/

theorem isSalt_encode (long : 3 ≤ salt.length) (short : salt.length ≤ 48) : IsSalt (Base64.encode salt) := by
  refine ⟨⟨?_, Base64.isValueChar_encode salt⟩, ?_⟩
  · rw [Base64.length_encode]
    omega
  · rw [Base64.length_encode]
    omega

theorem isName_variantName (variant : Argon2.Variant) : IsName (variantName variant) := by
  cases variant <;> exact ⟨List.cons_ne_nil _ _, Nat.le_of_ble_eq_true rfl, List.all_eq_true.1 rfl⟩

theorem Records.wellFormed (records : h.Records variant version cost salt output) (sayable : Sayable cost)
    (long : 3 ≤ salt.length) (short : salt.length ≤ 48) : h.WellFormed where
  algorithm := records.algorithm ▸ isName_variantName variant
  version := by
    rw [records.version]
    rintro _ ⟨⟩
    cases version <;> decide
  parameters := .inr (records.parameters ▸ areParameters_costParameters sayable)
  plain none := by
    rw [records.version] at none
    cases none
  salt := by
    rw [records.salt]
    rintro _ ⟨⟩
    exact isSalt_encode long short
  output := by
    rw [records.output]
    rintro _ ⟨⟩
    exact ⟨records.length ▸ sayable.long, records.length ▸ sayable.short⟩
  salted _ := by
    rw [records.salt]
    rfl

theorem verify_eq_true_iff :
    h.verify password = true ↔ ∃ output, h.output = some output ∧ h.recompute? password = some output := by
  unfold verify
  split
  · rename_i expected actual has computed
    rw [has, computed, beq_iff_eq]
    constructor
    · rintro rfl
      exact ⟨expected, rfl, rfl⟩
    · rintro ⟨_, ⟨⟩, same⟩
      exact (Option.some.inj same).symm
  · rename_i missing
    exact ⟨nofun, fun ⟨output, has, computed⟩ => (missing output output has computed).elim⟩

/-- What is recorded is computed again. -/
theorem Records.recompute?_eq (records : h.Records variant version cost salt output) (sayable : Sayable cost)
    (password : String) : h.recompute? password = compute? variant version cost salt password.toUTF8.toList := by
  rw [recompute?, records.salt, records.output, records.parameters, records.algorithm, records.version]
  simp only [Option.bind_eq_bind, Option.bind_some, records.length, cost?_costParameters sayable,
    variant?_variantName, version?_number, Base64.decode?_encode]

/-- A password verifies just if the recorded computation has the recorded output for it. -/
theorem Records.verify_eq_true_iff (records : h.Records variant version cost salt output) (sayable : Sayable cost) :
    h.verify password = true ↔ compute? variant version cost salt password.toUTF8.toList = some output := by
  rw [PasswordHash.verify_eq_true_iff, records.recompute?_eq sayable, records.output]
  constructor
  · rintro ⟨_, ⟨⟩, computed⟩
    exact computed
  · exact fun computed => ⟨output, rfl, computed⟩

/-! ### New hashes -/

theorem compute?_eq_some_iff : compute? variant version cost salt bytes = some output ↔
    8 ≤ salt.length ∧ bytes.length < 1 <<< 32 ∧ Argon2.hash variant version cost salt bytes = output := by
  rw [compute?, Option.ite_none_left_eq_some, not_or, Nat.not_lt, Nat.not_le, Option.some_inj, and_assoc]

theorem ofPassword?_eq_some_iff : ofPassword? salt password = some h ↔
    ∃ output, h.Records .id .v19 defaultCost salt output ∧
      compute? .id .v19 defaultCost salt password.toUTF8.toList = some output := by
  rw [ofPassword?, Option.map_eq_some_iff]
  constructor
  · rintro ⟨output, computed, rfl⟩
    obtain ⟨-, -, same⟩ := compute?_eq_some_iff.1 computed
    exact ⟨output, ⟨rfl, rfl, rfl, rfl, same ▸ Argon2.length_hash sayable_defaultCost.short _ _, rfl⟩, computed⟩
  · rintro ⟨output, records, computed⟩
    refine ⟨output, computed, ?_⟩
    cases h
    simp only [PasswordHash.mk.injEq]
    exact ⟨records.algorithm.symm, records.version.symm, records.parameters.symm, records.salt.symm,
      records.output.symm⟩

/-- What is stored for a password is the text of a hash that records how its output was computed. -/
theorem hashPassword_eq_ok_iff {salt : Salt} : hashPassword salt password = .ok text ↔
    ∃ (h : PasswordHash) (output : List UInt8), h.Records .id .v19 defaultCost salt.bytes output ∧
      compute? .id .v19 defaultCost salt.bytes password.toUTF8.toList = some output ∧ h.render = text := by
  unfold hashPassword
  split
  · rename_i hash found
    constructor
    · intro same
      obtain ⟨output, records, computed⟩ := ofPassword?_eq_some_iff.1 found
      exact ⟨hash, output, records, computed, Except.ok.inj same⟩
    · rintro ⟨h, output, records, computed, rfl⟩
      rw [ofPassword?_eq_some_iff.2 ⟨output, records, computed⟩] at found
      rw [Option.some.inj found]
  · rename_i missing
    refine ⟨nofun, fun ⟨h, output, records, computed, _⟩ => ?_⟩
    rw [ofPassword?_eq_some_iff.2 ⟨output, records, computed⟩] at missing
    cases missing

/-- Every password of fewer than 2^32 bytes can be hashed, under whichever salt. -/
theorem hashPassword_succeeds_iff {salt : Salt} :
    (∃ text, hashPassword salt password = .ok text) ↔ password.utf8ByteSize < 1 <<< 32 := by
  rw [← length_toUTF8]
  constructor
  · rintro ⟨text, hashed⟩
    obtain ⟨h, output, -, computed, -⟩ := hashPassword_eq_ok_iff.1 hashed
    exact (compute?_eq_some_iff.1 computed).2.1
  · intro small
    have long : 8 ≤ salt.bytes.length := by
      rw [salt.length_eq]
      decide
    obtain ⟨output, computed⟩ :
        ∃ output, compute? .id .v19 defaultCost salt.bytes password.toUTF8.toList = some output :=
      ⟨_, compute?_eq_some_iff.2 ⟨long, small, rfl⟩⟩
    simp only [hashPassword, ofPassword?, computed, Option.map_some, Except.ok.injEq, exists_eq']

end PasswordHash

end TokenAuthority.Password
