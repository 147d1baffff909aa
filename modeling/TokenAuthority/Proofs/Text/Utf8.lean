import TokenAuthority.Text.Utf8

/-!
# Texts and their bytes

Reading UTF-8 is the inverse of writing it. What is read of the bytes of a text is the text, and no other bytes are
read without a fault: shorter or longer forms of a character, surrogates and numbers beyond the last character are
excluded by the bounds that a first byte sets for the next one.
-/

namespace TokenAuthority.Text.Utf8

/-- The bytes that can follow a first byte: `missing` of them, of which the next one is bounded and the others are
continuation bytes. -/
inductive Follows : (missing : Nat) → (low high : UInt8) → List UInt8 → Prop where
  | last {low high b : UInt8} (least : low ≤ b) (most : b ≤ high) : Follows 1 low high [b]
  | more {missing : Nat} {low high b : UInt8} {rest : List UInt8} (least : low ≤ b) (most : b ≤ high)
      (follows : Follows missing 0x80 0xBF rest) : Follows (missing + 1) low high (b :: rest)

/-- The number that a first byte's bits and further bytes make. -/
def assembled (value : Nat) (bytes : List UInt8) : Nat := bytes.foldl (fun value b => value * 64 + b.toNat % 64) value

variable {reversed : List (Option Char)} {value missing : Nat} {low high b : UInt8} {bytes rest : List UInt8} {c : Char}

theorem Follows.push (follows : Follows missing low high bytes) :
    bytes.foldl Progress.push ⟨.within value missing low high, reversed⟩ =
      ⟨.start, some (Char.ofNat (assembled value bytes)) :: reversed⟩ := by
  induction follows generalizing value with
  | last least most => simp [Progress.push, assembled, least, most]
  | @more missing low high b rest least most follows ih =>
    have positive : ¬missing + 1 ≤ 1 := by cases follows <;> omega
    rw [List.foldl_cons]
    simp only [Progress.push, least, most, decide_true, Bool.and_self, if_true, if_neg positive, Nat.add_sub_cancel]
    exact ih

theorem follows_of_isSound (some : 0 < missing)
    (sound : (bytes.foldl Progress.push ⟨.within value missing low high, reversed⟩).isSound) :
    ∃ front rest, bytes = front ++ rest ∧ Follows missing low high front := by
  induction missing generalizing value low high bytes with
  | zero => omega
  | succ missing ih =>
    cases bytes with
    | nil => cases sound
    | cons b bytes =>
      rw [List.foldl_cons] at sound
      by_cases bounded : low ≤ b ∧ b ≤ high
      · obtain ⟨least, most⟩ := bounded
        cases missing with
        | zero => exact ⟨[b], bytes, rfl, .last least most⟩
        | succ missing =>
          simp only [Progress.push, least, most, decide_true, Bool.and_self, if_true,
            show ¬missing + 1 + 1 ≤ 1 by omega, if_false, Nat.add_sub_cancel] at sound
          obtain ⟨front, rest, rfl, follows⟩ := ih (by omega) sound
          exact ⟨b :: front, rest, rfl, .more least most follows⟩
      · -- A byte out of bounds leaves an ill-formed stretch behind.
        have broken : none ∈ (Progress.first (none :: reversed) b).reversed := by grind [Progress.first]
        have out : (decide (low ≤ b) && decide (b ≤ high)) = false := by simpa using bounded
        simp only [Progress.push, out, Bool.false_eq_true, if_false] at sound
        have all := all_of_isSound_foldl sound
        cases List.all_eq_true.1 all none broken

/-- The first bytes of characters of more than one byte, with the bits that they give and the bytes that follow. -/
inductive Leads (n : Nat) : (value missing : Nat) → (low high : UInt8) → Prop where
  | two (least : 0xC2 ≤ n) (most : n ≤ 0xDF) : Leads n (n % 32) 1 0x80 0xBF
  | threeLow (same : n = 0xE0) : Leads n (n % 16) 2 0xA0 0xBF
  | three (least : 0xE1 ≤ n) (most : n ≤ 0xEF) (other : n ≠ 0xED) : Leads n (n % 16) 2 0x80 0xBF
  | threeHigh (same : n = 0xED) : Leads n (n % 16) 2 0x80 0x9F
  | fourLow (same : n = 0xF0) : Leads n (n % 8) 3 0x90 0xBF
  | four (least : 0xF1 ≤ n) (most : n ≤ 0xF3) : Leads n (n % 8) 3 0x80 0xBF
  | fourHigh (same : n = 0xF4) : Leads n (n % 8) 3 0x80 0x8F

theorem open?_eq_some_iff : State.open? b = some (.within value missing low high) ↔
    Leads b.toNat value missing low high := by
  simp only [State.open?, UInt8.le_iff_toNat_le, ← UInt8.toNat_inj, Bool.and_eq_true, decide_eq_true_eq,
    UInt8.reduceToNat]
  constructor
  · intro opens
    repeat' split at opens
    all_goals cases opens
    · exact .two (by omega) (by omega)
    · exact .threeLow (by omega)
    · exact .threeHigh (by omega)
    · exact .three (by omega) (by omega) (by omega)
    · exact .fourLow (by omega)
    · exact .four (by omega) (by omega)
    · exact .fourHigh (by omega)
  · intro leads
    cases leads with
    | two least most => rw [if_pos (by omega)]
    | threeLow same => rw [if_neg (by omega), if_pos (by omega)]
    | three least most other => rw [if_neg (by omega), if_neg (by omega), if_neg (by omega), if_pos (by omega)]
    | threeHigh same => rw [if_neg (by omega), if_neg (by omega), if_pos (by omega)]
    | fourLow same =>
      rw [if_neg (by omega), if_neg (by omega), if_neg (by omega), if_neg (by omega), if_pos (by omega)]
    | four least most =>
      rw [if_neg (by omega), if_neg (by omega), if_neg (by omega), if_neg (by omega), if_neg (by omega),
        if_pos (by omega)]
    | fourHigh same =>
      rw [if_neg (by omega), if_neg (by omega), if_neg (by omega), if_neg (by omega), if_neg (by omega),
        if_neg (by omega), if_pos (by omega)]

theorem toNat_byte {n : Nat} (small : n < 256) : (UInt8.ofNat n).toNat = n := by
  rw [UInt8.toNat_ofNat']
  omega

theorem within_iff {n : Nat} (small : n < 256) :
    low ≤ UInt8.ofNat n ∧ UInt8.ofNat n ≤ high ↔ low.toNat ≤ n ∧ n ≤ high.toNat := by
  rw [UInt8.le_iff_toNat_le, UInt8.le_iff_toNat_le, toNat_byte small]

/-- A continuation byte holds six bits of a number. -/
theorem continues (n : Nat) : 0x80 ≤ UInt8.ofNat (n % 0x40 + 0x80) ∧ UInt8.ofNat (n % 0x40 + 0x80) ≤ 0xBF :=
  (within_iff (by omega)).2 ⟨show 0x80 ≤ _ by omega, show _ ≤ 0xBF by omega⟩

theorem toNat_continuing (n : Nat) : (UInt8.ofNat (n % 0x40 + 0x80)).toNat = n % 0x40 + 0x80 := toNat_byte (by omega)

/-- The bytes of a character of more than one byte, by its number. -/
inductive Multibyte (n : Nat) : List UInt8 → Prop where
  | of {b : UInt8} {value missing : Nat} {low high : UInt8} {rest : List UInt8}
      (leads : Leads b.toNat value missing low high) (follows : Follows missing low high rest)
      (number : assembled value rest = n) : Multibyte n (b :: rest)

theorem multibyte_two {n : Nat} (least : 0x7F < n) (most : n ≤ 0x7FF) :
    Multibyte n [UInt8.ofNat (n / 64 % 0x20 + 0xC0), UInt8.ofNat (n % 0x40 + 0x80)] := by
  have lead : (UInt8.ofNat (n / 64 % 0x20 + 0xC0)).toNat = n / 64 % 0x20 + 0xC0 := toNat_byte (by omega)
  refine .of (.two (by omega) (by omega)) (.last (continues n).1 (continues n).2) ?_
  simp only [assembled, List.foldl_cons, List.foldl_nil, lead, toNat_continuing]
  omega

theorem multibyte_three {n : Nat} (least : 0x7FF < n) (most : n ≤ 0xFFFF) (valid : n < 0xD800 ∨ 0xDFFF < n) :
    Multibyte n [UInt8.ofNat (n / 4096 % 0x10 + 0xE0), UInt8.ofNat (n / 64 % 0x40 + 0x80),
      UInt8.ofNat (n % 0x40 + 0x80)] := by
  have lead : (UInt8.ofNat (n / 4096 % 0x10 + 0xE0)).toNat = n / 4096 % 0x10 + 0xE0 := toNat_byte (by omega)
  have last : Follows 1 0x80 0xBF [UInt8.ofNat (n % 0x40 + 0x80)] := .last (continues n).1 (continues n).2
  have whole : assembled ((UInt8.ofNat (n / 4096 % 0x10 + 0xE0)).toNat % 16)
      [UInt8.ofNat (n / 64 % 0x40 + 0x80), UInt8.ofNat (n % 0x40 + 0x80)] = n := by
    simp only [assembled, List.foldl_cons, List.foldl_nil, lead, toNat_continuing]
    omega
  obtain ⟨low, high⟩ := continues (n / 64)
  -- The least and the greatest of these first bytes bound the next one: shorter forms and surrogates are excluded.
  by_cases first : n / 4096 = 0
  · have beyond : 0xA0 ≤ UInt8.ofNat (n / 64 % 0x40 + 0x80) ∧ UInt8.ofNat (n / 64 % 0x40 + 0x80) ≤ 0xBF :=
      (within_iff (by omega)).2 ⟨show 0xA0 ≤ _ by omega, show _ ≤ 0xBF by omega⟩
    exact .of (.threeLow (by omega)) (.more beyond.1 high last) whole
  · by_cases surrogates : n / 4096 = 13
    · have below : 0x80 ≤ UInt8.ofNat (n / 64 % 0x40 + 0x80) ∧ UInt8.ofNat (n / 64 % 0x40 + 0x80) ≤ 0x9F :=
        (within_iff (by omega)).2 ⟨show 0x80 ≤ _ by omega, show _ ≤ 0x9F by omega⟩
      exact .of (.threeHigh (by omega)) (.more low below.2 last) whole
    · exact .of (.three (by omega) (by omega) (by omega)) (.more low high last) whole

theorem multibyte_four {n : Nat} (least : 0xFFFF < n) (most : n < 0x110000) :
    Multibyte n [UInt8.ofNat (n / 262144 % 0x08 + 0xF0), UInt8.ofNat (n / 4096 % 0x40 + 0x80),
      UInt8.ofNat (n / 64 % 0x40 + 0x80), UInt8.ofNat (n % 0x40 + 0x80)] := by
  have lead : (UInt8.ofNat (n / 262144 % 0x08 + 0xF0)).toNat = n / 262144 % 0x08 + 0xF0 := toNat_byte (by omega)
  have last : Follows 2 0x80 0xBF [UInt8.ofNat (n / 64 % 0x40 + 0x80), UInt8.ofNat (n % 0x40 + 0x80)] :=
    .more (continues (n / 64)).1 (continues (n / 64)).2 (.last (continues n).1 (continues n).2)
  have whole : assembled ((UInt8.ofNat (n / 262144 % 0x08 + 0xF0)).toNat % 8)
      [UInt8.ofNat (n / 4096 % 0x40 + 0x80), UInt8.ofNat (n / 64 % 0x40 + 0x80), UInt8.ofNat (n % 0x40 + 0x80)] =
        n := by
    simp only [assembled, List.foldl_cons, List.foldl_nil, lead, toNat_continuing]
    omega
  obtain ⟨low, high⟩ := continues (n / 4096)
  by_cases first : n / 262144 = 0
  · have beyond : 0x90 ≤ UInt8.ofNat (n / 4096 % 0x40 + 0x80) ∧ UInt8.ofNat (n / 4096 % 0x40 + 0x80) ≤ 0xBF :=
      (within_iff (by omega)).2 ⟨show 0x90 ≤ _ by omega, show _ ≤ 0xBF by omega⟩
    exact .of (.fourLow (by omega)) (.more beyond.1 high last) whole
  · by_cases greatest : n / 262144 = 4
    · have below : 0x80 ≤ UInt8.ofNat (n / 4096 % 0x40 + 0x80) ∧ UInt8.ofNat (n / 4096 % 0x40 + 0x80) ≤ 0x8F :=
        (within_iff (by omega)).2 ⟨show 0x80 ≤ _ by omega, show _ ≤ 0x8F by omega⟩
      exact .of (.fourHigh (by omega)) (.more low below.2 last) whole
    · exact .of (.four (by omega) (by omega)) (.more low high last) whole

/-- A character is written by one byte, or by a first byte and those that follow it. -/
theorem encodeChar_cases (c : Char) :
    (c.toNat < 0x80 ∧ String.utf8EncodeChar c = [UInt8.ofNat c.toNat]) ∨
      Multibyte c.toNat (String.utf8EncodeChar c) := by
  have valid : c.toNat < 0xD800 ∨ (0xDFFF < c.toNat ∧ c.toNat < 0x110000) := c.valid
  unfold String.utf8EncodeChar
  dsimp only
  rw [show c.val.toNat = c.toNat from rfl]
  split
  · exact .inl ⟨by omega, rfl⟩
  · right
    split
    · exact multibyte_two (by omega) (by omega)
    · split
      · exact multibyte_three (by omega) (by omega) (by omega)
      · exact multibyte_four (by omega) (by omega)

theorem toNat_ofNat {n : Nat} (valid : n < 0xD800 ∨ (0xDFFF < n ∧ n < 0x110000)) : (Char.ofNat n).toNat = n := by
  have scalar : n.isValidChar := valid
  rw [Char.ofNat, dif_pos scalar]
  rfl

theorem encodeChar_ofNat {n : Nat} (valid : n < 0xD800 ∨ (0xDFFF < n ∧ n < 0x110000)) :
    String.utf8EncodeChar (Char.ofNat n) =
      if n ≤ 0x7F then [UInt8.ofNat n]
      else if n ≤ 0x7FF then [UInt8.ofNat (n / 64 % 0x20 + 0xC0), UInt8.ofNat (n % 0x40 + 0x80)]
      else if n ≤ 0xFFFF then
        [UInt8.ofNat (n / 4096 % 0x10 + 0xE0), UInt8.ofNat (n / 64 % 0x40 + 0x80), UInt8.ofNat (n % 0x40 + 0x80)]
      else
        [UInt8.ofNat (n / 262144 % 0x08 + 0xF0), UInt8.ofNat (n / 4096 % 0x40 + 0x80),
          UInt8.ofNat (n / 64 % 0x40 + 0x80), UInt8.ofNat (n % 0x40 + 0x80)] := by
  unfold String.utf8EncodeChar
  dsimp only
  rw [show (Char.ofNat n).val.toNat = (Char.ofNat n).toNat from rfl, toNat_ofNat valid]

theorem ofNat_eq {n : Nat} (same : n = b.toNat) : UInt8.ofNat n = b := by
  rw [same, UInt8.ofNat_toNat]

theorem Follows.one (follows : Follows 1 low high bytes) :
    ∃ b, bytes = [b] ∧ low.toNat ≤ b.toNat ∧ b.toNat ≤ high.toNat := by
  cases follows with
  | @last _ _ b least most => exact ⟨b, rfl, UInt8.le_iff_toNat_le.1 least, UInt8.le_iff_toNat_le.1 most⟩
  | more _ _ follows => cases follows

theorem Follows.succ (follows : Follows (missing + 2) low high bytes) :
    ∃ b rest, bytes = b :: rest ∧ low.toNat ≤ b.toNat ∧ b.toNat ≤ high.toNat ∧
      Follows (missing + 1) 0x80 0xBF rest := by
  cases follows with
  | @more _ _ _ b rest least most follows =>
    exact ⟨b, rest, rfl, UInt8.le_iff_toNat_le.1 least, UInt8.le_iff_toNat_le.1 most, follows⟩

/-- There is no other way to write the character. -/
theorem Multibyte.eq {n : Nat} (multibyte : Multibyte n bytes) : bytes = String.utf8EncodeChar (Char.ofNat n) := by
  obtain @⟨b, value, missing, low, high, rest, leads, follows, rfl⟩ := multibyte
  cases leads
  case two =>
    obtain ⟨second, rfl, least, most⟩ := follows.one
    simp only [UInt8.reduceToNat, assembled, List.foldl_cons, List.foldl_nil] at *
    rw [encodeChar_ofNat (by omega), if_neg (by omega), if_pos (by omega), ofNat_eq (b := b) (by omega),
      ofNat_eq (b := second) (by omega)]
  case threeLow | three | threeHigh =>
    obtain ⟨second, rest, rfl, least, most, follows⟩ := follows.succ
    obtain ⟨third, rfl, least', most'⟩ := follows.one
    simp only [UInt8.reduceToNat, assembled, List.foldl_cons, List.foldl_nil] at *
    rw [encodeChar_ofNat (by omega), if_neg (by omega), if_neg (by omega), if_pos (by omega),
      ofNat_eq (b := b) (by omega), ofNat_eq (b := second) (by omega), ofNat_eq (b := third) (by omega)]
  case fourLow | four | fourHigh =>
    obtain ⟨second, rest, rfl, least, most, follows⟩ := follows.succ
    obtain ⟨third, rest, rfl, least', most', follows⟩ := follows.succ
    obtain ⟨fourth, rfl, least'', most''⟩ := follows.one
    simp only [UInt8.reduceToNat, assembled, List.foldl_cons, List.foldl_nil] at *
    rw [encodeChar_ofNat (by omega), if_neg (by omega), if_neg (by omega), if_neg (by omega),
      ofNat_eq (b := b) (by omega), ofNat_eq (b := second) (by omega), ofNat_eq (b := third) (by omega),
      ofNat_eq (b := fourth) (by omega)]

/-! ### Texts -/

theorem push_encodeChar (c : Char) :
    (String.utf8EncodeChar c).foldl Progress.push ⟨.start, reversed⟩ = ⟨.start, some c :: reversed⟩ := by
  rcases encodeChar_cases c with ⟨small, bytes⟩ | multibyte
  · have byte : (UInt8.ofNat c.toNat).toNat = c.toNat := toNat_byte (by omega)
    have first : UInt8.ofNat c.toNat < 0x80 := by
      rw [UInt8.lt_iff_toNat_lt, byte]
      exact small
    rw [bytes]
    simp [Progress.push, Progress.first, first, byte, Char.ofNat_toNat]
  · generalize String.utf8EncodeChar c = bytes at multibyte
    obtain @⟨b, value, missing, low, high, rest, leads, follows, number⟩ := multibyte
    have large : ¬b < 0x80 := by
      rw [UInt8.lt_iff_toNat_lt]
      cases leads <;> simp only [UInt8.reduceToNat] <;> omega
    have opens := open?_eq_some_iff.2 leads
    rw [List.foldl_cons]
    simp only [Progress.push, Progress.first, large, if_false, opens]
    rw [follows.push, number, Char.ofNat_toNat]

/-- The characters of a text are read from its bytes. -/
theorem push_encode (text : List Char) :
    (encode text).foldl Progress.push ⟨.start, reversed⟩ = ⟨.start, (text.map some).reverse ++ reversed⟩ := by
  induction text generalizing reversed with
  | nil => rfl
  | cons c text ih =>
    rw [encode, List.flatMap_cons, List.foldl_append, push_encodeChar, ← encode, ih]
    simp

theorem read_encode (text : List Char) : read (encode text) = text.map some := by
  simp [read, push_encode]

theorem lossy_encode (text : List Char) : lossy (encode text) = text := by
  simp [lossy, read_encode, Function.comp_def]

theorem size_eq_length (text : List Char) : size text = (encode text).length := by
  have added (n : Nat) : text.foldl (fun n c => n + c.utf8Size) n = n + (encode text).length := by
    induction text generalizing n with
    | nil => rfl
    | cons c text ih =>
      rw [List.foldl_cons, ih, encode, encode, List.flatMap_cons, List.length_append, String.length_utf8EncodeChar,
        Nat.add_assoc]
  simpa [size] using added 0

theorem size_of_ascii {text : List Char} (ascii : ∀ c ∈ text, c.toNat < 128) : size text = text.length := by
  have each : ∀ c ∈ text, (String.utf8EncodeChar c).length = 1 := by
    intro c mem
    rw [String.length_utf8EncodeChar]
    exact Char.utf8Size_eq_one_iff.2 (UInt32.le_iff_toNat_le.2 (Nat.lt_succ_iff.1 (ascii c mem)))
  rw [size_eq_length, encode, List.length_flatMap, List.map_congr_left each, List.map_const', List.sum_replicate_nat,
    Nat.mul_one]

/-- Bytes that are read without a fault begin with those of a character. -/
theorem exists_encodeChar (sound : ((b :: bytes).foldl Progress.push ⟨.start, reversed⟩).isSound) :
    ∃ c rest, b :: bytes = String.utf8EncodeChar c ++ rest := by
  by_cases small : b < 0x80
  · refine ⟨Char.ofNat b.toNat, bytes, ?_⟩
    have bound : b.toNat < 0x80 := UInt8.lt_iff_toNat_lt.1 small
    rw [encodeChar_ofNat (by omega), if_pos (by omega), UInt8.ofNat_toNat]
    rfl
  · rw [List.foldl_cons] at sound
    simp only [Progress.push, Progress.first, small, if_false] at sound
    cases opens : State.open? b with
    | none =>
      rw [opens] at sound
      cases List.all_eq_true.1 (all_of_isSound_foldl sound) none List.mem_cons_self
    | some state =>
      rw [opens] at sound
      cases state with
      | start =>
        simp only [State.open?] at opens
        repeat' split at opens
        all_goals cases opens
      | within value missing low high =>
        have leads := open?_eq_some_iff.1 opens
        obtain ⟨front, rest, rfl, follows⟩ := follows_of_isSound (by cases leads <;> decide) sound
        have multibyte : Multibyte (assembled value front) (b :: front) := .of leads follows rfl
        exact ⟨_, rest, by rw [← multibyte.eq]; rfl⟩

theorem exists_encode (sound : (bytes.foldl Progress.push ⟨.start, reversed⟩).isSound) :
    ∃ text, bytes = encode text := by
  induction h : bytes.length using Nat.strongRecOn generalizing bytes reversed with
  | _ n ih =>
    cases bytes with
    | nil => exact ⟨[], rfl⟩
    | cons b bytes =>
      obtain ⟨c, rest, split⟩ := exists_encodeChar sound
      have shorter : rest.length < n := by
        have lengths := congrArg List.length split
        have positive := c.utf8Size_pos
        rw [List.length_append, String.length_utf8EncodeChar] at lengths
        omega
      rw [split, List.foldl_append, push_encodeChar] at sound
      obtain ⟨text, rfl⟩ := ih _ shorter sound rfl
      exact ⟨c :: text, by rw [split, encode, encode, List.flatMap_cons]⟩

/-- The byte strings that can be read are the ones that texts are written in. -/
theorem strict?_eq_some_iff {text : List Char} : strict? bytes = some text ↔ bytes = encode text := by
  have written (text : List Char) : strict? (encode text) = some text := by
    simp [strict?, read_encode]
  constructor
  · intro reads
    have sound : (bytes.foldl Progress.push ⟨.start, []⟩).isSound := by
      have clean := (fault?_eq_none_iff bytes).2 (by rw [reads]; rfl)
      exact (faultFrom_eq_none_iff bytes 0 0 ⟨.start, []⟩ rfl).1 clean
    obtain ⟨own, rfl⟩ := exists_encode sound
    rw [written] at reads
    rw [Option.some.inj reads]
  · rintro rfl
    exact written text

theorem encode_inj {text text' : List Char} (same : encode text = encode text') : text = text' :=
  Option.some.inj ((strict?_eq_some_iff.2 rfl).symm.trans (strict?_eq_some_iff.2 same))

end TokenAuthority.Text.Utf8
