import TokenAuthority.Password.PasswordHash
import TokenAuthority.Proofs.Text.Utf8

/-!
# Bytes as text

Every byte string has one text in the standard alphabet, and that text and no other is read as it: padding, foreign
characters and stray bits behind the last byte are all refused.
-/

namespace TokenAuthority.Password.Base64

open Text.Utf8 (ofNat_eq)

variable {c : Char} {n : Nat} {text : List Char} {bytes : List UInt8}

/-! ### Digits -/

theorem value?_digit : ∀ n < 64, value? (digit n) = some n := by decide

theorem isValueChar_digit : ∀ n < 64, PasswordHash.isValueChar (digit n) = true := by decide

theorem le_iff_toNat_le {c d : Char} : c ≤ d ↔ c.toNat ≤ d.toNat := UInt32.le_iff_toNat_le

theorem digit_of_value? (value : value? c = some n) : n < 64 ∧ digit n = c := by
  have own := Char.ofNat_toNat c
  simp only [value?, le_iff_toNat_le, Char.reduceToNat] at value
  grind [digit]

/-! ### Texts -/

theorem decode?_encode (bytes : List UInt8) : decode? (encode bytes) = some bytes := by
  fun_induction encode bytes with
  | case1 a b c rest n ih =>
    have := a.toNat_lt
    have := b.toNat_lt
    have := c.toNat_lt
    have whole : n / 262144 * 262144 + n / 4096 % 64 * 4096 + n / 64 % 64 * 64 + n % 64 = n := by omega
    simp only [decode?, value?_digit _ (show n / 262144 < 64 by omega),
      value?_digit _ (show n / 4096 % 64 < 64 by omega), value?_digit _ (show n / 64 % 64 < 64 by omega),
      value?_digit _ (show n % 64 < 64 by omega), ih, Option.bind_eq_bind, Option.bind_some, whole]
    rw [ofNat_eq (show n / 65536 = a.toNat by omega), ofNat_eq (show n / 256 % 256 = b.toNat by omega),
      ofNat_eq (show n % 256 = c.toNat by omega)]
  | case2 a b n =>
    have := a.toNat_lt
    have := b.toNat_lt
    have whole : n / 4096 * 4096 + n / 64 % 64 * 64 + n % 64 = n := by omega
    simp only [decode?, value?_digit _ (show n / 4096 < 64 by omega), value?_digit _ (show n / 64 % 64 < 64 by omega),
      value?_digit _ (show n % 64 < 64 by omega), Option.bind_eq_bind, Option.bind_some, whole]
    rw [if_pos (by omega), ofNat_eq (show n / 1024 = a.toNat by omega), ofNat_eq (show n / 4 % 256 = b.toNat by omega)]
  | case3 a =>
    have := a.toNat_lt
    simp only [decode?, value?_digit _ (show a.toNat / 4 < 64 by omega),
      value?_digit _ (show a.toNat % 4 * 16 < 64 by omega), Option.bind_eq_bind, Option.bind_some]
    rw [if_pos (by omega), ofNat_eq (show (a.toNat / 4 * 64 + a.toNat % 4 * 16) / 16 = a.toNat by omega)]
  | case4 => rfl

theorem eq_encode_of_decode? (decodes : decode? text = some bytes) : text = encode bytes := by
  fun_induction decode? text generalizing bytes with
  | case1 a b c d rest ih =>
    simp only [Option.bind_eq_bind, Option.bind_eq_some_iff] at decodes
    obtain ⟨i, first, j, second, k, third, l, fourth, others, decodes, same⟩ := decodes
    obtain ⟨_, rfl⟩ := digit_of_value? first
    obtain ⟨_, rfl⟩ := digit_of_value? second
    obtain ⟨_, rfl⟩ := digit_of_value? third
    obtain ⟨_, rfl⟩ := digit_of_value? fourth
    cases same
    simp only [encode, UInt8.toNat_ofNat', ih decodes]
    congr <;> omega
  | case2 a b c =>
    simp only [Option.bind_eq_bind, Option.bind_eq_some_iff] at decodes
    obtain ⟨i, first, j, second, k, third, decodes⟩ := decodes
    obtain ⟨_, rfl⟩ := digit_of_value? first
    obtain ⟨_, rfl⟩ := digit_of_value? second
    obtain ⟨_, rfl⟩ := digit_of_value? third
    obtain ⟨clean, same⟩ := Option.ite_none_right_eq_some.1 decodes
    cases same
    simp only [encode, UInt8.toNat_ofNat']
    congr <;> omega
  | case3 a b =>
    simp only [Option.bind_eq_bind, Option.bind_eq_some_iff] at decodes
    obtain ⟨i, first, j, second, decodes⟩ := decodes
    obtain ⟨_, rfl⟩ := digit_of_value? first
    obtain ⟨_, rfl⟩ := digit_of_value? second
    obtain ⟨clean, same⟩ := Option.ite_none_right_eq_some.1 decodes
    cases same
    simp only [encode, UInt8.toNat_ofNat']
    congr <;> omega
  | case4 a => cases decodes
  | case5 =>
    cases decodes
    rfl

/-- Reading accepts exactly what writing produces. -/
theorem decode?_eq_some_iff : decode? text = some bytes ↔ text = encode bytes :=
  ⟨eq_encode_of_decode?, fun same => same ▸ decode?_encode bytes⟩

theorem length_encode (bytes : List UInt8) : (encode bytes).length = (4 * bytes.length + 2) / 3 := by
  fun_induction encode bytes with
  | case1 a b c rest n ih =>
    simp only [List.length_cons, ih]
    omega
  | case2 a b n => simp
  | case3 a => simp
  | case4 => rfl

theorem decodedLength_length_encode (bytes : List UInt8) : decodedLength (encode bytes).length = bytes.length := by
  rw [length_encode, decodedLength]
  omega

theorem isValueChar_encode (bytes : List UInt8) : ∀ c ∈ encode bytes, PasswordHash.isValueChar c = true := by
  fun_induction encode bytes with
  | case1 a b c rest n ih =>
    have := a.toNat_lt
    have := b.toNat_lt
    have := c.toNat_lt
    simp only [List.forall_mem_cons]
    exact ⟨isValueChar_digit _ (by omega), isValueChar_digit _ (by omega), isValueChar_digit _ (by omega),
      isValueChar_digit _ (by omega), ih⟩
  | case2 a b n =>
    have := a.toNat_lt
    have := b.toNat_lt
    simp only [List.forall_mem_cons]
    exact ⟨isValueChar_digit _ (by omega), isValueChar_digit _ (by omega), isValueChar_digit _ (by omega), nofun⟩
  | case3 a =>
    have := a.toNat_lt
    simp only [List.forall_mem_cons]
    exact ⟨isValueChar_digit _ (by omega), isValueChar_digit _ (by omega), nofun⟩
  | case4 => nofun

end TokenAuthority.Password.Base64
