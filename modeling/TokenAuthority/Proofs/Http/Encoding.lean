import Mathlib.Data.Bool.AllAny
import Mathlib.Data.List.Forall2
import TokenAuthority.Http.Form
import TokenAuthority.Proofs.Text.Utf8

/-!
# Forms as they are written

A text can be written into a form in many ways: of its bytes, most may stand for themselves, all may be written by
their digits, and a space also by a plus sign. `read_of_writes` says that the fields of a form are read whichever way
their names and values are written.
-/

namespace TokenAuthority.Http.Form

open Text

/-- The hexadecimal digits of a number below 16: the small one and the capital one. -/
def hexDigits (n : Nat) : List UInt8 :=
  [Nat.digitChar n, (Nat.digitChar n).toUpper].map fun c => UInt8.ofNat c.toNat

/-- The ways to write a byte. The signs `%`, `&`, `+` and `=` do not stand for themselves. -/
inductive WritesByte : List UInt8 → UInt8 → Prop where
  | plain {b : UInt8} (free : b ∉ [0x25, 0x26, 0x2B, 0x3D]) : WritesByte [b] b
  | percent {b high low : UInt8} (first : high ∈ hexDigits (b.toNat / 16)) (second : low ∈ hexDigits (b.toNat % 16)) :
    WritesByte [0x25, high, low] b
  | plus : WritesByte [0x2B] 0x20

inductive WritesBytes : List UInt8 → List UInt8 → Prop where
  | nil : WritesBytes [] []
  | cons {front rest bytes : List UInt8} {b : UInt8} (first : WritesByte front b) (others : WritesBytes rest bytes) :
    WritesBytes (front ++ rest) (b :: bytes)

/-- A text is written byte by byte. -/
def Writes (written : List UInt8) (text : String) : Prop := WritesBytes written (Utf8.encode text.toList)

/-- The ways to write a field. A field with an empty value may go without an equals sign. -/
inductive WritesField : List UInt8 → String × String → Prop where
  | pair {front rest : List UInt8} {name value : String} (first : Writes front name) (second : Writes rest value) :
    WritesField (front ++ 0x3D :: rest) (name, value)
  | bare {front : List UInt8} {name : String} (some : name ≠ "") (first : Writes front name) :
    WritesField front (name, "")

/-- The ways to write a form. -/
inductive WritesForm (fields : List (String × String)) : List UInt8 → Prop where
  | of {pieces : List (List UInt8)} (all : List.Forall₂ WritesField pieces fields) :
    WritesForm fields ([0x26].intercalate pieces)

variable {b high low : UInt8} {front rest bytes written done : List UInt8} {text : String} {field : String × String}
  {fields : List (String × String)}

/-! ### Bytes -/

theorem hexValue?_of_mem : ∀ n < 16, ∀ digit ∈ hexDigits n, hexValue? digit = some (UInt8.ofNat n) := by
  have checked : ∀ n < 16, (hexDigits n).all fun digit => hexValue? digit = some (UInt8.ofNat n) := by decide
  exact fun n small => List.all_iff_forall_prop.1 (checked n small)

theorem hexDigits_plain : ∀ n < 16, ∀ digit ∈ hexDigits n, digit ≠ 0x26 ∧ digit ≠ 0x3D := by
  have checked : ∀ n < 16, (hexDigits n).all fun digit => digit ≠ 0x26 ∧ digit ≠ 0x3D := by decide
  exact fun n small => List.all_iff_forall_prop.1 (checked n small)

theorem byte?_of_mem (first : high ∈ hexDigits (b.toNat / 16)) (second : low ∈ hexDigits (b.toNat % 16)) :
    byte? high low = some b := by
  have bound := b.toNat_lt
  have upper := hexValue?_of_mem _ (by omega) _ first
  have lower := hexValue?_of_mem _ (by omega) _ second
  have whole : UInt8.ofNat (b.toNat / 16) * 16 + UInt8.ofNat (b.toNat % 16) = b := by
    apply UInt8.toNat_inj.1
    simp only [UInt8.toNat_add, UInt8.toNat_mul, UInt8.toNat_ofNat', UInt8.reduceToNat]
    omega
  simp [byte?, upper, lower, whole]

/-- A byte is read however it is written. -/
theorem unescape_append (writes : WritesByte front b) : unescape done (front ++ rest) = unescape (b :: done) rest := by
  cases writes with
  | plain free =>
    simp only [List.mem_cons, List.not_mem_nil, or_false, not_or] at free
    obtain ⟨percent, -, plus, -⟩ := free
    rw [List.singleton_append, unescape]
    · exact fun _ _ _ same _ => percent same
    · exact plus
  | percent first second =>
    rw [List.cons_append, List.cons_append, List.singleton_append, unescape, byte?_of_mem first second]
  | plus => rfl

theorem unescape_of_writes (writes : WritesBytes written bytes) : unescape done written = done.reverse ++ bytes := by
  induction writes generalizing done with
  | nil => simp [unescape]
  | cons first others ih => rw [unescape_append first, ih, List.reverse_cons, List.append_assoc, List.singleton_append]

/-- Bytes that may stand for themselves are one way to write them. -/
theorem writesBytes_self (free : ∀ b ∈ bytes, b ∉ [0x25, 0x26, 0x2B, 0x3D]) : WritesBytes bytes bytes := by
  induction bytes with
  | nil => exact .nil
  | cons b bytes ih =>
    exact .cons (.plain (free b List.mem_cons_self)) (ih fun other mem => free other (List.mem_cons_of_mem _ mem))

theorem decode_of_writes (writes : Writes written text) : decode written = text := by
  rw [decode, unescape_of_writes writes, List.reverse_nil, List.nil_append, Utf8.lossy_encode, String.ofList_toList]

/-! ### Fields -/

theorem WritesByte.plain_signs (writes : WritesByte front b) : 0x26 ∉ front ∧ 0x3D ∉ front := by
  cases writes with
  | plain free => simp_all [eq_comm]
  | percent first second =>
    have bound := b.toNat_lt
    have upper := hexDigits_plain _ (by omega) _ first
    have lower := hexDigits_plain _ (by omega) _ second
    simp [upper.1.symm, upper.2.symm, lower.1.symm, lower.2.symm]
  | plus => decide

/-- What is written of a name or a value holds none of the signs that separate them. -/
theorem WritesBytes.plain_signs (writes : WritesBytes written bytes) : 0x26 ∉ written ∧ 0x3D ∉ written := by
  induction writes with
  | nil => simp
  | cons first others ih =>
    obtain ⟨ampersand, equals⟩ := first.plain_signs
    simp [ampersand, equals, ih.1, ih.2]

theorem takeWhile_ne {sign : UInt8} (absent : sign ∉ front) (rest : List UInt8) :
    (front ++ rest).takeWhile (· != sign) = front ++ rest.takeWhile (· != sign) := by
  refine List.takeWhile_append_of_pos fun b mem => bne_iff_ne.2 ?_
  rintro rfl
  exact absent mem

theorem readField_of_writes (writes : WritesField written field) : readField written = field := by
  cases writes with
  | @pair front rest name value first second =>
    have name_eq : (front ++ 0x3D :: rest).takeWhile (· != 0x3D) = front := by
      simp [takeWhile_ne first.plain_signs.2]
    have value_eq : (front ++ 0x3D :: rest).drop (front.length + 1) = rest := by simp
    rw [readField]
    simp only [name_eq, value_eq, decode_of_writes first, decode_of_writes second]
  | bare some first =>
    have name_eq : written.takeWhile (· != 0x3D) = written := by
      simpa using takeWhile_ne first.plain_signs.2 []
    rw [readField]
    simp only [name_eq, decode_of_writes first, List.drop_eq_nil_of_le (Nat.le_succ written.length)]
    rfl

theorem WritesField.ne_nil (writes : WritesField written field) : written ≠ [] := by
  cases writes with
  | pair first second => simp
  | bare some first =>
    rintro rfl
    have name := decode_of_writes first
    exact some name.symm

theorem WritesField.plain_ampersand (writes : WritesField written field) : 0x26 ∉ written := by
  cases writes with
  | pair first second => simp [first.plain_signs.1, second.plain_signs.1]
  | bare some first => exact first.plain_signs.1

theorem map_readField {pieces : List (List UInt8)} (all : List.Forall₂ WritesField pieces fields) :
    pieces.map readField = fields := by
  induction all with
  | nil => rfl
  | cons first others ih => rw [List.map_cons, readField_of_writes first, ih]

/-- The fields of a form are read however they are written. -/
theorem read_of_writes (writes : WritesForm fields written) : read written = fields := by
  obtain @⟨pieces, all⟩ := writes
  cases pieces with
  | nil =>
    cases all
    rfl
  | cons piece pieces =>
    have each : ∀ written ∈ piece :: pieces, written ≠ [] ∧ 0x26 ∉ written := by
      have both : List.Forall₂ (fun written field => (written ≠ [] ∧ 0x26 ∉ written) ∧ WritesField written field)
        (piece :: pieces) fields := all.imp fun _ _ writes => ⟨⟨writes.ne_nil, writes.plain_ampersand⟩, writes⟩
      exact ((List.forall₂_and_left _ _).1 both).1
    have filled : (piece :: pieces).filter (!·.isEmpty) = piece :: pieces :=
      List.filter_eq_self.2 fun written mem => by simpa using (each written mem).1
    have apart : ∀ written ∈ piece :: pieces, 0x26 ∉ written := fun written mem => (each written mem).2
    rw [read, List.splitOn_intercalate 0x26 apart (List.cons_ne_nil _ _), filled, map_readField all]

end TokenAuthority.Http.Form
