import TokenAuthority.Json.Writer
import TokenAuthority.Proofs.Json.Acceptance
import TokenAuthority.Proofs.Text.Digits

/-!
# Strings and numbers as they are written out

The text of a string always spells the string. That of a number does if the number is an integer: of a floating-point
number the text is the shortest one, and reading it may round to a neighbour.
-/

namespace TokenAuthority.Json

open Text

variable {embeds : Bool} {depth : Nat} {cs digits : List Char} {c : Char}

/-! ### Strings -/

theorem hexNumber_control : ∀ n < 32,
    hexNumber? ['0', '0', hexDigit (n / 16), hexDigit (n % 16)] = some n ∧
      Utf8.size ['0', '0', hexDigit (n / 16), hexDigit (n % 16)] = 4 := by
  decide

/-- A character is spelled by how it stands inside a string. -/
theorem spells_escape (c : Char) : Spells (escape c) c := by
  by_cases short : c ∈ ['"', '\\', '\n', '\r', '\t', '\x08', '\x0c']
  · simp only [List.mem_cons, List.not_mem_nil, or_false] at short
    rcases short with rfl | rfl | rfl | rfl | rfl | rfl | rfl
    all_goals exact .short (by decide)
  · simp only [List.mem_cons, List.not_mem_nil, or_false, not_or] at short
    obtain ⟨quote, backslash, newline, carriage, tab, back, form⟩ := short
    simp only [escape, quote, backslash, newline, carriage, tab, back, form, if_false]
    by_cases control : c.toNat < 32
    · have spells := Spells.unit ⟨rfl, (hexNumber_control c.toNat control).1⟩ (.inl (by omega))
      rw [if_pos control]
      rwa [Char.ofNat_toNat] at spells
    · rw [if_neg control]
      exact .plain control quote backslash

theorem spellsText_escape (text : List Char) : SpellsText (text.flatMap escape) text := by
  induction text with
  | nil => exact .nil
  | cons c text ih => exact .cons (spells_escape c) ih

theorem spellsString_quoted (s : String) : SpellsString (quoted s) s :=
  .of Blank.nil (spellsText_escape s.toList) Blank.nil

/-! ### Integers -/

/-- No digits are dropped of a number of 64 bits. -/
theorem gather_eq {n : Nat} (small : Nat.ofDigitChars 10 digits n < 1 <<< 64) :
    gather n digits = (Nat.ofDigitChars 10 digits n, []) := by
  induction digits generalizing n with
  | nil => rfl
  | cons c digits ih =>
    rw [Nat.ofDigitChars_cons, Nat.mul_comm 10 n] at small ⊢
    have grows : n * 10 + (c.toNat - '0'.toNat) ≤ Nat.ofDigitChars 10 digits (n * 10 + (c.toNat - '0'.toNat)) := by
      rw [Nat.ofDigitChars_eq_ofDigitChars_zero]
      exact Nat.le_add_right_of_le (Nat.le_mul_of_pos_left _ (Nat.pow_pos (by decide)))
    have below : n * 10 + (c.toNat - '0'.toNat) < 1 <<< 64 := by omega
    unfold gather
    rw [if_pos below, ih small]

theorem gather_toDigits {n : Nat} (small : n < 1 <<< 64) : gather 0 (Nat.toDigits 10 n) = (n, []) := by
  have value := Nat.ofDigitChars_ten_toDigits (n := n)
  rw [gather_eq (by rw [value]; exact small), value]

theorem value?_natural {n : Nat} (small : n < 1 <<< 64) :
    NumberText.value? ⟨false, Nat.toDigits 10 n, none, none⟩ = some (.integer n) := by
  simp [NumberText.value?, gather_toDigits small]

theorem value?_negative {n : Nat} (positive : 0 < n) (small : n ≤ 1 <<< 63) :
    NumberText.value? ⟨true, Nat.toDigits 10 n, none, none⟩ = some (.integer (-n)) := by
  simp only [NumberText.value?, gather_toDigits (show n < 1 <<< 64 by omega), and_self, if_true, Bool.not_true,
    Bool.false_eq_true, if_false, positive, small]

theorem spellsSize_toDigits {negative : Bool} {n : Nat} {number : Number}
    (value : NumberText.value? ⟨negative, Nat.toDigits 10 n, none, none⟩ = some number) :
    SpellsSize negative (Nat.toDigits 10 n) number := by
  have all : Digits (Nat.toDigits 10 n) := ⟨Nat.toDigits_ne_nil, fun _ => isDigit_of_mem_toDigits⟩
  have leading : ¬((Nat.toDigits 10 n).head? = some '0' ∧ 1 < (Nat.toDigits 10 n).length) := by
    rintro ⟨zero, long⟩
    rw [head?_toDigits zero] at long
    exact absurd long (by decide)
  simpa using SpellsSize.of all leading .absent .absent value

/-! ### Floating-point numbers -/

theorem numeric_of_all (all : cs.all (fun c => decide (Numeric c)) = true) : ∀ c ∈ cs, Numeric c :=
  fun c mem => of_decide_eq_true (List.all_eq_true.1 all c mem)

theorem numeric_write (l : Decimal.Layout) (s : Decimal.Scientific) : ∀ c ∈ l.write s, Numeric c := by
  have digits (n : Nat) : ∀ c ∈ Nat.toDigits 10 n, Numeric c :=
    fun c mem => .inl (isDigit_of_mem_toDigits mem)
  have front (k n : Nat) : ∀ c ∈ (Nat.toDigits 10 n).take k, Numeric c :=
    fun c mem => digits n c (List.mem_of_mem_take mem)
  have back (k n : Nat) : ∀ c ∈ (Nat.toDigits 10 n).drop k, Numeric c :=
    fun c mem => digits n c (List.mem_of_mem_drop mem)
  have zeros (n : Nat) : ∀ c ∈ List.replicate n '0', Numeric c := by
    intro c mem
    rw [List.eq_of_mem_replicate mem]
    decide
  have point : Numeric '.' := by decide
  unfold Decimal.Layout.write
  dsimp only
  split
  · exact List.forall_mem_append.2 ⟨List.forall_mem_append.2 ⟨digits _, zeros _⟩, numeric_of_all (by decide)⟩
  · split
    · exact List.forall_mem_append.2 ⟨front _ _, List.forall_mem_cons.2 ⟨point, back _ _⟩⟩
    · split
      · exact List.forall_mem_append.2 ⟨List.forall_mem_append.2 ⟨numeric_of_all (by decide), zeros _⟩, digits _⟩
      · refine List.forall_mem_append.2 ⟨List.forall_mem_append.2 ⟨?_, ?_⟩, digits _⟩
        refine List.forall_mem_append.2 ⟨front _ _, ?_⟩
        · split
          · exact List.forall_mem_nil _
          · exact List.forall_mem_cons.2 ⟨point, back _ _⟩
        · split <;> exact numeric_of_all (by decide)

theorem numeric_text (l : Decimal.Layout) (x : Decimal.Binary64) : ∀ c ∈ l.text x, Numeric c := by
  unfold Decimal.Layout.text
  refine List.forall_mem_append.2 ⟨?_, ?_⟩
  · split <;> exact numeric_of_all (by decide)
  · split
    · exact numeric_of_all (by decide)
    · exact numeric_write l x.shortest

/-- A number that its text gives back: an integer of 64 bits, or a floating-point number of which this is so. -/
inductive Number.Exact : Number → Prop where
  | integer {n : Int} (least : -(1 <<< 63 : Nat) ≤ n) (most : n < (1 <<< 64 : Nat)) : Exact (.integer n)
  | float {x : Decimal.Binary64} (exact : Json.read (render (.number (.float x))).toList = .ok (.number (.float x))) :
    Exact (.float x)

theorem toList_render_float (x : Decimal.Binary64) : (render (.number (.float x))).toList = layout.text x :=
  String.toList_ofList

/-- Whether a floating-point number is read back from its own text. -/
def readsBack (x : Decimal.Binary64) : Bool :=
  match Json.read (layout.text x) with
  | .ok (.number (.float y)) => y == x
  | _ => false

theorem Number.Exact.of_readsBack {x : Decimal.Binary64} (back : readsBack x = true) : (Number.float x).Exact := by
  refine .float ?_
  rw [toList_render_float]
  unfold readsBack at back
  split at back
  · rename_i read
    rw [read, beq_iff_eq.1 back]
  · cases back

/-- A text in the characters of numbers that is read as a number spells it. -/
theorem spells_of_read {n : Number} (numeric : ∀ c ∈ cs, Numeric c) (reads : Json.read cs = .ok (.number n)) :
    SpellsValue embeds depth cs (.number n) := by
  cases cs with
  | nil => cases reads
  | cons c cs =>
    rw [Json.read, readValue_numeric (numeric c List.mem_cons_self)] at reads
    obtain ⟨back, scalar, blank⟩ := finish_eq_ok_iff.1 reads
    obtain ⟨text, split, spells⟩ := spells_of_readScalar scalar
    -- Blanks are no characters of numbers, so nothing is left behind the number.
    have none : back = [] := by
      refine List.eq_nil_iff_forall_not_mem.2 fun c mem => (numeric c ?_).solid (blank c mem)
      rw [split]
      exact List.mem_append_right _ mem
    rw [split, none, List.append_nil]
    exact spells

/-- A number is spelled by its text. -/
theorem Number.Exact.spells {n : Number} (exact : n.Exact) : SpellsValue embeds depth n.write (.number n) := by
  cases exact with
  | @integer n least most =>
    cases n with
    | ofNat n =>
      have small : (n : Int) < (1 <<< 64 : Nat) := most
      exact .number (.positive (spellsSize_toDigits (value?_natural (by omega))))
    | negSucc n => exact .number (.negative (spellsSize_toDigits (value?_negative (by omega) (by omega))))
  | @float x exact =>
    rw [toList_render_float] at exact
    exact spells_of_read (numeric_text _ x) exact

end TokenAuthority.Json
