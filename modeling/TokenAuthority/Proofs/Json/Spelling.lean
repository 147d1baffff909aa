import Mathlib.Data.List.TakeWhile
import TokenAuthority.Proofs.Except
import TokenAuthority.Proofs.Json.Grammar
import TokenAuthority.Proofs.Text.Utf8

/-!
# Strings and numbers as readers take them

What the readers of strings and of numbers take from a text is written as the grammar says, and what is written so they
take. The reader of a number takes all that can belong to it, so something else must follow.
-/

namespace TokenAuthority.Json

open Text

variable {cs rest left front back written digits : List Char} {c : Char} {n : Nat} {s : String}

/-! ### Blanks -/

theorem Blank.nil : Blank [] := nofun

theorem Blank.append (before : Blank front) (after : Blank back) : Blank (front ++ back) :=
  List.forall_mem_append.2 ⟨before, after⟩

theorem skipBlanks_cons (solid : c ∉ [' ', '\n', '\t', '\r']) : skipBlanks (c :: cs) = c :: cs := by
  simp only [List.mem_cons, List.not_mem_nil, or_false, not_or] at solid
  simp [skipBlanks, solid]

theorem isBlank_iff : (c == ' ' || c == '\n' || c == '\t' || c == '\r') = true ↔ c ∈ [' ', '\n', '\t', '\r'] := by
  simp [or_assoc]

theorem skipBlanks_append (blank : Blank front) : skipBlanks (front ++ cs) = skipBlanks cs :=
  List.dropWhile_append_of_pos fun c mem => isBlank_iff.2 (blank c mem)

theorem skipBlanks_eq_nil_iff : skipBlanks cs = [] ↔ Blank cs :=
  List.dropWhile_eq_nil_iff.trans (forall₂_congr fun _ _ => isBlank_iff)

theorem exists_skipBlanks (cs : List Char) : ∃ front, Blank front ∧ cs = front ++ skipBlanks cs := by
  refine ⟨_, fun c mem => ?_, List.takeWhile_append_dropWhile.symm⟩
  have blank := List.mem_takeWhile_imp mem
  exact isBlank_iff.1 blank

theorem finish_eq_ok_iff {α : Type} {a : α} {result : Except Fault (α × List Char)} :
    finish result = .ok a ↔ ∃ back, result = .ok (a, back) ∧ Blank back := by
  constructor
  · intro finishes
    unfold finish at finishes
    split at finishes
    · cases finishes
    · split at finishes
      · rename_i blank
        cases finishes
        exact ⟨_, rfl, skipBlanks_eq_nil_iff.1 blank⟩
      · cases finishes
  · rintro ⟨back, rfl, blank⟩
    exact if_pos (skipBlanks_eq_nil_iff.2 blank)

/-! ### Literals -/

theorem readLiteral_eq_ok_iff {literal : List Char} : readLiteral literal cs = .ok rest ↔ cs = literal ++ rest := by
  induction literal generalizing cs with
  | nil => exact ⟨fun same => Except.ok.inj same, fun same => congrArg Except.ok same⟩
  | cons e es ih =>
    cases cs with
    | nil => exact ⟨nofun, nofun⟩
    | cons c cs =>
      rw [readLiteral, List.cons_append, List.cons.injEq]
      split
      · rename_i same
        rw [ih]
        exact (and_iff_right same).symm
      · rename_i other
        exact ⟨nofun, fun same => (other same.1).elim⟩

/-! ### Characters of strings -/

theorem length_le_size (cs : List Char) : cs.length ≤ Utf8.size cs := by
  rw [Utf8.size_eq_length]
  induction cs with
  | nil => exact Nat.le_refl 0
  | cons c cs ih =>
    have positive := c.utf8Size_pos
    rw [Utf8.encode, List.flatMap_cons, List.length_append, String.length_utf8EncodeChar, ← Utf8.encode,
      List.length_cons]
    omega

theorem readHex_eq_ok_iff : readHex cs = .ok n ↔ ∃ digits rest, cs = digits ++ rest ∧ CodeUnit digits n := by
  constructor
  · intro reads
    refine ⟨cs.take 4, cs.drop 4, (List.take_append_drop 4 cs).symm, ?_⟩
    unfold readHex at reads
    split at reads
    · cases reads
    · split at reads
      · rename_i number
        split at reads
        · rename_i four
          cases reads
          exact ⟨four, number⟩
        · cases reads
      · cases reads
  · rintro ⟨digits, rest, rfl, unit⟩
    have front : (digits ++ rest).take 4 = digits := by rw [← unit.four, List.take_left]
    have long : ¬Utf8.size digits < 4 := by
      have least := length_le_size digits
      rw [unit.four] at least
      omega
    rw [readHex, front, if_neg long]
    simp [unit.number, unit.four]

theorem readEscape_short {mark : Char} (known : (mark, c) ∈ shortMarks) (cs : List Char) :
    readEscape false (mark :: cs) = .ok (c, 1) := by
  simp only [shortMarks, List.mem_cons, Prod.mk.injEq, List.not_mem_nil, or_false] at known
  rcases known with ⟨rfl, rfl⟩ | ⟨rfl, rfl⟩ | ⟨rfl, rfl⟩ | ⟨rfl, rfl⟩ | ⟨rfl, rfl⟩ | ⟨rfl, rfl⟩ | ⟨rfl, rfl⟩ |
    ⟨rfl, rfl⟩ <;> rfl

theorem readHex_append (unit : CodeUnit digits n) : readHex (digits ++ rest) = .ok n :=
  readHex_eq_ok_iff.2 ⟨digits, rest, rfl, unit⟩

theorem readLowSurrogate_of_unit {high low : Nat} (unit : CodeUnit digits low) (lower : 0xDC00 ≤ low ∧ low ≤ 0xDFFF) :
    readLowSurrogate high ('\\' :: 'u' :: (digits ++ rest)) = .ok (surrogatePair high low, 6) := by
  rw [readLowSurrogate, readHex_append unit]
  exact if_pos lower

theorem readLowSurrogate_eq_ok {high taken : Nat} (reads : readLowSurrogate high cs = .ok (c, taken)) :
    ∃ digits rest low, cs = '\\' :: 'u' :: (digits ++ rest) ∧ CodeUnit digits low ∧
      (0xDC00 ≤ low ∧ low ≤ 0xDFFF) ∧ c = surrogatePair high low ∧ taken = 6 := by
  unfold readLowSurrogate at reads
  split at reads
  · cases reads
  · cases reads
  · obtain ⟨low, number, pairs⟩ := Except.bind_eq_ok_iff.1 reads
    obtain ⟨digits, rest, rfl, unit⟩ := readHex_eq_ok_iff.1 number
    split at pairs
    · rename_i lower
      obtain ⟨same, six⟩ := Prod.mk.inj (Except.ok.inj pairs)
      exact ⟨digits, rest, low, rfl, unit, lower, same.symm, six.symm⟩
    · cases pairs
  · cases reads

theorem isWhole_iff : (false || decide (n < 0xD800) || decide (0xDFFF < n)) = true ↔ n < 0xD800 ∨ 0xDFFF < n := by
  simp

/-- What follows a backslash is read as it is written. -/
theorem readEscape_of_spells (spells : Spells ('\\' :: front) c) :
    readEscape false (front ++ rest) = .ok (c, front.length) := by
  generalize escaped : '\\' :: front = text at spells
  cases spells with
  | plain visible quote backslash =>
    cases escaped
    exact (backslash rfl).elim
  | short known =>
    cases escaped
    exact readEscape_short known rest
  | @unit digits n unit whole =>
    cases escaped
    rw [List.cons_append, readEscape, readHex_append unit, List.length_cons, unit.four]
    exact if_pos (isWhole_iff.2 whole)
  | @pair first second high low unit unit' upper lower =>
    cases escaped
    have drops : (first ++ ('\\' :: 'u' :: (second ++ rest))).drop 4 = '\\' :: 'u' :: (second ++ rest) := by
      rw [← unit.four, List.drop_left]
    have long : ('u' :: (first ++ '\\' :: 'u' :: second)).length = 11 := by simp [unit.four, unit'.four]
    rw [long, List.cons_append, List.append_assoc, List.cons_append, List.cons_append, readEscape]
    refine Except.bind_eq_ok_iff.2 ⟨high, readHex_append unit, ?_⟩
    rw [if_neg (by rw [isWhole_iff]; omega), if_neg (by omega), drops, readLowSurrogate_of_unit unit' lower]
    rfl

theorem spells_of_readEscape {taken : Nat} (reads : readEscape false cs = .ok (c, taken)) :
    ∃ front, cs = front ++ cs.drop taken ∧ Spells ('\\' :: front) c := by
  unfold readEscape at reads
  split at reads
  case h_10 rest =>
    obtain ⟨n, number, escapes⟩ := Except.bind_eq_ok_iff.1 reads
    obtain ⟨digits, left, rfl, unit⟩ := readHex_eq_ok_iff.1 number
    have drops : (digits ++ left).drop 4 = left := by rw [← unit.four, List.drop_left]
    split at escapes
    · rename_i whole
      cases escapes
      refine ⟨'u' :: digits, ?_, .unit unit (isWhole_iff.1 whole)⟩
      rw [List.drop_succ_cons, drops, List.cons_append]
    · rename_i surrogate
      rw [isWhole_iff] at surrogate
      split at escapes
      · cases escapes
      · rename_i upper
        obtain ⟨⟨d, more⟩, lower, same⟩ := Except.bind_eq_ok_iff.1 escapes
        obtain ⟨rfl, rfl⟩ := Prod.mk.inj (Except.ok.inj same)
        obtain ⟨digits', rest, low, pairs, unit', range, character, six⟩ := readLowSurrogate_eq_ok lower
        rw [drops] at pairs
        subst pairs six
        rw [character]
        refine ⟨'u' :: (digits ++ '\\' :: 'u' :: digits'), ?_, .pair unit unit' (by omega) range⟩
        have long : ('u' :: (digits ++ '\\' :: 'u' :: digits')).length = 5 + 6 := by simp [unit.four, unit'.four]
        have whole : 'u' :: (digits ++ '\\' :: 'u' :: (digits' ++ rest)) =
            'u' :: (digits ++ '\\' :: 'u' :: digits') ++ rest := by simp
        rw [← long, whole, List.drop_left]
  case h_1 | h_11 => cases reads
  all_goals
    cases reads
    exact ⟨[_], rfl, .short (by decide)⟩

/-! ### Strings -/

theorem readText_escaped {taken : Nat} (done : List Char) (reads : readEscape false cs = .ok (c, taken)) :
    readText false done ('\\' :: cs) = readText false (c :: done) (cs.drop taken) := by
  rw [readText, reads]

theorem readText_plain (done : List Char) (quote : c ≠ '"') (backslash : c ≠ '\\') (visible : ¬c.toNat < 32) :
    readText false done (c :: cs) = readText false (c :: done) cs := by
  rw [readText]
  · exact if_neg visible
  · exact quote
  · exact backslash

theorem Spells.plain_or_escaped (spells : Spells front c) :
    (front = [c] ∧ ¬c.toNat < 32 ∧ c ≠ '"' ∧ c ≠ '\\') ∨ ∃ escaped, front = '\\' :: escaped := by
  cases spells with
  | plain visible quote backslash => exact .inl ⟨rfl, visible, quote, backslash⟩
  | short known => exact .inr ⟨_, rfl⟩
  | unit unit whole => exact .inr ⟨_, rfl⟩
  | pair unit unit' upper lower => exact .inr ⟨_, rfl⟩

theorem Spells.length_pos (spells : Spells front c) : 0 < front.length := by
  rcases spells.plain_or_escaped with ⟨rfl, -⟩ | ⟨escaped, rfl⟩ <;> exact Nat.succ_pos _

/-- A character is read however it is written. -/
theorem readText_of_spells (done : List Char) (spells : Spells front c) :
    readText false done (front ++ rest) = readText false (c :: done) rest := by
  rcases spells.plain_or_escaped with ⟨rfl, visible, quote, backslash⟩ | ⟨escaped, rfl⟩
  · exact readText_plain done quote backslash visible
  · rw [List.cons_append, readText_escaped done (readEscape_of_spells spells), List.drop_left]

theorem readText_of_spellsText (done : List Char) {text : List Char} (spells : SpellsText written text) :
    readText false done (written ++ '"' :: rest) = .ok (String.ofList (done.reverse ++ text), rest) := by
  induction spells generalizing done with
  | nil => simp [readText]
  | cons first others ih =>
    rw [List.append_assoc, readText_of_spells done first, ih, List.reverse_cons, List.append_assoc,
      List.singleton_append]

theorem spellsText_of_readText {done : List Char} (reads : readText false done cs = .ok (s, rest)) : ∃ written text,
    cs = written ++ '"' :: rest ∧ SpellsText written text ∧ s = String.ofList (done.reverse ++ text) := by
  fun_induction readText false done cs with
  | case1 done => cases reads
  | case2 done rest =>
    cases reads
    exact ⟨[], [], rfl, .nil, by simp⟩
  | case3 => cases reads
  | case4 done rest c taken escapes ih =>
    obtain ⟨front, split, spells⟩ := spells_of_readEscape escapes
    obtain ⟨written, text, left, others, rfl⟩ := ih reads
    refine ⟨'\\' :: front ++ written, c :: text, ?_, .cons spells others, by simp⟩
    rw [split, left, List.cons_append, List.cons_append, List.append_assoc]
  | case5 done c rest quote backslash control => cases reads
  | case6 done c rest quote backslash visible ih =>
    obtain ⟨written, text, rfl, others, rfl⟩ := ih reads
    exact ⟨c :: written, c :: text, rfl, .cons (.plain visible quote backslash) others, by simp⟩

theorem SpellsString.padded {text : List Char} (before : Blank front) (after : Blank back)
    (spells : SpellsString text s) : SpellsString (front ++ (text ++ back)) s := by
  obtain ⟨inner, inside, outer⟩ := spells
  have whole := SpellsString.of (before.append inner) inside (outer.append after)
  simpa using whole

theorem readString_of_spells {text : List Char} (spells : SpellsString text s) (rest : List Char) : ∃ left,
    readString (text ++ rest) = .ok (s, left) ∧ skipBlanks left = skipBlanks rest := by
  obtain @⟨front, written, back, s, before, inside, after⟩ := spells
  refine ⟨back ++ rest, ?_, skipBlanks_append after⟩
  rw [readString, List.append_assoc, skipBlanks_append before, List.cons_append, skipBlanks_cons (by decide)]
  show readText false [] ((written ++ '"' :: back) ++ rest) = _
  rw [List.append_assoc, List.cons_append, readText_of_spellsText [] inside, List.reverse_nil, List.nil_append,
    String.ofList_toList]

/-- The reader of a string after its opening quote takes a string that is written so. -/
theorem spells_of_readText (reads : readText false [] cs = .ok (s, rest)) :
    ∃ written, cs = written ++ '"' :: rest ∧ SpellsText written s.toList := by
  obtain ⟨written, text, rfl, spells, rfl⟩ := spellsText_of_readText reads
  exact ⟨written, rfl, by simpa using spells⟩

theorem spells_of_readString (reads : readString cs = .ok (s, rest)) :
    ∃ text, cs = text ++ rest ∧ SpellsString text s := by
  obtain ⟨front, before, split⟩ := exists_skipBlanks cs
  unfold readString at reads
  split at reads
  · rename_i tail quote
    obtain ⟨written, rfl, inside⟩ := spells_of_readText reads
    refine ⟨front ++ '"' :: (written ++ ['"']), ?_, .of before inside .nil⟩
    rw [split, quote]
    simp
  · cases reads

theorem SpellsOptional.padded {text : List Char} {email : Option String} (before : Blank front) (after : Blank back)
    (spells : SpellsOptional text email) : SpellsOptional (front ++ (text ++ back)) email := by
  cases spells with
  | null inner outer =>
    have whole := SpellsOptional.null (before.append inner) (outer.append after)
    simpa using whole
  | text string => exact .text (string.padded before after)

theorem readString_skipBlanks (cs : List Char) : readString (skipBlanks cs) = readString cs := by
  obtain ⟨front, before, split⟩ := exists_skipBlanks cs
  have same : skipBlanks cs = skipBlanks (skipBlanks cs) := (congrArg skipBlanks split).trans (skipBlanks_append before)
  rw [readString, readString, ← same]

theorem readString?_of_spells {text : List Char} {email : Option String} (spells : SpellsOptional text email)
    (rest : List Char) : ∃ left,
      readString? (text ++ rest) = .ok (email, left) ∧ skipBlanks left = skipBlanks rest := by
  cases spells with
  | @null front back before after =>
    refine ⟨back ++ rest, ?_, skipBlanks_append after⟩
    rw [readString?, List.append_assoc, skipBlanks_append before]
    rfl
  | text string =>
    obtain ⟨left, reads, same⟩ := readString_of_spells string rest
    refine ⟨left, ?_, same⟩
    rw [← readString_skipBlanks] at reads
    obtain @⟨front, written, back, s, before, inside, after⟩ := string
    rw [List.append_assoc, skipBlanks_append before, List.cons_append, skipBlanks_cons (by decide)] at reads
    rw [readString?, List.append_assoc, skipBlanks_append before, List.cons_append, skipBlanks_cons (by decide)]
    exact Except.bind_eq_ok_iff.2 ⟨_, reads, rfl⟩

theorem spells_of_readString? {email : Option String} (reads : readString? cs = .ok (email, rest)) :
    ∃ text, cs = text ++ rest ∧ SpellsOptional text email := by
  obtain ⟨front, before, split⟩ := exists_skipBlanks cs
  unfold readString? at reads
  split at reads
  · rename_i tail null
    obtain ⟨left, literal, same⟩ := Except.bind_eq_ok_iff.1 reads
    cases same
    obtain rfl := readLiteral_eq_ok_iff.1 literal
    refine ⟨front ++ ("null".toList ++ []), ?_, .null before .nil⟩
    rw [split, null]
    simp
  · obtain ⟨⟨s, left⟩, string, same⟩ := Except.bind_eq_ok_iff.1 reads
    cases same
    rw [readString_skipBlanks] at string
    obtain ⟨text, rfl, spells⟩ := spells_of_readString string
    exact ⟨text, rfl, .text spells⟩

/-! ### Numbers -/

/-- What follows a text does not go on with a number. -/
def Stops (rest : List Char) : Prop := ∀ c ∈ rest.head?, c.isDigit = false ∧ c ∉ ['.', 'e', 'E']

theorem Stops.nil : Stops [] := nofun

theorem Stops.cons (delimits : c ∈ [',', ']', '}', ' ', '\n', '\t', '\r']) : Stops (c :: rest) := by
  rintro _ ⟨⟩
  simp only [List.mem_cons, List.not_mem_nil, or_false] at delimits
  rcases delimits with rfl | rfl | rfl | rfl | rfl | rfl | rfl <;> decide

theorem Stops.blank_append (blank : Blank back) (stops : Stops rest) : Stops (back ++ rest) := by
  cases back with
  | nil => exact stops
  | cons c back => exact .cons (List.mem_append_right [',', ']', '}'] (blank c List.mem_cons_self))

/-- What follows goes on with neither the digits nor the fraction of a number. -/
def Pauses (rest : List Char) : Prop := ∀ c ∈ rest.head?, c.isDigit = false ∧ c ≠ '.'

theorem Stops.pauses (stops : Stops rest) : Pauses rest := by
  intro c mem
  obtain ⟨other, none⟩ := stops c mem
  exact ⟨other, fun same => none (same ▸ List.mem_cons_self)⟩

theorem Pauses.takeWhile_isDigit (pauses : Pauses rest) : rest.takeWhile Char.isDigit = [] := by
  cases rest with
  | nil => rfl
  | cons c rest => exact List.takeWhile_cons_of_neg (by simp [(pauses c rfl).1])

theorem Pauses.readFraction (pauses : Pauses rest) : readFraction false rest = .ok (none, rest) := by
  cases rest with
  | nil => rfl
  | cons c rest =>
    have other := (pauses c rfl).2
    unfold Json.readFraction
    split
    · rename_i same
      cases same
      exact (other rfl).elim
    · rfl

theorem Stops.readExponent (stops : Stops rest) : readExponent false rest = .ok (none, rest) := by
  cases rest with
  | nil => rfl
  | cons c rest =>
    have other := (stops c rfl).2
    simp only [List.mem_cons, List.not_mem_nil, or_false, not_or] at other
    exact if_neg (by simp [other])

theorem digits_of_readDigits (reads : readDigits false cs = .ok (digits, rest)) :
    cs = digits ++ rest ∧ Digits digits := by
  unfold readDigits at reads
  dsimp only at reads
  split at reads
  · cases reads
  · rename_i some
    cases reads
    exact ⟨(List.prefix_iff_eq_append.1 (List.takeWhile_prefix _)).symm, some, fun c mem => List.mem_takeWhile_imp mem⟩

theorem spells_of_readFraction {fraction : Option (List Char)} (reads : readFraction false cs = .ok (fraction, rest)) :
    ∃ point, cs = point ++ rest ∧ SpellsFraction point fraction := by
  unfold readFraction at reads
  split at reads
  · obtain ⟨⟨digits, left⟩, read, same⟩ := Except.bind_eq_ok_iff.1 reads
    cases same
    obtain ⟨rfl, digits⟩ := digits_of_readDigits read
    exact ⟨_, rfl, .digits digits⟩
  · cases reads
    exact ⟨[], rfl, .absent⟩

theorem power_of_readPower {negative : Bool} {exponent : Option Int}
    (reads : readPower false negative cs = .ok (exponent, rest)) : ∃ digits, cs = digits ++ rest ∧ Digits digits ∧
      exponent = some (if negative then -(Nat.ofDigitChars 10 digits 0 : Int) else Nat.ofDigitChars 10 digits 0) := by
  obtain ⟨⟨digits, left⟩, read, same⟩ := Except.bind_eq_ok_iff.1 reads
  cases same
  obtain ⟨rfl, digits⟩ := digits_of_readDigits read
  exact ⟨_, rfl, digits, rfl⟩

theorem spells_of_readExponent {exponent : Option Int} (reads : readExponent false cs = .ok (exponent, rest)) :
    ∃ power, cs = power ++ rest ∧ SpellsExponent power exponent := by
  unfold readExponent at reads
  split at reads
  · split at reads
    · rename_i mark
      split at reads
      all_goals
        obtain ⟨digits, rfl, all, rfl⟩ := power_of_readPower reads
      · exact ⟨_, rfl, .plus mark all⟩
      · exact ⟨_, rfl, .minus mark all⟩
      · exact ⟨_, rfl, .bare mark all⟩
    · cases reads
      exact ⟨[], rfl, .absent⟩
  · cases reads
    exact ⟨[], rfl, .absent⟩

/-- The reader of a number takes one that is written so. -/
theorem spells_of_readNumber {negative : Bool} {n : Number} (reads : readNumber false negative cs = .ok (n, rest)) :
    ∃ text, cs = text ++ rest ∧ SpellsSize negative text n := by
  obtain ⟨⟨whole, afterWhole⟩, digits, reads⟩ := Except.bind_eq_ok_iff.1 reads
  dsimp only at reads
  split at reads
  · cases reads
  · rename_i leading
    obtain ⟨-, -, reads⟩ := Except.bind_eq_ok_iff.1 reads
    obtain ⟨⟨fraction, afterFraction⟩, point, reads⟩ := Except.bind_eq_ok_iff.1 reads
    obtain ⟨⟨exponent, afterExponent⟩, power, reads⟩ := Except.bind_eq_ok_iff.1 reads
    dsimp only at reads
    split at reads
    · rename_i value
      cases reads
      obtain ⟨rfl, all⟩ := digits_of_readDigits digits
      obtain ⟨point, rfl, after⟩ := spells_of_readFraction point
      obtain ⟨power, rfl, shift⟩ := spells_of_readExponent power
      exact ⟨_, by simp, .of all leading after shift value⟩
    · cases reads

/-- The reader of digits stops where they end. -/
theorem readDigits_append (all : ∀ c ∈ digits, c.isDigit = true) (some : digits ≠ [])
    (stops : rest.takeWhile Char.isDigit = []) : readDigits false (digits ++ rest) = .ok (digits, rest) := by
  have taken : (digits ++ rest).takeWhile Char.isDigit = digits := by
    rw [List.takeWhile_append_of_pos all, stops, List.append_nil]
  unfold readDigits
  rw [taken]
  simp [some]

theorem Digits.read {ds : List Char} (digits : Digits ds) (stops : rest.takeWhile Char.isDigit = []) :
    readDigits false (ds ++ rest) = .ok (ds, rest) := readDigits_append digits.all digits.some stops

theorem Digits.exists_cons {ds : List Char} (digits : Digits ds) : ∃ c cs, ds = c :: cs ∧ c.isDigit = true := by
  obtain ⟨c, cs, rfl⟩ := List.exists_cons_of_ne_nil digits.some
  exact ⟨c, cs, rfl, digits.all c List.mem_cons_self⟩

theorem SpellsExponent.read {power : List Char} {exponent : Option Int} (spells : SpellsExponent power exponent)
    (stops : Stops rest) : readExponent false (power ++ rest) = .ok (exponent, rest) := by
  have powers {ds : List Char} (negative : Bool) (digits : Digits ds) : readPower false negative (ds ++ rest) =
      .ok (some (if negative then -(Nat.ofDigitChars 10 ds 0 : Int) else Nat.ofDigitChars 10 ds 0), rest) :=
    Except.bind_eq_ok_iff.2 ⟨_, digits.read stops.pauses.takeWhile_isDigit, rfl⟩
  cases spells with
  | absent => exact stops.readExponent
  | plus mark digits => exact (if_pos mark).trans (powers false digits)
  | minus mark digits => exact (if_pos mark).trans (powers true digits)
  | bare mark digits =>
    refine (if_pos mark).trans ?_
    have read := powers false digits
    obtain ⟨c, cs, rfl, digit⟩ := digits.exists_cons
    rw [List.append_eq, List.cons_append] at *
    split
    · rename_i same
      cases same
      exact absurd digit (by decide)
    · rename_i same
      cases same
      exact absurd digit (by decide)
    · exact read

theorem SpellsExponent.pauses {power : List Char} {exponent : Option Int} (spells : SpellsExponent power exponent)
    (stops : Stops rest) : Pauses (power ++ rest) := by
  have letter {e : Char} {cs : List Char} (mark : e = 'e' ∨ e = 'E') : Pauses (e :: cs) := by
    rintro _ ⟨⟩
    rcases mark with rfl | rfl <;> decide
  cases spells with
  | absent => exact stops.pauses
  | plus mark digits => exact letter mark
  | minus mark digits => exact letter mark
  | bare mark digits => exact letter mark

theorem SpellsFraction.takeWhile_isDigit {point : List Char} {fraction : Option (List Char)}
    (spells : SpellsFraction point fraction) (pauses : Pauses rest) : (point ++ rest).takeWhile Char.isDigit = [] := by
  cases spells with
  | absent => exact pauses.takeWhile_isDigit
  | digits digits => rfl

theorem SpellsFraction.read {point : List Char} {fraction : Option (List Char)} (spells : SpellsFraction point fraction)
    (pauses : Pauses rest) : readFraction false (point ++ rest) = .ok (fraction, rest) := by
  cases spells with
  | absent => exact pauses.readFraction
  | digits digits => exact Except.bind_eq_ok_iff.2 ⟨_, digits.read pauses.takeWhile_isDigit, rfl⟩

/-- A number is read part by part, and then it has a value. -/
theorem readNumber_of_parts {whole afterWhole afterFraction : List Char} {fraction : Option (List Char)}
    {exponent : Option Int} {n : Number} (reads : readDigits false cs = .ok (whole, afterWhole))
    (leading : ¬(whole.head? = some '0' ∧ 1 < whole.length))
    (point : readFraction false afterWhole = .ok (fraction, afterFraction))
    (power : readExponent false afterFraction = .ok (exponent, rest))
    (value : NumberText.value? ⟨negative, whole, fraction, exponent⟩ = some n) :
    readNumber false negative cs = .ok (n, rest) := by
  simp [readNumber, reads, point, power, leading, value, bind, Except.bind, pure, Except.pure]

/-- A number is read however it is written, if nothing follows that could belong to it. -/
theorem SpellsSize.read {negative : Bool} {text : List Char} {n : Number} (spells : SpellsSize negative text n)
    (stops : Stops rest) : readNumber false negative (text ++ rest) = .ok (n, rest) := by
  obtain ⟨digits, leading, after, shift, value⟩ := spells
  rw [List.append_assoc, List.append_assoc]
  have pauses := shift.pauses stops
  exact readNumber_of_parts (digits.read (after.takeWhile_isDigit pauses)) leading (after.read pauses)
    (shift.read stops) value

end TokenAuthority.Json
