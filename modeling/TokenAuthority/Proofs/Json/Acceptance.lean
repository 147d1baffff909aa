import TokenAuthority.Proofs.Json.Lists
import TokenAuthority.Proofs.Json.Members

/-!
# Values as readers take them

The reader of values takes exactly what is written as a value of at most as many levels as it is given, and gives back
the value that is written.
-/

namespace TokenAuthority.Json

variable {cs rest left front back text name inside : List Char} {c : Char} {s key : String} {v : Json}
  {fuel depth : Nat}

/-! ### Values without parts -/

theorem readScalar_digit (digit : c.isDigit = true) : readScalar false (c :: cs) =
    (do let (n, rest) ← readNumber false false (c :: cs); return (.number n, rest)) := by
  unfold readScalar
  split
  case h_7 same =>
    cases same
    exact if_pos digit
  all_goals
    rename_i same
    cases same
    try cases digit

theorem spells_of_readScalar {embeds : Bool} (reads : readScalar false cs = .ok (v, rest)) :
    ∃ text, cs = text ++ rest ∧ SpellsValue embeds depth text v := by
  unfold readScalar at reads
  split at reads
  · cases reads
  · obtain ⟨_, literal, same⟩ := Except.bind_eq_ok_iff.1 reads
    cases same
    obtain rfl := readLiteral_eq_ok_iff.1 literal
    exact ⟨_, rfl, .null⟩
  · obtain ⟨_, literal, same⟩ := Except.bind_eq_ok_iff.1 reads
    cases same
    obtain rfl := readLiteral_eq_ok_iff.1 literal
    exact ⟨_, rfl, .yes⟩
  · obtain ⟨_, literal, same⟩ := Except.bind_eq_ok_iff.1 reads
    cases same
    obtain rfl := readLiteral_eq_ok_iff.1 literal
    exact ⟨_, rfl, .no⟩
  · obtain ⟨⟨s, left⟩, string, same⟩ := Except.bind_eq_ok_iff.1 reads
    cases same
    obtain ⟨written, rfl, inside⟩ := spells_of_readText string
    exact ⟨'"' :: (written ++ ['"']), by simp, .text (.of .nil inside .nil)⟩
  · obtain ⟨⟨n, left⟩, number, same⟩ := Except.bind_eq_ok_iff.1 reads
    cases same
    obtain ⟨text, rfl, size⟩ := spells_of_readNumber number
    exact ⟨_, rfl, .number (.negative size)⟩
  · split at reads
    · obtain ⟨⟨n, left⟩, number, same⟩ := Except.bind_eq_ok_iff.1 reads
      cases same
      obtain ⟨text, split, size⟩ := spells_of_readNumber number
      exact ⟨_, split, .number (.positive size)⟩
    · cases reads

theorem readValue_eq_readScalar {fuel depth : Nat} (solid : c ∉ [' ', '\n', '\t', '\r']) (bracket : c ≠ '[')
    (brace : c ≠ '{') : readValue false (fuel + 1) depth (c :: cs) = readScalar false (c :: cs) := by
  rw [readValue, skipBlanks_cons solid]
  split
  · rename_i same
    cases same
    exact absurd rfl bracket
  · rename_i same
    cases same
    exact absurd rfl brace
  · rfl

/-- A value that starts with a character of a number is a scalar. -/
theorem readValue_numeric {fuel depth : Nat} (numeric : Numeric c) :
    readValue false (fuel + 1) depth (c :: cs) = readScalar false (c :: cs) := by
  refine readValue_eq_readScalar numeric.solid ?_ ?_
  · rintro rfl
    exact absurd numeric (by decide)
  · rintro rfl
    exact absurd numeric (by decide)

theorem readValue_append (blank : Blank front) :
    readValue false fuel depth (front ++ cs) = readValue false fuel depth cs := by
  cases fuel with
  | zero => rfl
  | succ fuel => rw [readValue, readValue, skipBlanks_append blank]

theorem SpellsSize.exists_cons {negative : Bool} {n : Number} (spells : SpellsSize negative text n) :
    ∃ c cs, text = c :: cs ∧ c.isDigit = true := by
  obtain ⟨digits, leading, after, shift, value⟩ := spells
  obtain ⟨c, cs, rfl, digit⟩ := digits.exists_cons
  exact ⟨c, _, rfl, digit⟩

theorem readValue_of_spellsNumber {n : Number} (spells : SpellsNumber text n) (stops : Stops rest) :
    readValue false (fuel + 1) depth (text ++ rest) = .ok (.number n, rest) := by
  cases spells with
  | positive size =>
    have reads := size.read stops
    obtain ⟨c, cs, rfl, digit⟩ := size.exists_cons
    rw [List.cons_append, readValue_numeric (.inl digit), readScalar_digit digit]
    exact Except.bind_eq_ok_iff.2 ⟨_, reads, rfl⟩
  | negative size =>
    rw [List.cons_append, readValue_eq_readScalar (by decide) (by decide) (by decide)]
    exact Except.bind_eq_ok_iff.2 ⟨_, size.read stops, rfl⟩

theorem readValue_of_spellsString (spells : SpellsString text s) (rest : List Char) : ∃ left,
    readValue false (fuel + 1) depth (text ++ rest) = .ok (.text s, left) ∧ skipBlanks left = skipBlanks rest := by
  obtain @⟨front, written, back, s, before, inside, after⟩ := spells
  refine ⟨back ++ rest, ?_, skipBlanks_append after⟩
  rw [List.append_assoc, readValue_append before, List.cons_append,
    readValue_eq_readScalar (by decide) (by decide) (by decide), List.append_assoc, List.cons_append]
  refine Except.bind_eq_ok_iff.2 ⟨_, readText_of_spellsText [] inside, ?_⟩
  simp only [List.reverse_nil, List.nil_append, String.ofList_toList]
  rfl

/-! ### Objects -/

/-- What the reader of an object does with a key and the text after it. -/
def addMember (value : List Char → Except Fault (Json × List Char)) (done : Members) (key : String) (cs : List Char) :
    Except Fault (Members × List Char) := do
  let (x, rest) ← value (← readColon cs)
  return (insertMember key x done, rest)

theorem readBody_eq : readBody false value fuel cs = readMembers false (addMember value) fuel true [] cs := rfl

/-- A member whose value is written in some way is added to those before it. -/
inductive Adds (writes : List Char → Json → Prop) : Members → Entry → Members → Prop where
  | of {members : Members} {e : Entry} (spells : writes e.text e.value) :
    Adds writes members e (insertMember e.key e.value members)

variable {value : List Char → Except Fault (Json × List Char)} {writes : List Char → Json → Prop}
  {members result : Members} {entries : List Entry}

theorem Runs.adds (runs : Runs (Adds writes) members entries result) :
    result = insertAll members (entries.map Entry.member) ∧ ∀ e ∈ entries, writes e.text e.value := by
  induction runs with
  | nil => exact ⟨rfl, List.forall_mem_nil _⟩
  | cons first others ih =>
    cases first with
    | of spells => exact ⟨ih.1, List.forall_mem_cons.2 ⟨spells, ih.2⟩⟩

theorem Runs.of_writes (all : ∀ e ∈ entries, writes e.text e.value) :
    Runs (Adds writes) members entries (insertAll members (entries.map Entry.member)) := by
  induction entries generalizing members with
  | nil => exact .nil
  | cons e entries ih =>
    obtain ⟨first, others⟩ := List.forall_mem_cons.1 all
    exact .cons (.of first) (ih others)

theorem addMember_stepsOnly (sound : TakesOnly writes value) (pads : Pads writes) :
    StepsOnly (Adds writes) (addMember value) where
  steps reads := by
    obtain ⟨more, colon, reads⟩ := Except.bind_eq_ok_iff.1 reads
    obtain ⟨⟨v, left⟩, own, same⟩ := Except.bind_eq_ok_iff.1 reads
    cases same
    obtain ⟨front, before, rfl⟩ := colon_of_readColon colon
    obtain ⟨text, rfl, spells⟩ := sound own
    exact ⟨front, text, v, before, rfl, fun after => .of (pads .nil after spells)⟩

theorem addMember_stepsAll : StepsAll (Adds (TakesText value)) (addMember value) where
  reads steps blank stops := by
    cases steps with
    | of takes =>
      obtain ⟨left, reads, same⟩ := takes.takes stops
      exact ⟨left, Except.bind_eq_ok_iff.2 ⟨_, readColon_append blank _, Except.bind_eq_ok_iff.2 ⟨_, reads, rfl⟩⟩, same⟩

/-! ### Embedded texts -/

theorem afterEmbeddingKey?_of_spells (spells : SpellsString name key) (rest : List Char) :
    ∃ left, skipBlanks left = skipBlanks rest ∧
      afterEmbeddingKey? (name ++ rest) = if key = embeddingKey then some left else none := by
  obtain @⟨front, written, back, key, before, inside, after⟩ := spells
  refine ⟨back ++ rest, skipBlanks_append after, ?_⟩
  have key : readText false [] (written ++ '"' :: (back ++ rest)) = _ := readText_of_spellsText [] inside
  rw [afterEmbeddingKey?, List.append_assoc, skipBlanks_append before, List.cons_append, skipBlanks_cons (by decide),
    List.append_assoc, List.cons_append]
  simp only [key, List.reverse_nil, List.nil_append, String.ofList_toList]

theorem spells_of_afterEmbeddingKey? (embedded : afterEmbeddingKey? cs = some rest) :
    ∃ name, cs = name ++ rest ∧ SpellsString name embeddingKey := by
  obtain ⟨front, before, split⟩ := exists_skipBlanks cs
  unfold afterEmbeddingKey? at embedded
  split at embedded
  · rename_i tail quote
    split at embedded
    · rename_i key left string
      split at embedded
      · rename_i same
        cases embedded
        obtain ⟨written, rfl, inside⟩ := spells_of_readText string
        refine ⟨front ++ '"' :: (written ++ ['"']), ?_, .of before (same ▸ inside) .nil⟩
        rw [split, quote]
        simp
      · cases embedded
    · cases embedded
  · cases embedded

/-- An object that is not taken for an embedded text has another first key, if it has any. -/
theorem plain_of_afterEmbeddingKey? {entries : List Entry} (joined : Joined Entry.written inside entries)
    (keys : ∀ e ∈ entries, SpellsString e.name e.key) (plain : afterEmbeddingKey? (inside ++ rest) = none) :
    ∀ e ∈ entries.head?, e.key ≠ embeddingKey := by
  cases joined with
  | none blank => nofun
  | some some =>
    obtain ⟨e, others, rfl⟩ := List.exists_cons_of_ne_nil some
    rintro _ ⟨⟩ same
    rw [intercalate_map_cons, Entry.written, List.append_assoc, List.append_assoc] at plain
    obtain ⟨left, -, found⟩ := afterEmbeddingKey?_of_spells (keys e List.mem_cons_self) _
    rw [if_pos same, plain] at found
    cases found

theorem afterEmbeddingKey?_of_plain {entries : List Entry} (joined : Joined Entry.written inside entries)
    (keys : ∀ e ∈ entries, SpellsString e.name e.key) (plain : ∀ e ∈ entries.head?, e.key ≠ embeddingKey) :
    afterEmbeddingKey? (inside ++ '}' :: rest) = none := by
  cases joined with
  | none blank =>
    rw [afterEmbeddingKey?, skipBlanks_append blank, skipBlanks_cons (by decide)]
    rfl
  | some some =>
    obtain ⟨e, others, rfl⟩ := List.exists_cons_of_ne_nil some
    rw [intercalate_map_cons, Entry.written, List.append_assoc, List.append_assoc]
    obtain ⟨left, -, found⟩ := afterEmbeddingKey?_of_spells (keys e List.mem_cons_self) _
    rw [found, if_neg (plain e rfl)]

theorem blank_of_readClosing (reads : readClosing cs = .ok rest) : ∃ back, Blank back ∧ cs = back ++ '}' :: rest := by
  obtain ⟨back, after, split⟩ := exists_skipBlanks cs
  unfold readClosing at reads
  split at reads
  · cases reads
  · rename_i tail brace
    cases reads
    exact ⟨back, after, by rw [split, brace]⟩
  · cases reads

/-! ### Values -/

theorem SpellsOptional.spellsValue {embeds : Bool} {o : Option String} (spells : SpellsOptional text o) :
    SpellsValue embeds depth text ((o.map Json.text).getD .null) := by
  cases spells with
  | null before after => exact .padded before after .null
  | text string => exact .text string

theorem SpellsValue.pads : Pads (SpellsValue true depth) := fun before after spells => .padded before after spells

theorem spells_of_finish {text : List Char} (sound : TakesOnly (SpellsValue true depth) (readValue false fuel depth))
    (reads : finish (readValue false fuel depth text) = .ok v) : SpellsValue true depth text v := by
  obtain ⟨back, own, after⟩ := finish_eq_ok_iff.1 reads
  obtain ⟨text, rfl, spells⟩ := sound own
  exact .padded .nil after spells

/-- What the reader of values takes is written as a value. -/
theorem spells_of_readValue (fuel depth : Nat) : TakesOnly (SpellsValue true depth) (readValue false fuel depth) := by
  -- Embedded texts start again at the full depth, so the induction is on the fuel for all depths.
  induction fuel generalizing depth with
  | zero => nofun
  | succ fuel ih =>
    intro cs v rest reads
    obtain ⟨front, before, split⟩ := exists_skipBlanks cs
    suffices ∃ text, skipBlanks cs = text ++ rest ∧ SpellsValue true depth text v by
      obtain ⟨text, own, spells⟩ := this
      exact ⟨front ++ (text ++ []), by rw [split, own]; simp, .padded before .nil spells⟩
    rw [readValue] at reads
    split at reads
    · rename_i tail bracket
      split at reads
      · cases reads
      · rename_i depth
        obtain ⟨⟨items, left⟩, array, same⟩ := Except.bind_eq_ok_iff.1 reads
        cases same
        obtain ⟨inside, parts, joined, rfl, all, rfl⟩ := joined_of_readItems (ih depth) SpellsValue.pads array
        exact ⟨'[' :: (inside ++ [']']), by rw [bracket]; simp, .array joined all⟩
    · rename_i tail brace
      split at reads
      · cases reads
      · rename_i depth
        simp only [Bool.false_eq_true, if_false] at reads
        split at reads
        · rename_i more embedded
          obtain ⟨afterColon, colon, reads⟩ := Except.bind_eq_ok_iff.1 reads
          obtain ⟨⟨inner, afterString⟩, string, reads⟩ := Except.bind_eq_ok_iff.1 reads
          dsimp only at reads
          split at reads
          · rename_i value own
            obtain ⟨left, closing, same⟩ := Except.bind_eq_ok_iff.1 reads
            cases same
            obtain ⟨name, rfl, key⟩ := spells_of_afterEmbeddingKey? embedded
            obtain ⟨middle, between, rfl⟩ := colon_of_readColon colon
            obtain ⟨back, after, rfl⟩ := blank_of_readClosing closing
            obtain ⟨text, rfl, spells⟩ := spells_of_readString string
            have key := key.padded .nil between
            have string := spells.padded .nil after
            refine ⟨'{' :: ((name ++ middle) ++ ':' :: ((text ++ back) ++ ['}'])), by rw [brace]; simp, ?_⟩
            exact .embedded rfl key string (spells_of_finish (ih depthLimit) own)
          · cases reads
        · rename_i plain
          obtain ⟨⟨members, left⟩, body, same⟩ := Except.bind_eq_ok_iff.1 reads
          cases same
          rw [readBody_eq] at body
          obtain ⟨inside, entries, joined, rfl, keys, runs⟩ :=
            joined_of_readMembers (addMember_stepsOnly (ih depth) SpellsValue.pads) body
          obtain ⟨rfl, values⟩ := runs.adds
          refine ⟨'{' :: (inside ++ ['}']), by rw [brace]; simp, .object joined keys (fun _ => ?_) values⟩
          exact plain_of_afterEmbeddingKey? joined keys plain
    · exact spells_of_readScalar reads

/-- What is written as a value opens with a character that no value ends with. -/
theorem SpellsValue.opens {embeds : Bool} (spells : SpellsValue embeds depth text v) :
    ∃ c cs, skipBlanks text = c :: cs ∧ Opens c := by
  induction spells with
  | null => exact ⟨'n', _, rfl, .inr (by decide)⟩
  | yes => exact ⟨'t', _, rfl, .inr (by decide)⟩
  | no => exact ⟨'f', _, rfl, .inr (by decide)⟩
  | number number =>
    cases number with
    | positive size =>
      obtain ⟨c, cs, rfl, digit⟩ := size.exists_cons
      have opens : Opens c := .inl (.inl digit)
      exact ⟨c, cs, skipBlanks_cons opens.solid, opens⟩
    | negative size => exact ⟨'-', _, skipBlanks_cons (by decide), .inl (by decide)⟩
  | text string =>
    obtain ⟨before, inside, after⟩ := string
    exact ⟨'"', _, (skipBlanks_append before).trans (skipBlanks_cons (by decide)), .inr (by decide)⟩
  | array joined all => exact ⟨'[', _, skipBlanks_cons (by decide), .inr (by decide)⟩
  | object joined keys plain values => exact ⟨'{', _, skipBlanks_cons (by decide), .inr (by decide)⟩
  | embedded allowed key string inside => exact ⟨'{', _, skipBlanks_cons (by decide), .inr (by decide)⟩
  | padded before after between ih =>
    obtain ⟨c, cs, own, opens⟩ := ih
    exact ⟨c, _, by rw [skipBlanks_append before, skipBlanks_append_of_ne_nil (by simp [own]), own, List.cons_append],
      opens⟩

theorem readValue_skipBlanks (cs : List Char) :
    readValue false fuel depth (skipBlanks cs) = readValue false fuel depth cs := by
  obtain ⟨front, before, split⟩ := exists_skipBlanks cs
  have whole : readValue false fuel depth (front ++ skipBlanks cs) = readValue false fuel depth (skipBlanks cs) :=
    readValue_append before
  rw [← split] at whole
  exact whole.symm

theorem SpellsString.length_le (spells : SpellsString text s) : s.toList.length ≤ text.length := by
  have inside {written text : List Char} (spells : SpellsText written text) : text.length ≤ written.length := by
    induction spells with
    | nil => exact Nat.le_refl 0
    | cons first others ih =>
      have one := first.length_pos
      rw [List.length_append, List.length_cons]
      omega
  obtain ⟨before, written, after⟩ := spells
  have shorter := inside written
  rw [List.length_append, List.length_cons, List.length_append, List.length_cons]
  omega

/-- A value is read however it is written, with fuel beyond the length of its text. -/
theorem readValue_of_spells (spells : SpellsValue true depth text v) (enough : text.length ≤ fuel)
    (stops : Stops rest) : ∃ left,
      readValue false (fuel + 1) depth (text ++ rest) = .ok (v, left) ∧ skipBlanks left = skipBlanks rest := by
  induction spells generalizing fuel rest with
  | null => exact ⟨rest, readValue_eq_readScalar (by decide) (by decide) (by decide), rfl⟩
  | yes => exact ⟨rest, readValue_eq_readScalar (by decide) (by decide) (by decide), rfl⟩
  | no => exact ⟨rest, readValue_eq_readScalar (by decide) (by decide) (by decide), rfl⟩
  | number number => exact ⟨rest, readValue_of_spellsNumber number stops, rfl⟩
  | text string => exact readValue_of_spellsString string rest
  | @array depth inside parts joined all ih =>
    rw [List.length_cons, List.length_append, List.length_singleton] at enough
    obtain ⟨fuel, rfl⟩ := Nat.exists_eq_succ_of_ne_zero (show fuel ≠ 0 by omega)
    have few := joined.length_le
    have takes : ∀ part ∈ parts, TakesText (readValue false (fuel + 1) depth) part.1 part.2 := by
      intro part mem
      have shorter := joined.length_le_of_mem mem
      exact .of_opens (all part mem).opens (ih part mem (by omega))
    have reads : readItems (readValue false (fuel + 1) depth) (fuel + 1) [] (inside ++ ']' :: rest) = .ok (_, rest) :=
      readItems_of_joined readValue_skipBlanks joined takes (by omega)
    refine ⟨rest, ?_, rfl⟩
    rw [List.cons_append, List.append_assoc, readValue, skipBlanks_cons (by decide)]
    exact Except.bind_eq_ok_iff.2 ⟨_, reads, rfl⟩
  | @object depth inside entries joined keys plain values ih =>
    rw [List.length_cons, List.length_append, List.length_singleton] at enough
    obtain ⟨fuel, rfl⟩ := Nat.exists_eq_succ_of_ne_zero (show fuel ≠ 0 by omega)
    have few := joined.length_le
    have takes : ∀ e ∈ entries, TakesText (readValue false (fuel + 1) depth) e.text e.value := by
      intro e mem
      have shorter := joined.length_le_of_mem mem
      rw [Entry.written, List.length_append, List.length_cons] at shorter
      exact .of_opens (values e mem).opens (ih e mem (by omega))
    have reads : readBody false (readValue false (fuel + 1) depth) (fuel + 1) (inside ++ '}' :: rest) = .ok (_, rest) :=
      readMembers_of_joined addMember_stepsAll joined (.of_writes takes) keys (by omega)
    have own : afterEmbeddingKey? (inside ++ (['}'] ++ rest)) = none :=
      afterEmbeddingKey?_of_plain joined keys (plain rfl)
    refine ⟨rest, ?_, rfl⟩
    rw [List.cons_append, List.append_assoc, readValue, skipBlanks_cons (by decide)]
    simp only [own, Bool.false_eq_true, if_false]
    exact Except.bind_eq_ok_iff.2 ⟨_, reads, rfl⟩
  | @embedded depth name text inner value allowed key string inside ih =>
    simp only [List.length_cons, List.length_append] at enough
    obtain ⟨fuel, rfl⟩ := Nat.exists_eq_succ_of_ne_zero (show fuel ≠ 0 by omega)
    have shorter := string.length_le
    obtain ⟨afterKey, same, found⟩ := afterEmbeddingKey?_of_spells key (':' :: (text ++ ['}'] ++ rest))
    obtain ⟨afterString, reads, same'⟩ := readString_of_spells string ('}' :: rest)
    obtain ⟨left, own, ends⟩ := ih (show inner.toList.length ≤ fuel by omega) Stops.nil
    have colon : readColon afterKey = .ok (text ++ '}' :: rest) := by
      rw [readColon, same, skipBlanks_cons (by decide), List.append_assoc]
      rfl
    have whole : finish (readValue false (fuel + 1) depthLimit inner.toList) = .ok value := by
      rw [List.append_nil] at own
      exact finish_eq_ok_iff.2 ⟨left, own, skipBlanks_eq_nil_iff.1 ends⟩
    have closing : readClosing afterString = .ok rest := by
      rw [readClosing, same', skipBlanks_cons (by decide)]
      rfl
    refine ⟨rest, ?_, rfl⟩
    rw [List.cons_append, List.append_assoc, List.cons_append, readValue, skipBlanks_cons (by decide)]
    simp only [found, Bool.false_eq_true, if_false, if_true]
    refine Except.bind_eq_ok_iff.2 ⟨_, colon, Except.bind_eq_ok_iff.2 ⟨_, reads, ?_⟩⟩
    rw [whole]
    exact Except.bind_eq_ok_iff.2 ⟨_, closing, rfl⟩
  | padded before after between ih =>
    rw [List.length_append, List.length_append] at enough
    obtain ⟨left, reads, same⟩ := ih (show _ ≤ fuel by omega) (stops.blank_append after)
    exact ⟨left, by rw [List.append_assoc, readValue_append before, List.append_assoc, reads],
      same.trans (skipBlanks_append after)⟩

/-- A text writes one value at most. -/
theorem SpellsValue.unique {w : Json} (spells : SpellsValue true depth text v)
    (spells' : SpellsValue true depth text w) : v = w := by
  obtain ⟨left, reads, -⟩ := readValue_of_spells spells (Nat.le_refl _) Stops.nil
  obtain ⟨left', reads', -⟩ := readValue_of_spells spells' (Nat.le_refl _) Stops.nil
  rw [reads] at reads'
  cases reads'
  rfl

theorem SpellsObject.readObject {entries : List Entry} (object : SpellsObject true depth text entries) :
    finish (readObject (depth + 1) text) = .ok (sorted (entries.map Entry.member)) := by
  obtain @⟨front, inside, back, entries, before, joined, keys, values, after⟩ := object
  refine finish_eq_ok_iff.2 ⟨back, ?_, after⟩
  have few := joined.length_le
  unfold Json.readObject
  rw [skipBlanks_append before, skipBlanks_cons (by decide)]
  refine readMembers_of_joined addMember_stepsAll joined (.of_writes fun e mem => ?_) keys ?_
  · have shorter := joined.length_le_of_mem mem
    refine .of_opens (values e mem).opens (readValue_of_spells (values e mem) ?_)
    simp only [Entry.written, List.length_append, List.length_cons] at shorter ⊢
    omega
  · simp only [List.length_append, List.length_cons]
    omega

/-- A text writes one object at most. -/
theorem SpellsObject.unique {entries others : List Entry} (object : SpellsObject true depth text entries)
    (object' : SpellsObject true depth text others) :
    sorted (entries.map Entry.member) = sorted (others.map Entry.member) := by
  have reads := object.readObject
  rw [object'.readObject] at reads
  exact (Except.ok.inj reads).symm

end TokenAuthority.Json
