import TokenAuthority.Proofs.Json.Spelling

/-!
# Items and members as readers take them

What stands between two brackets is read one by one, with commas in between. This is shown here for any reader of the
things themselves, so that it serves arrays, objects and records whose members are read each in its own way.
-/

namespace TokenAuthority.Json

variable {cs rest left front back text inside : List Char} {c : Char} {v : Json} {fuel : Nat}

/-! ### Lists with commas -/

theorem intercalate_cons (first : List Char) (others : List (List Char)) :
    [','].intercalate (first :: others) = first ++ others.flatMap (',' :: ·) := by
  induction others generalizing first with
  | nil => simp
  | cons next others ih =>
    rw [List.intercalate_cons_cons, ih, List.flatMap_cons, List.append_assoc, List.singleton_append, List.cons_append]

variable {ι : Type} {written : ι → List Char} {item : ι} {items : List ι}

theorem intercalate_map_cons (written : ι → List Char) (item : ι) (items : List ι) :
    [','].intercalate ((item :: items).map written) =
      written item ++ items.flatMap fun item => ',' :: written item := by
  rw [List.map_cons, intercalate_cons, List.flatMap_map]

theorem Joined.cons (written : ι → List Char) (item : ι) (items : List ι) :
    Joined written (written item ++ items.flatMap fun item => ',' :: written item) (item :: items) := by
  rw [← intercalate_map_cons]
  exact .some (List.cons_ne_nil _ _)

theorem length_le_length_flatMap_comma {α : Type} (text : α → List Char) (others : List α) :
    others.length ≤ (others.flatMap fun other => ',' :: text other).length := by
  induction others with
  | nil => exact Nat.le_refl 0
  | cons other others ih =>
    rw [List.flatMap_cons, List.length_append, List.length_cons, List.length_cons]
    omega

theorem length_le_of_mem_flatMap_comma {α : Type} (text : α → List Char) {others : List α} {other : α}
    (mem : other ∈ others) : (text other).length ≤ (others.flatMap fun other => ',' :: text other).length := by
  obtain ⟨before, after, rfl⟩ := List.append_of_mem mem
  simp only [List.flatMap_append, List.flatMap_cons, List.length_append, List.length_cons]
  omega

theorem Joined.length_le (joined : Joined written inside items) : items.length ≤ inside.length + 1 := by
  cases joined with
  | none blank => exact Nat.zero_le _
  | some some =>
    obtain ⟨item, items, rfl⟩ := List.exists_cons_of_ne_nil some
    have others := length_le_length_flatMap_comma written items
    rw [intercalate_map_cons, List.length_append, List.length_cons]
    omega

theorem Joined.length_le_of_mem (joined : Joined written inside items) (mem : item ∈ items) :
    (written item).length ≤ inside.length := by
  cases joined with
  | none blank => cases mem
  | some some =>
    obtain ⟨first, others, rfl⟩ := List.exists_cons_of_ne_nil some
    rw [intercalate_map_cons, List.length_append]
    cases mem with
    | head => exact Nat.le_add_right _ _
    | tail _ mem => exact (length_le_of_mem_flatMap_comma written mem).trans (Nat.le_add_left _ _)

theorem Stops.flatMap_comma (written : ι → List Char) (items : List ι) (closes : c = ']' ∨ c = '}') :
    Stops ((items.flatMap fun item => ',' :: written item) ++ c :: rest) := by
  cases items with
  | nil => exact .cons (by rcases closes with rfl | rfl <;> decide)
  | cons item items => exact .cons List.mem_cons_self

/-! ### Items -/

/-- The characters in the text of a floating-point number. -/
def Numeric (c : Char) : Prop := c.isDigit = true ∨ c ∈ ['-', '.', 'e', '+']

instance (c : Char) : Decidable (Numeric c) := inferInstanceAs (Decidable (_ ∨ _))

theorem Numeric.solid (numeric : Numeric c) : c ∉ [' ', '\n', '\t', '\r'] := by
  intro blank
  simp only [List.mem_cons, List.not_mem_nil, or_false] at blank
  rcases blank with rfl | rfl | rfl | rfl <;> exact absurd numeric (by decide)

/-- A character that a value starts with. -/
def Opens (c : Char) : Prop := Numeric c ∨ c ∈ ['n', 't', 'f', '"', '[', '{']

theorem Opens.solid (opens : Opens c) : c ∉ [' ', '\n', '\t', '\r'] := by
  rcases opens with numeric | mem
  · exact numeric.solid
  · simp only [List.mem_cons, List.not_mem_nil, or_false] at mem
    rcases mem with rfl | rfl | rfl | rfl | rfl | rfl <;> decide

theorem Opens.ne_bracket (opens : Opens c) : c ≠ ']' := by
  rintro rfl
  rcases opens with numeric | mem
  · exact absurd numeric (by decide)
  · exact absurd mem (by decide)

/-- A way to write values in which blanks around a text mean nothing. -/
def Pads (writes : List Char → Json → Prop) : Prop :=
  ∀ {front text back v}, Blank front → Blank back → writes text v → writes (front ++ (text ++ back)) v

/-- A reader of values takes only texts that are written in some way. -/
def TakesOnly (writes : List Char → Json → Prop) (value : List Char → Except Fault (Json × List Char)) : Prop :=
  ∀ {cs v rest}, value cs = .ok (v, rest) → ∃ text, cs = text ++ rest ∧ writes text v

/-- A reader of values takes a text in front of any other that stops it, up to the blanks after the text. The text
starts with something other than the bracket that closes an array. -/
structure TakesText (value : List Char → Except Fault (Json × List Char)) (text : List Char) (v : Json) : Prop where
  opens : ∃ c cs, skipBlanks text = c :: cs ∧ c ≠ ']'
  takes : ∀ {rest}, Stops rest → ∃ left, value (text ++ rest) = .ok (v, left) ∧ skipBlanks left = skipBlanks rest

variable {value : List Char → Except Fault (Json × List Char)} {writes : List Char → Json → Prop}
  {done result : List Json} {parts : List (List Char × Json)}

theorem TakesText.of_opens (opens : ∃ c cs, skipBlanks text = c :: cs ∧ Opens c)
    (takes : ∀ {rest}, Stops rest → ∃ left, value (text ++ rest) = .ok (v, left) ∧ skipBlanks left = skipBlanks rest) :
    TakesText value text v := by
  obtain ⟨c, cs, own, opens⟩ := opens
  exact ⟨⟨c, cs, own, opens.ne_bracket⟩, takes⟩

theorem parts_of_readItems (sound : TakesOnly writes value) (pads : Pads writes)
    (reads : readItems value fuel done cs = .ok (result, rest)) (some : done ≠ []) :
    ∃ (front : List Char) (parts : List (List Char × Json)), Blank front ∧
      cs = front ++ ((parts.flatMap fun part => ',' :: part.1) ++ ']' :: rest) ∧
      (∀ part ∈ parts, writes part.1 part.2) ∧ result = done.reverse ++ parts.map Prod.snd := by
  induction fuel generalizing done cs with
  | zero => cases reads
  | succ fuel ih =>
    obtain ⟨front, before, split⟩ := exists_skipBlanks cs
    have filled : done.isEmpty = false := List.isEmpty_eq_false_iff.2 some
    rw [readItems] at reads
    split at reads
    · cases reads
    · rename_i tail bracket
      cases reads
      exact ⟨front, [], before, by rw [split, bracket]; rfl, List.forall_mem_nil _, by simp⟩
    · rename_i c tail _ solid
      rw [if_neg (by rw [filled]; decide)] at reads
      split at reads
      · rename_i comma
        subst comma
        obtain ⟨front', before', split'⟩ := exists_skipBlanks tail
        split at reads
        · cases reads
        · cases reads
        · obtain ⟨⟨x, more⟩, item, reads⟩ := Except.bind_eq_ok_iff.1 reads
          obtain ⟨text, own, spells⟩ := sound item
          obtain ⟨back, parts, after, others, all, rfl⟩ := ih reads (List.cons_ne_nil _ _)
          refine ⟨front, (front' ++ (text ++ back), x) :: parts, before, ?_,
            List.forall_mem_cons.2 ⟨pads before' after spells, all⟩, by simp⟩
          rw [split, solid, split', own, others]
          simp
      · cases reads

/-- The items of an array are taken as they are written. -/
theorem joined_of_readItems (sound : TakesOnly writes value) (pads : Pads writes)
    (reads : readItems value fuel [] cs = .ok (result, rest)) :
    ∃ (inside : List Char) (parts : List (List Char × Json)), Joined Prod.fst inside parts ∧
      cs = inside ++ ']' :: rest ∧ (∀ part ∈ parts, writes part.1 part.2) ∧ result = parts.map Prod.snd := by
  cases fuel with
  | zero => cases reads
  | succ fuel =>
    obtain ⟨front, before, split⟩ := exists_skipBlanks cs
    rw [readItems] at reads
    split at reads
    · cases reads
    · rename_i tail bracket
      cases reads
      exact ⟨front, [], .none before, by rw [split, bracket], List.forall_mem_nil _, rfl⟩
    · rename_i c tail _ solid
      rw [if_pos List.isEmpty_nil] at reads
      obtain ⟨⟨x, more⟩, item, reads⟩ := Except.bind_eq_ok_iff.1 reads
      obtain ⟨text, own, spells⟩ := sound item
      obtain ⟨back, parts, after, others, all, rfl⟩ := parts_of_readItems sound pads reads (List.cons_ne_nil _ _)
      refine ⟨_, (front ++ (text ++ back), x) :: parts, .cons Prod.fst _ parts, ?_,
        List.forall_mem_cons.2 ⟨pads before after spells, all⟩, by simp⟩
      rw [split, solid, own, others]
      simp

theorem readItems_congr (same : skipBlanks cs = skipBlanks left) :
    readItems value fuel done cs = readItems value fuel done left := by
  cases fuel with
  | zero => rfl
  | succ fuel => rw [readItems, readItems, same]

theorem skipBlanks_append_of_ne_nil (solid : skipBlanks cs ≠ []) : skipBlanks (cs ++ rest) = skipBlanks cs ++ rest := by
  rw [skipBlanks, List.dropWhile_append, if_neg (by simpa [skipBlanks] using solid), ← skipBlanks]

theorem readItems_text (blind : ∀ cs, value (skipBlanks cs) = value cs) (takes : TakesText value text v)
    (stops : Stops rest) : readItems value (fuel + 1) [] (text ++ rest) = readItems value fuel [v] rest := by
  obtain ⟨left, reads, same⟩ := takes.takes stops
  obtain ⟨c, cs, opens, open'⟩ := takes.opens
  rw [← blind, skipBlanks_append_of_ne_nil (by simp [opens]), opens, List.cons_append] at reads
  rw [readItems, skipBlanks_append_of_ne_nil (by simp [opens]), opens, List.cons_append]
  split
  · rename_i empty
    cases empty
  · rename_i bracket
    cases bracket
    exact (open' rfl).elim
  · rename_i solid
    cases solid
    rw [if_pos List.isEmpty_nil, reads]
    exact readItems_congr same

theorem readItems_comma_text (blind : ∀ cs, value (skipBlanks cs) = value cs) (takes : TakesText value text v)
    (stops : Stops rest) (some : done ≠ []) :
    readItems value (fuel + 1) done (',' :: (text ++ rest)) = readItems value fuel (v :: done) rest := by
  obtain ⟨left, reads, same⟩ := takes.takes stops
  obtain ⟨c, cs, opens, open'⟩ := takes.opens
  have filled : done.isEmpty = false := List.isEmpty_eq_false_iff.2 some
  rw [← blind, skipBlanks_append_of_ne_nil (by simp [opens]), opens, List.cons_append] at reads
  rw [readItems, skipBlanks_cons (by decide)]
  split
  · rename_i empty
    cases empty
  · rename_i bracket
    cases bracket
  · rename_i solid
    cases solid
    rw [if_neg (by rw [filled]; decide), if_pos rfl, skipBlanks_append_of_ne_nil (by simp [opens]), opens,
      List.cons_append]
    split
    · rename_i empty
      cases empty
    · rename_i bracket
      cases bracket
      exact (open' rfl).elim
    · rw [reads]
      exact readItems_congr same

theorem readItems_parts (blind : ∀ cs, value (skipBlanks cs) = value cs)
    (takes : ∀ part ∈ parts, TakesText value part.1 part.2) (some : done ≠ []) (enough : parts.length < fuel) :
    readItems value fuel done ((parts.flatMap fun part => ',' :: part.1) ++ ']' :: rest) =
      .ok (done.reverse ++ parts.map Prod.snd, rest) := by
  induction parts generalizing fuel done with
  | nil =>
    obtain ⟨fuel, rfl⟩ := Nat.exists_eq_add_of_lt enough
    simp [readItems, skipBlanks_cons]
  | cons part parts ih =>
    obtain ⟨fuel, rfl⟩ := Nat.exists_eq_succ_of_ne_zero (Nat.ne_of_gt (Nat.zero_lt_of_lt enough))
    have first := takes part List.mem_cons_self
    have others := fun other mem => takes other (List.mem_cons_of_mem _ mem)
    rw [List.flatMap_cons, List.cons_append, List.cons_append, List.append_assoc,
      readItems_comma_text blind first (.flatMap_comma Prod.fst parts (.inl rfl)) some,
      ih others (List.cons_ne_nil _ _) (Nat.lt_of_succ_lt_succ enough)]
    simp

/-- The items of an array are read however they are written. -/
theorem readItems_of_joined (blind : ∀ cs, value (skipBlanks cs) = value cs) (joined : Joined Prod.fst inside parts)
    (takes : ∀ part ∈ parts, TakesText value part.1 part.2) (enough : parts.length < fuel) :
    readItems value fuel [] (inside ++ ']' :: rest) = .ok (parts.map Prod.snd, rest) := by
  obtain ⟨fuel, rfl⟩ := Nat.exists_eq_succ_of_ne_zero (Nat.ne_of_gt (Nat.zero_lt_of_lt enough))
  cases joined with
  | none blank =>
    rw [readItems, skipBlanks_append blank, skipBlanks_cons (by decide)]
    rfl
  | some some =>
    obtain ⟨part, parts, rfl⟩ := List.exists_cons_of_ne_nil some
    have first := takes part List.mem_cons_self
    have others := fun other mem => takes other (List.mem_cons_of_mem _ mem)
    rw [intercalate_map_cons, List.append_assoc,
      readItems_text blind first (.flatMap_comma Prod.fst parts (.inl rfl)),
      readItems_parts blind others (List.cons_ne_nil _ _) (Nat.lt_of_succ_lt_succ enough)]
    rfl

/-! ### Members -/

theorem readColon_append (blank : Blank back) (cs : List Char) : readColon (back ++ ':' :: cs) = .ok cs := by
  rw [readColon, skipBlanks_append blank, skipBlanks_cons (by decide)]
  rfl

theorem colon_of_readColon (reads : readColon cs = .ok rest) : ∃ front, Blank front ∧ cs = front ++ ':' :: rest := by
  obtain ⟨front, before, split⟩ := exists_skipBlanks cs
  unfold readColon at reads
  split at reads
  · cases reads
  · rename_i tail colon
    cases reads
    exact ⟨front, before, by rw [split, colon]⟩
  · cases reads

/-- A member with blanks around its key and around its value. -/
def Entry.padded (front back : List Char) (e : Entry) : Entry :=
  { e with name := front ++ e.name, text := e.text ++ back }

theorem Entry.written_padded (e : Entry) (front back : List Char) :
    (e.padded front back).written = front ++ (e.written ++ back) := by
  simp [Entry.padded, Entry.written]

/-- Members change a state one after the other. -/
inductive Runs {σ : Type} (step : σ → Entry → σ → Prop) : σ → List Entry → σ → Prop where
  | nil {s : σ} : Runs step s [] s
  | cons {s s' s'' : σ} {e : Entry} {es : List Entry} (first : step s e s') (others : Runs step s' es s'') :
    Runs step s (e :: es) s''

section

variable {σ : Type} {member : σ → String → List Char → Except Fault (σ × List Char)} {step : σ → Entry → σ → Prop}
  {s s' : σ} {e : Entry} {entries : List Entry}

/-- What a reader of members does after a key is a step, whatever blanks are around the member. -/
structure StepsOnly (step : σ → Entry → σ → Prop) (member : σ → String → List Char → Except Fault (σ × List Char)) :
    Prop where
  steps : ∀ {s key cs s' rest}, member s key cs = .ok (s', rest) → ∃ front text v, Blank front ∧
    cs = front ++ ':' :: (text ++ rest) ∧ ∀ {name back}, Blank back → step s ⟨name, key, text ++ back, v⟩ s'

/-- A reader of members makes every step, up to the blanks after the member. -/
structure StepsAll (step : σ → Entry → σ → Prop) (member : σ → String → List Char → Except Fault (σ × List Char)) :
    Prop where
  reads : ∀ {s e s' back rest}, step s e s' → Blank back → Stops rest →
    ∃ left, member s e.key (back ++ ':' :: (e.text ++ rest)) = .ok (s', left) ∧ skipBlanks left = skipBlanks rest

theorem entry_of_readKey (sound : StepsOnly step member) (reads : readKey false (member s) cs = .ok (s', rest)) :
    ∃ e : Entry, cs = e.written ++ rest ∧ SpellsString e.name e.key ∧
      ∀ {front back}, Blank back → step s (e.padded front back) s' := by
  unfold readKey at reads
  split at reads
  · cases reads
  · rename_i tail
    obtain ⟨⟨key, more⟩, string, reads⟩ := Except.bind_eq_ok_iff.1 reads
    obtain ⟨written, split, inside⟩ := spells_of_readText string
    obtain ⟨front, text, v, before, rfl, steps⟩ := sound.steps reads
    refine ⟨⟨'"' :: (written ++ '"' :: front), key, text, v⟩, ?_, .of .nil inside before, fun after => steps after⟩
    rw [split]
    simp [Entry.written]
  · cases reads

theorem entries_of_readMembers (sound : StepsOnly step member)
    (reads : readMembers false member fuel false s cs = .ok (s', rest)) :
    ∃ (front : List Char) (entries : List Entry), Blank front ∧
      cs = front ++ ((entries.flatMap fun e => ',' :: e.written) ++ '}' :: rest) ∧
      (∀ e ∈ entries, SpellsString e.name e.key) ∧ Runs step s entries s' := by
  induction fuel generalizing s cs with
  | zero => cases reads
  | succ fuel ih =>
    obtain ⟨front, before, split⟩ := exists_skipBlanks cs
    rw [readMembers] at reads
    split at reads
    · cases reads
    · rename_i tail brace
      cases reads
      exact ⟨front, [], before, by rw [split, brace]; rfl, List.forall_mem_nil _, .nil⟩
    · rename_i c tail _ solid
      rw [if_neg (by decide)] at reads
      split at reads
      · rename_i comma
        subst comma
        obtain ⟨front', before', split'⟩ := exists_skipBlanks tail
        obtain ⟨⟨s'', more⟩, key, reads⟩ := Except.bind_eq_ok_iff.1 reads
        obtain ⟨e, own, spells, steps⟩ := entry_of_readKey sound key
        obtain ⟨back, entries, after, others, keys, runs⟩ := ih reads
        refine ⟨front, e.padded front' back :: entries, before, ?_,
          List.forall_mem_cons.2 ⟨?_, keys⟩, .cons (steps after) runs⟩
        · rw [split, solid, split', own, others, List.flatMap_cons, Entry.written_padded]
          simp
        · simpa [Entry.padded] using spells.padded before' .nil
      · cases reads

/-- The members of an object are taken as they are written. -/
theorem joined_of_readMembers (sound : StepsOnly step member)
    (reads : readMembers false member fuel true s cs = .ok (s', rest)) :
    ∃ (inside : List Char) (entries : List Entry), Joined Entry.written inside entries ∧
      cs = inside ++ '}' :: rest ∧ (∀ e ∈ entries, SpellsString e.name e.key) ∧ Runs step s entries s' := by
  cases fuel with
  | zero => cases reads
  | succ fuel =>
    obtain ⟨front, before, split⟩ := exists_skipBlanks cs
    rw [readMembers] at reads
    split at reads
    · cases reads
    · rename_i tail brace
      cases reads
      exact ⟨front, [], .none before, by rw [split, brace], List.forall_mem_nil _, .nil⟩
    · rename_i c tail _ solid
      rw [if_pos rfl] at reads
      obtain ⟨⟨s'', more⟩, key, reads⟩ := Except.bind_eq_ok_iff.1 reads
      obtain ⟨e, own, spells, steps⟩ := entry_of_readKey sound key
      obtain ⟨back, entries, after, others, keys, runs⟩ := entries_of_readMembers sound reads
      refine ⟨_, e.padded front back :: entries, .cons Entry.written _ entries, ?_,
        List.forall_mem_cons.2 ⟨?_, keys⟩, .cons (steps after) runs⟩
      · rw [split, solid, own, others, Entry.written_padded]
        simp
      · simpa [Entry.padded] using spells.padded before .nil

theorem readMembers_congr {first : Bool} (same : skipBlanks cs = skipBlanks left) :
    readMembers false member fuel first s cs = readMembers false member fuel first s left := by
  cases fuel with
  | zero => rfl
  | succ fuel => rw [readMembers, readMembers, same]

/-- A member begins with the quote of its key. -/
theorem SpellsString.readKey_written (complete : StepsAll step member) (steps : step s e s')
    (spells : SpellsString e.name e.key) (stops : Stops rest) : ∃ cs left,
      skipBlanks (e.written ++ rest) = '"' :: cs ∧ readKey false (member s) ('"' :: cs) = .ok (s', left) ∧
      skipBlanks left = skipBlanks rest := by
  obtain ⟨name, key, text, v⟩ := e
  obtain @⟨front, written, back, _, before, inside, after⟩ := spells
  obtain ⟨left, reads, same⟩ := complete.reads steps after stops
  refine ⟨written ++ '"' :: (back ++ ':' :: (text ++ rest)), left, ?_,
    Except.bind_eq_ok_iff.2 ⟨_, readText_of_spellsText [] inside, ?_⟩, same⟩
  · show skipBlanks ((front ++ '"' :: (written ++ '"' :: back) ++ ':' :: text) ++ rest) = _
    rw [List.append_assoc, List.append_assoc, skipBlanks_append before]
    simp [skipBlanks_cons]
  · simpa using reads

theorem readMembers_written (complete : StepsAll step member) (steps : step s e s')
    (spells : SpellsString e.name e.key) (stops : Stops rest) :
    readMembers false member (fuel + 1) true s (e.written ++ rest) = readMembers false member fuel false s' rest := by
  obtain ⟨cs, left, quote, reads, same⟩ := spells.readKey_written complete steps stops
  rw [readMembers, quote]
  split
  · rename_i empty
    cases empty
  · rename_i brace
    cases brace
  · rename_i solid
    cases solid
    rw [if_pos rfl, reads]
    exact readMembers_congr same

theorem readMembers_comma_written (complete : StepsAll step member) (steps : step s e s')
    (spells : SpellsString e.name e.key) (stops : Stops rest) :
    readMembers false member (fuel + 1) false s (',' :: (e.written ++ rest)) =
      readMembers false member fuel false s' rest := by
  obtain ⟨cs, left, quote, reads, same⟩ := spells.readKey_written complete steps stops
  rw [readMembers, skipBlanks_cons (by decide)]
  split
  · rename_i empty
    cases empty
  · rename_i brace
    cases brace
  · rename_i solid
    cases solid
    rw [if_neg (by decide), if_pos rfl, quote, reads]
    exact readMembers_congr same

theorem readMembers_entries (complete : StepsAll step member) (runs : Runs step s entries s')
    (keys : ∀ e ∈ entries, SpellsString e.name e.key) (enough : entries.length < fuel) :
    readMembers false member fuel false s ((entries.flatMap fun e => ',' :: e.written) ++ '}' :: rest) =
      .ok (s', rest) := by
  induction runs generalizing fuel with
  | nil =>
    obtain ⟨fuel, rfl⟩ := Nat.exists_eq_add_of_lt enough
    simp [readMembers, skipBlanks_cons]
  | @cons s s' s'' e entries first others ih =>
    obtain ⟨fuel, rfl⟩ := Nat.exists_eq_succ_of_ne_zero (Nat.ne_of_gt (Nat.zero_lt_of_lt enough))
    obtain ⟨key, keys⟩ := List.forall_mem_cons.1 keys
    rw [List.flatMap_cons, List.cons_append, List.cons_append, List.append_assoc,
      readMembers_comma_written complete first key (.flatMap_comma Entry.written entries (.inr rfl))]
    exact ih keys (Nat.lt_of_succ_lt_succ enough)

/-- The members of an object are read however they are written. -/
theorem readMembers_of_joined (complete : StepsAll step member) (joined : Joined Entry.written inside entries)
    (runs : Runs step s entries s') (keys : ∀ e ∈ entries, SpellsString e.name e.key)
    (enough : entries.length < fuel) :
    readMembers false member fuel true s (inside ++ '}' :: rest) = .ok (s', rest) := by
  obtain ⟨fuel, rfl⟩ := Nat.exists_eq_succ_of_ne_zero (Nat.ne_of_gt (Nat.zero_lt_of_lt enough))
  cases joined with
  | none blank =>
    cases runs
    rw [readMembers, skipBlanks_append blank, skipBlanks_cons (by decide)]
    rfl
  | some some =>
    cases runs with
    | nil => exact (some rfl).elim
    | @cons _ s' _ e entries first others =>
      obtain ⟨key, keys⟩ := List.forall_mem_cons.1 keys
      rw [intercalate_map_cons, List.append_assoc,
        readMembers_written complete first key (.flatMap_comma Entry.written entries (.inr rfl))]
      exact readMembers_entries complete others keys (Nat.lt_of_succ_lt_succ enough)

end

end TokenAuthority.Json
