import TokenAuthority.Proofs.Store.Log

/-!
# Tokens and their two keys

An access string finds the token of the one insertion that used it, as invalidations and links have left it since;
a refresh string finds the token of the latest insertion that carries it. Records and strings are arbitrary: they
may repeat, links may lead anywhere.

`step_told` says what a store call does, together with what it answers. One operation keeps the log and the store
in agreement (`Agrees.told`), hence so does every sequence of them.
-/

namespace TokenAuthority

variable {log later : List Visit} {visit : Visit} {token current : Token} {m next : Memory} {r a : String}

/-! ### What a store call does and answers -/

namespace Memory

/-- What a store call does to tokens and index, by what it answers. -/
inductive Told (m : Memory) : Visit → Memory → Prop where
  | inserts (token : Token) (next : Memory) (inserted : m.insertToken? token = some next) :
      Told m ⟨.addToken token, .ok ()⟩ next
  | chains (access : String) (token : Token) (middle next : Memory) (chainable : m.chainable access = true)
      (inserted : m.insertToken? token = some middle)
      (tokens : next.tokens = middle.tokens.modify access (Token.withNext token.access))
      (index : next.refreshIndex = middle.refreshIndex) : Told m ⟨.chainToken access token, .ok true⟩ next
  | closes (access : String) (next : Memory) (tokens : next.tokens = m.tokens.modify access Token.invalidated)
      (index : next.refreshIndex = m.refreshIndex) : Told m ⟨.invalidateToken access, .ok true⟩ next
  | spares (visit : Visit) (next : Memory) (tokens : next.tokens = m.tokens)
      (index : next.refreshIndex = m.refreshIndex) (inserted : visit.inserted? = none)
      (linked : visit.linked? = none) (closed : visit.closed? = none)
      (refuses : visit.call.refused visit.answer = true → next = m) : Told m visit next

theorem step_told (m : Memory) (now : Instant) (call : StoreCall) :
    m.Told ⟨call, (m.step now call).1⟩ (m.step now call).2 := by
  cases call with
  | addToken token =>
    simp only [step]
    split
    · rename_i inserted
      exact .inserts token _ inserted
    · exact .spares _ _ rfl rfl rfl rfl rfl fun _ => rfl
  | chainToken access token =>
    simp only [step]
    split
    · rename_i chainable
      split
      · rename_i inserted
        exact .chains access token _ _ chainable inserted rfl rfl
      · exact .spares _ _ rfl rfl rfl rfl rfl fun _ => rfl
    · exact .spares _ _ rfl rfl rfl rfl rfl fun _ => rfl
  | invalidateToken access =>
    cases stored : m.tokens.contains access with
    | true =>
      simp only [step, stored]
      exact .closes access _ rfl rfl
    | false =>
      have absent : m.tokens.get? access = none := by simpa [Table.contains] using stored
      simp only [step, stored, Table.modify_of_absent absent]
      exact .spares _ _ rfl rfl rfl rfl rfl fun _ => rfl
  | saveProfile account profile =>
    simp only [step]
    split
    · exact .spares _ _ rfl rfl rfl rfl rfl fun refused => absurd refused Bool.false_ne_true
    · exact .spares _ _ rfl rfl rfl rfl rfl fun _ => rfl
  | takeGrant code =>
    simp only [step]
    split <;> exact .spares _ _ rfl rfl rfl rfl rfl fun refused => absurd refused Bool.false_ne_true
  | addGrant grant => exact .spares _ _ rfl rfl rfl rfl rfl fun refused => absurd refused Bool.false_ne_true
  | _ => exact .spares _ _ rfl rfl rfl rfl rfl fun _ => rfl

namespace Told

theorem refused (told : m.Told visit next) (refused : visit.call.refused visit.answer = true) : next = m := by
  cases told with
  | inserts => cases refused
  | chains => cases refused
  | closes => cases refused
  | spares visit next tokens index inserted linked closed refuses => exact refuses refused

/-- A stored token stays, and changes as the visit tells. -/
theorem stays (told : m.Told visit next) (found : m.tokens.get? token.access = some current)
    (since : token.Since later current) :
    ∃ now, next.tokens.get? token.access = some now ∧ token.Since (later ++ [visit]) now := by
  cases told with
  | inserts added next inserted =>
    obtain ⟨unused, tokens, -⟩ := insertToken?_eq_some inserted
    refine ⟨current, ?_, since.append nofun nofun⟩
    rw [tokens]
    exact (Table.get?_insert_eq_some unused).2 (.inr found)
  | chains access added middle next chainable inserted tokens index =>
    obtain ⟨unused, grown, -⟩ := insertToken?_eq_some inserted
    have kept : middle.tokens.get? token.access = some current := by
      rw [grown]
      exact (Table.get?_insert_eq_some unused).2 (.inr found)
    rw [tokens]
    refine ⟨_, Table.get?_modify_eq_some.2 ⟨current, kept, rfl⟩, ?_⟩
    split
    · rename_i here
      obtain ⟨old, read, -, alone⟩ := chainable_iff.1 chainable
      rw [← here, found] at read
      obtain rfl := Option.some.inj read
      exact since.linked alone (by rw [here]; rfl) rfl
    · rename_i elsewhere
      refine since.append nofun fun successor link => elsewhere ?_
      exact (congrArg Prod.fst (Option.some.inj link)).symm
  | closes access next tokens index =>
    rw [tokens]
    refine ⟨_, Table.get?_modify_eq_some.2 ⟨current, found, rfl⟩, ?_⟩
    split
    · rename_i here
      exact since.invalidated (by rw [here]; rfl) rfl
    · rename_i elsewhere
      exact since.append (fun closed => elsewhere (Option.some.inj closed).symm) nofun
  | spares visit next tokens index inserted linked closed =>
    rw [tokens]
    exact ⟨current, found, since.append (by rw [closed]; exact nofun) (by rw [linked]; exact nofun)⟩

/-- An inserted token is stored as it is, under a string that was free. -/
theorem added (told : m.Told visit next) (inserts : visit.inserted? = some token) :
    m.tokens.get? token.access = none ∧ next.tokens.get? token.access = some token := by
  cases told with
  | inserts own next inserted =>
    obtain rfl := Option.some.inj inserts
    obtain ⟨unused, tokens, -⟩ := insertToken?_eq_some inserted
    exact ⟨unused, by rw [tokens, Table.get?_insert, if_pos rfl]⟩
  | chains access own middle next chainable inserted tokens index =>
    obtain rfl := Option.some.inj inserts
    obtain ⟨unused, grown, -⟩ := insertToken?_eq_some inserted
    have different : own.access ≠ access := by
      rintro rfl
      obtain ⟨old, found, -⟩ := chainable_iff.1 chainable
      rw [unused] at found
      cases found
    exact ⟨unused, by rw [tokens, Table.get?_modify, if_neg different, grown, Table.get?_insert, if_pos rfl]⟩
  | closes => cases inserts
  | spares visit next tokens index inserted =>
    rw [inserted] at inserts
    cases inserts

/-- What is stored was stored before, or was inserted now. -/
theorem source (told : m.Told visit next) (found : next.tokens.get? a = some current) :
    (∃ old, m.tokens.get? a = some old) ∨ ∃ token, visit.inserted? = some token ∧ token.access = a := by
  cases told with
  | inserts own next inserted =>
    obtain ⟨unused, tokens, -⟩ := insertToken?_eq_some inserted
    rw [tokens] at found
    rcases (Table.get?_insert_eq_some unused).1 found with ⟨rfl, -⟩ | before
    · exact .inr ⟨own, rfl, rfl⟩
    · exact .inl ⟨current, before⟩
  | chains access own middle next chainable inserted tokens index =>
    obtain ⟨unused, grown, -⟩ := insertToken?_eq_some inserted
    rw [tokens] at found
    obtain ⟨old, read, -⟩ := Table.get?_modify_eq_some.1 found
    rw [grown] at read
    rcases (Table.get?_insert_eq_some unused).1 read with ⟨rfl, -⟩ | before
    · exact .inr ⟨own, rfl, rfl⟩
    · exact .inl ⟨old, before⟩
  | closes access next tokens index =>
    rw [tokens] at found
    obtain ⟨old, read, -⟩ := Table.get?_modify_eq_some.1 found
    exact .inl ⟨old, read⟩
  | spares visit next tokens index inserted =>
    rw [tokens] at found
    exact .inl ⟨current, found⟩

/-- The index changes for the refresh string of an inserted token, and for no other. -/
theorem index (told : m.Told visit next) (r : String) : next.refreshIndex.get? r =
    ((visit.inserted?.filter fun token => token.refresh == some r).map Token.access).or (m.refreshIndex.get? r) := by
  have reads {token : Token} {grown : Memory} (inserted : m.insertToken? token = some grown) :
      grown.refreshIndex.get? r =
        (((some token).filter fun token => token.refresh == some r).map Token.access).or (m.refreshIndex.get? r) := by
    rw [(insertToken?_eq_some inserted).2.2 r]
    by_cases carries : token.refresh = some r <;> simp [Option.filter, carries]
  cases told with
  | inserts own next inserted => exact reads inserted
  | chains access own middle next chainable inserted tokens index =>
    rw [index]
    exact reads inserted
  | closes access next tokens index => exact congrArg (·.get? r) index
  | spares visit next tokens index inserted => rw [index, inserted]; rfl

theorem size (told : m.Told visit next) : next.tokens.size = m.tokens.size + visit.inserted?.toList.length := by
  cases told with
  | inserts own next inserted =>
    obtain ⟨unused, tokens, -⟩ := insertToken?_eq_some inserted
    rw [tokens, Table.size_insert, if_pos unused]
    rfl
  | chains access own middle next chainable inserted tokens index =>
    obtain ⟨unused, grown, -⟩ := insertToken?_eq_some inserted
    rw [tokens, Table.size_modify, grown, Table.size_insert, if_pos unused]
    rfl
  | closes access next tokens index =>
    rw [tokens, Table.size_modify]
    rfl
  | spares visit next tokens index inserted =>
    rw [tokens, inserted]
    rfl

end Told

/-! ### Log and store -/

/-- What is stored is what the log tells. -/
structure Agrees (m : Memory) (log : List Visit) : Prop where
  stored : ∀ {token later}, Inserted log token later →
    ∃ current, m.tokens.get? token.access = some current ∧ token.Since later current
  inserted : ∀ {a current}, m.tokens.get? a = some current → ∃ token later, Inserted log token later ∧ token.access = a
  once : ∀ {token later other after}, Inserted log token later → Inserted log other after →
    other.access = token.access → other = token ∧ after = later
  indexed : ∀ {r a}, m.refreshIndex.get? r = some a ↔ ∃ token later, Latest log r token later ∧ token.access = a
  size : m.tokens.size = (insertions log).length

namespace Agrees

theorem empty : Agrees .empty [] := by
  have nothing {token : Token} {later : List Visit} : ¬Inserted [] token later := by
    rintro ⟨earlier, visit, split, -⟩
    cases earlier <;> cases split
  refine ⟨fun inserted => (nothing inserted).elim, fun found => (nomatch found),
    fun inserted => (nothing inserted).elim, ⟨fun found => (nomatch found), ?_⟩, rfl⟩
  rintro ⟨token, later, latest, -⟩
  exact (nothing latest.inserted).elim

theorem told (agrees : m.Agrees log) (told : m.Told visit next) : next.Agrees (log ++ [visit]) := by
  constructor
  · intro token later inserted
    rcases inserted_append.1 inserted with ⟨own, rfl⟩ | ⟨before, rfl, older⟩
    · exact ⟨token, (told.added own).2, .nil token⟩
    · obtain ⟨current, found, since⟩ := agrees.stored older
      exact told.stays found since
  · intro a current found
    rcases told.source found with ⟨old, before⟩ | ⟨token, own, rfl⟩
    · obtain ⟨token, later, older, rfl⟩ := agrees.inserted before
      exact ⟨token, _, inserted_append.2 (.inr ⟨later, rfl, older⟩), rfl⟩
    · exact ⟨token, [], inserted_append.2 (.inl ⟨own, rfl⟩), rfl⟩
  · -- An access string that was inserted is taken, so it is not inserted again.
    have taken {token other : Token} {later : List Visit} (older : Inserted log token later)
        (own : visit.inserted? = some other) : other.access ≠ token.access := by
      intro same
      obtain ⟨current, found, -⟩ := agrees.stored older
      rw [← same, (told.added own).1] at found
      cases found
    intro token later other after first second same
    rcases inserted_append.1 first with ⟨own, rfl⟩ | ⟨before, rfl, older⟩
    · rcases inserted_append.1 second with ⟨own', rfl⟩ | ⟨before', rfl, older'⟩
      · rw [own] at own'
        exact ⟨(Option.some.inj own').symm, rfl⟩
      · exact (taken older' own same.symm).elim
    · rcases inserted_append.1 second with ⟨own', rfl⟩ | ⟨before', rfl, older'⟩
      · exact (taken older own' same).elim
      · obtain ⟨rfl, rfl⟩ := agrees.once older older' same
        exact ⟨rfl, rfl⟩
  · intro r a
    rw [told.index r]
    by_cases own : ∃ token, visit.inserted? = some token ∧ token.refresh = some r
    · obtain ⟨token, inserted, carries⟩ := own
      have reads : ((visit.inserted?.filter fun token => token.refresh == some r).map Token.access) =
          some token.access := by simp [inserted, carries]
      rw [reads, Option.some_or]
      constructor
      · intro same
        exact ⟨token, [], latest_append.2 (.inl ⟨inserted, carries, rfl⟩), Option.some.inj same⟩
      · rintro ⟨newest, later, latest, rfl⟩
        rcases latest_append.1 latest with ⟨inserted', -⟩ | ⟨before, rfl, -, other⟩
        · rw [inserted] at inserted'
          obtain rfl := Option.some.inj inserted'
          rfl
        · exact (other token inserted carries).elim
    · have other : ∀ newer, visit.inserted? = some newer → newer.refresh ≠ some r :=
        fun newer inserted carries => own ⟨newer, inserted, carries⟩
      have reads : ((visit.inserted?.filter fun token => token.refresh == some r).map Token.access) = none := by
        rw [Option.map_eq_none_iff, Option.filter_eq_none_iff]
        intro newer inserted
        simpa using other newer inserted
      rw [reads, Option.none_or, agrees.indexed]
      constructor
      · rintro ⟨token, later, latest, rfl⟩
        exact ⟨token, _, latest_append.2 (.inr ⟨later, rfl, latest, other⟩), rfl⟩
      · rintro ⟨token, later, latest, rfl⟩
        rcases latest_append.1 latest with ⟨inserted, carries, rfl⟩ | ⟨before, rfl, older, -⟩
        · exact (other token inserted carries).elim
        · exact ⟨token, before, older, rfl⟩
  · rw [told.size, agrees.size, insertions_append, List.length_append]

theorem account (agrees : m.Agrees log) (account : Account) : (m.insertAccount account).Agrees log :=
  ⟨agrees.stored, agrees.inserted, agrees.once, agrees.indexed, agrees.size⟩

theorem operations (agrees : m.Agrees log) (operations : List Operation) :
    (operations.foldl operate m).Agrees (log ++ m.visits operations) := by
  induction operations generalizing m log with
  | nil =>
    rw [visits, List.append_nil]
    exact agrees
  | cons operation rest ih =>
    cases operation with
    | account account => exact ih (agrees.account account)
    | call now call =>
      have one := agrees.told (step_told m now call)
      have all := ih one
      rw [List.append_assoc] at all
      exact all

/-- By an access string the store finds the token of the insertion that used it, as it is now. -/
theorem tokenByAccess_iff (agrees : m.Agrees log) : m.tokens.get? a = some current ↔
    current.access = a ∧ ∃ token later, Inserted log token later ∧ token.Since later current := by
  constructor
  · intro found
    obtain ⟨token, later, inserted, rfl⟩ := agrees.inserted found
    obtain ⟨now, read, since⟩ := agrees.stored inserted
    rw [found] at read
    obtain rfl := Option.some.inj read
    exact ⟨since.access, token, later, inserted, since⟩
  · rintro ⟨rfl, token, later, inserted, since⟩
    obtain ⟨now, found, since'⟩ := agrees.stored inserted
    rw [since.access, found, since.unique since']

/-- By a refresh string the store finds the token of the latest insertion that carries it, as it is now. -/
theorem tokenByRefresh_iff (agrees : m.Agrees log) : m.tokenByRefresh? r = some current ↔
    ∃ token later, Latest log r token later ∧ token.Since later current := by
  rw [tokenByRefresh?, Option.bind_eq_some_iff]
  constructor
  · rintro ⟨access, indexed, found⟩
    obtain ⟨token, later, latest, rfl⟩ := agrees.indexed.1 indexed
    obtain ⟨now, read, since⟩ := agrees.stored latest.inserted
    rw [found] at read
    obtain rfl := Option.some.inj read
    exact ⟨token, later, latest, since⟩
  · rintro ⟨token, later, latest, since⟩
    obtain ⟨now, found, since'⟩ := agrees.stored latest.inserted
    refine ⟨token.access, agrees.indexed.2 ⟨token, later, latest, rfl⟩, ?_⟩
    rw [found, since.unique since']

theorem tokenByRefresh_eq_none_iff (agrees : m.Agrees log) :
    m.tokenByRefresh? r = none ↔ ∀ token ∈ insertions log, token.refresh ≠ some r := by
  constructor
  · intro absent token mem carries
    obtain ⟨newest, later, latest⟩ := exists_latest mem carries
    obtain ⟨current, -, since⟩ := agrees.stored latest.inserted
    rw [agrees.tokenByRefresh_iff.2 ⟨newest, later, latest, since⟩] at absent
    cases absent
  · intro never
    refine Option.eq_none_iff_forall_ne_some.2 fun current found => ?_
    obtain ⟨token, later, latest, -⟩ := agrees.tokenByRefresh_iff.1 found
    exact never token (mem_insertions.2 ⟨later, latest.inserted⟩) latest.carries

end Agrees

/-! ### The two keys of a token -/

/-- What look-ups and refusals of a store come to, by the log of what was done to it. -/
structure Consistent (m : Memory) (log : List Visit) : Prop where
  once : ∀ {token later other after}, Inserted log token later → Inserted log other after →
    other.access = token.access → other = token ∧ after = later
  byAccess : ∀ now a current, (m.step now (.tokenByAccess a)).1 = .ok (some current) ↔
    current.access = a ∧ ∃ token later, Inserted log token later ∧ token.Since later current
  byRefresh : ∀ now r current, (m.step now (.tokenByRefresh r)).1 = .ok (some current) ↔
    ∃ token later, Latest log r token later ∧ token.Since later current
  unknown : ∀ now r, (m.step now (.tokenByRefresh r)).1 = .ok none ↔
    ∀ token ∈ insertions log, token.refresh ≠ some r
  /-- A token whose refresh string was not used again is found by both of its keys. -/
  both : ∀ {token later r}, Inserted log token later → token.refresh = some r →
    (∀ newer ∈ insertions later, newer.refresh ≠ some r) →
    ∃ current, token.Since later current ∧ ∀ now,
      (m.step now (.tokenByAccess token.access)).1 = .ok (some current) ∧
      (m.step now (.tokenByRefresh r)).1 = .ok (some current)
  count : m.tokens.size = (insertions log).length
  refused : ∀ now call, call.refused (m.step now call).1 = true → (m.step now call).2 = m

/-- Whatever operations an empty store has gone through, its two indexes agree with what they have inserted. -/
theorem indexes_consistent (operations : List Operation) :
    (operations.foldl operate .empty).Consistent (Memory.empty.visits operations) := by
  have agrees := Agrees.empty.operations operations
  rw [List.nil_append] at agrees
  generalize operations.foldl operate .empty = m at agrees
  have found (now : Instant) (a : String) (current : Token) :
      (m.step now (.tokenByAccess a)).1 = .ok (some current) ↔ m.tokens.get? a = some current :=
    ⟨Except.ok.inj, congrArg Except.ok⟩
  have indexed (now : Instant) (r : String) (current? : Option Token) :
      (m.step now (.tokenByRefresh r)).1 = .ok current? ↔ m.tokenByRefresh? r = current? :=
    ⟨Except.ok.inj, congrArg Except.ok⟩
  refine ⟨agrees.once, fun now a current => ?_, fun now r current => ?_, fun now r => ?_, ?_, agrees.size, ?_⟩
  · rw [found, agrees.tokenByAccess_iff]
  · rw [indexed, agrees.tokenByRefresh_iff]
  · rw [indexed, agrees.tokenByRefresh_eq_none_iff]
  · intro token later r inserted carries last
    obtain ⟨current, stored, since⟩ := agrees.stored inserted
    refine ⟨current, since, fun now => ⟨(found now _ current).2 stored, (indexed now r _).2 ?_⟩⟩
    exact agrees.tokenByRefresh_iff.2 ⟨token, later, ⟨inserted, carries, last⟩, since⟩
  · exact fun now call => (step_told m now call).refused

/-- The later of two tokens gets the refresh string of both, and linking it to itself fails and changes nothing. -/
example (now : Instant) :
    let one := Token.issued "ann" 60 now "a" "r"
    let two := Token.issued "ann" 60 now "b" "r"
    let m := [.call now (.addToken one), .call now (.addToken two), .call now (.chainToken "b" two)].foldl operate .empty
    m.tokenByRefresh? "r" = some two ∧ m.tokens.get? "a" = some one ∧ m.tokens.size = 2 := by
  intro one two m
  exact ⟨rfl, rfl, rfl⟩

end Memory

end TokenAuthority
