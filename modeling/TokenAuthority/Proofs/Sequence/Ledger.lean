import TokenAuthority.Proofs.Sequence.Subject

/-!
# What the store remembers of the turns

For each token that was handed out the store keeps a record. Its two fields that change tell what happened
since: it is marked as invalid if the token was invalidated, and linked if it was refreshed. The rest is the
token as it was handed out. `Ledger` says so, and `Ledger.Tells.turns` that it holds after any turns that start
without tokens.
-/

namespace TokenAuthority

/-- The token as it was when it was issued. -/
def Token.original (token : Token) : Token := { token with valid := true, next := none }

/-- Whether a call hands out tokens for later use. -/
def Call.issues : Call → Bool
  | .issueFromPassword _ _ | .issueFromProvider _ _ | .refresh _ | .issueFromCode _ _ => true
  | _ => false

namespace Taken

def Issues (taken : Taken) (token : Token) : Prop :=
  taken.turn.call.issues = true ∧ taken.result = .ok (.token token)

def Invalidates (taken : Taken) (access : String) : Prop :=
  taken.turn.call = .invalidate (some access) ∧ taken.result = .ok .nothing

def Refreshes (taken : Taken) (r : String) : Prop :=
  taken.turn.call = .refresh r ∧ ∃ token, taken.result = .ok (.token token)

end Taken

def Issued (past : List Taken) (token : Token) : Prop := ∃ taken ∈ past, taken.Issues token

def Invalidated (past : List Taken) (access : String) : Prop := ∃ taken ∈ past, taken.Invalidates access

def Refreshed (past : List Taken) (r : String) : Prop := ∃ taken ∈ past, taken.Refreshes r

/-- The records of the store tell which tokens were issued, which access strings were invalidated and which
refresh strings were traded. -/
structure Ledger (lifetime : Int) (issued : Token → Prop) (invalidated refreshed : String → Prop) (m : Memory) :
    Prop where
  orderly : m.Orderly
  original : ∀ {access token}, m.tokens.get? access = some token → issued token.original
  invalid : ∀ {access token}, m.tokens.get? access = some token → (token.valid = false ↔ invalidated access)
  linked : ∀ {access token}, m.tokens.get? access = some token →
    (token.next.isSome = true ↔ ∃ r, token.refresh = some r ∧ refreshed r)
  dated : ∀ {access token}, m.tokens.get? access = some token → token.expiresAt = token.createdAt.addSeconds lifetime
  recorded : ∀ {token}, issued token → ∃ current, m.tokens.get? token.access = some current ∧ token = current.original
  known : ∀ {access}, invalidated access → ∃ token, m.tokens.get? access = some token
  indexed : ∀ {r}, refreshed r → ∃ access, m.refreshIndex.get? r = some access

namespace Ledger

variable {lifetime : Int} {issued issued' : Token → Prop}
  {invalidated invalidated' refreshed refreshed' : String → Prop} {m after : Memory} {token : Token}

theorem congr (ledger : Ledger lifetime issued invalidated refreshed m) (same : ∀ token, issued token ↔ issued' token)
    (same' : ∀ access, invalidated access ↔ invalidated' access) (same'' : ∀ r, refreshed r ↔ refreshed' r) :
    Ledger lifetime issued' invalidated' refreshed' m := by
  obtain rfl : issued = issued' := funext fun token => propext (same token)
  obtain rfl : invalidated = invalidated' := funext fun access => propext (same' access)
  obtain rfl : refreshed = refreshed' := funext fun r => propext (same'' r)
  exact ledger

theorem keep (ledger : Ledger lifetime issued invalidated refreshed m) (tokens : after.tokens = m.tokens)
    (index : after.refreshIndex = m.refreshIndex) : Ledger lifetime issued invalidated refreshed after := by
  obtain ⟨orderly, original, invalid, linked, dated, recorded, known, indexed⟩ := ledger
  refine ⟨⟨?_, ?_⟩, ?_, ?_, ?_, ?_, ?_, ?_, ?_⟩
  · rw [tokens, index]; exact orderly.indexed
  · rw [tokens]; exact orderly.chained
  · rw [tokens]; exact original
  · rw [tokens]; exact invalid
  · rw [tokens]; exact linked
  · rw [tokens]; exact dated
  · rw [tokens]; exact recorded
  · rw [tokens]; exact known
  · rw [index]; exact indexed

theorem insert (ledger : Ledger lifetime issued invalidated refreshed m) (new : m.New token)
    (inserted : m.insertToken? token = some after) (valid : token.valid = true)
    (dated : token.expiresAt = token.createdAt.addSeconds lifetime) :
    Ledger lifetime (fun other => issued other ∨ other = token) invalidated refreshed after := by
  have orderly := (Memory.Changes.inserts token after inserted).orderly new ledger.orderly
  obtain ⟨free, tokens, index⟩ := Memory.insertToken?_eq_some inserted
  have found {access : String} {other : Token} : after.tokens.get? access = some other ↔
      access = token.access ∧ other = token ∨ m.tokens.get? access = some other := by
    rw [tokens]
    exact Table.get?_insert_eq_some free
  have stays {access : String} {other : Token} (stored : m.tokens.get? access = some other) :
      after.tokens.get? access = some other := found.2 (.inr stored)
  refine ⟨orderly, ?_, ?_, ?_, ?_, ?_, ?_, ?_⟩
  · intro access other read
    rcases found.1 read with ⟨-, rfl⟩ | stored
    · refine .inr ?_
      rw [Token.original, ← valid, ← new.alone]
    · exact .inl (ledger.original stored)
  · intro access other read
    rcases found.1 read with ⟨rfl, rfl⟩ | stored
    · rw [valid]
      refine ⟨nofun, fun closed => ?_⟩
      obtain ⟨old, stored⟩ := ledger.known closed
      rw [free] at stored
      cases stored
    · exact ledger.invalid stored
  · intro access other read
    rcases found.1 read with ⟨rfl, rfl⟩ | stored
    · rw [new.alone]
      refine ⟨nofun, fun ⟨r, own, traded⟩ => ?_⟩
      obtain ⟨old, taken⟩ := ledger.indexed traded
      rw [new.refresh r own] at taken
      cases taken
    · exact ledger.linked stored
  · intro access other read
    rcases found.1 read with ⟨-, rfl⟩ | stored
    · exact dated
    · exact ledger.dated stored
  · rintro other (before | rfl)
    · obtain ⟨current, stored, same⟩ := ledger.recorded before
      exact ⟨current, stays stored, same⟩
    · refine ⟨other, found.2 (.inl ⟨rfl, rfl⟩), ?_⟩
      rw [Token.original, ← valid, ← new.alone]
  · intro access closed
    obtain ⟨old, stored⟩ := ledger.known closed
    exact ⟨old, stays stored⟩
  · intro r traded
    obtain ⟨access, taken⟩ := ledger.indexed traded
    rw [index]
    split
    · exact ⟨_, rfl⟩
    · exact ⟨access, taken⟩

/-- One record changes, in what tells of the turns after it was issued. -/
theorem change {access : String} {f : Token → Token} (ledger : Ledger lifetime issued invalidated refreshed m)
    (orderly : after.Orderly) (tokens : after.tokens = m.tokens.modify access f)
    (index : after.refreshIndex = m.refreshIndex) (frame : ∀ token, (f token).original = token.original)
    (invalid : ∀ token, m.tokens.get? access = some token → ((f token).valid = false ↔ invalidated' access))
    (linked : ∀ token, m.tokens.get? access = some token →
      ((f token).next.isSome = true ↔ ∃ r, token.refresh = some r ∧ refreshed' r))
    (invalid' : ∀ other, other ≠ access → (invalidated' other ↔ invalidated other))
    (linked' : ∀ other token r, other ≠ access → m.tokens.get? other = some token → token.refresh = some r →
      (refreshed' r ↔ refreshed r))
    (known : ∀ other, invalidated' other → ∃ token, m.tokens.get? other = some token)
    (indexed : ∀ r, refreshed' r → ∃ other, m.refreshIndex.get? r = some other) :
    Ledger lifetime issued invalidated' refreshed' after := by
  have refresh (token : Token) : (f token).refresh = token.refresh := by
    change (f token).original.refresh = token.original.refresh
    rw [frame]
  have found {other : String} {later : Token} (read : after.tokens.get? other = some later) :
      ∃ token, m.tokens.get? other = some token ∧ later = if other = access then f token else token := by
    rw [tokens] at read
    exact Table.get?_modify_eq_some.1 read
  have stays {other : String} {token : Token} (stored : m.tokens.get? other = some token) :
      after.tokens.get? other = some (if other = access then f token else token) := by
    rw [tokens]
    exact Table.get?_modify_eq_some.2 ⟨token, stored, rfl⟩
  have original (other : String) (token : Token) :
      (if other = access then f token else token).original = token.original := by
    split
    · exact frame token
    · rfl
  refine ⟨orderly, ?_, ?_, ?_, ?_, ?_, ?_, ?_⟩
  · intro other later read
    obtain ⟨token, stored, rfl⟩ := found read
    rw [original]
    exact ledger.original stored
  · intro other later read
    obtain ⟨token, stored, rfl⟩ := found read
    by_cases same : other = access
    · subst same
      rw [if_pos rfl]
      exact invalid token stored
    · rw [if_neg same, invalid' other same]
      exact ledger.invalid stored
  · intro other later read
    obtain ⟨token, stored, rfl⟩ := found read
    by_cases same : other = access
    · subst same
      rw [if_pos rfl, refresh]
      exact linked token stored
    · rw [if_neg same, ledger.linked stored]
      exact exists_congr fun r => and_congr_right fun own => (linked' other token r same stored own).symm
  · intro other later read
    obtain ⟨token, stored, rfl⟩ := found read
    have dated := ledger.dated stored
    have expires := congrArg Token.expiresAt (original other token)
    have created := congrArg Token.createdAt (original other token)
    exact expires.trans (dated.trans (congrArg (Instant.addSeconds · lifetime) created.symm))
  · intro token before
    obtain ⟨current, stored, same⟩ := ledger.recorded before
    exact ⟨_, stays stored, same.trans (original _ _).symm⟩
  · intro other closed
    obtain ⟨token, stored⟩ := known other closed
    exact ⟨_, stays stored⟩
  · rw [index]
    exact fun {r} => indexed r

theorem close {access : String} (ledger : Ledger lifetime issued invalidated refreshed m)
    (stored : m.tokens.get? access = some token) (tokens : after.tokens = m.tokens.modify access Token.invalidated)
    (index : after.refreshIndex = m.refreshIndex) :
    Ledger lifetime issued (fun other => invalidated other ∨ other = access) refreshed after := by
  have orderly := (Memory.Changes.closes access after tokens index).orderly trivial ledger.orderly
  refine ledger.change orderly tokens index (fun _ => rfl) ?_ ?_ ?_ ?_ ?_ ?_
  · exact fun current _ => ⟨fun _ => .inr rfl, fun _ => rfl⟩
  · intro current found
    exact (ledger.linked found : current.next.isSome = true ↔ _)
  · exact fun other different => or_iff_left different
  · exact fun other current r _ _ _ => Iff.rfl
  · rintro other (before | rfl)
    · exact ledger.known before
    · exact ⟨token, stored⟩
  · exact fun r traded => ledger.indexed traded

/-- A new token is issued and an open one is linked to it. -/
theorem chain {r access : String} {old : Token} (ledger : Ledger lifetime issued invalidated refreshed m)
    (fits : m.Fits (.chainToken access token)) (stored : m.tokens.get? access = some old) (own : old.refresh = some r)
    (changes : m.Changes (.chainToken access token) after) (done : after.tokens.get? token.access ≠ none)
    (valid : token.valid = true) (dated : token.expiresAt = token.createdAt.addSeconds lifetime) :
    Ledger lifetime (fun other => issued other ∨ other = token) invalidated
      (fun other => refreshed other ∨ other = r) after := by
  have orderly := changes.orderly fits ledger.orderly
  cases changes with
  | keeps call after tokens index =>
    rw [tokens] at done
    exact (done fits.1.access).elim
  | chains access token middle after chainable inserted tokens index =>
    have grown := ledger.insert fits.1 inserted valid dated
    obtain ⟨free, table, indexes⟩ := Memory.insertToken?_eq_some inserted
    have found : middle.tokens.get? access = some old := by
      rw [table]
      exact (Table.get?_insert_eq_some free).2 (.inr stored)
    refine grown.change orderly tokens index (fun _ => rfl) ?_ ?_ ?_ ?_ ?_ ?_
    · intro current read
      exact (grown.invalid read : current.valid = false ↔ _)
    · intro current read
      rw [found] at read
      obtain rfl := Option.some.inj read
      exact ⟨fun _ => ⟨r, own, .inr rfl⟩, fun _ => rfl⟩
    · exact fun _ _ => Iff.rfl
    · -- No other token carries the refresh string, as the index has one entry for it.
      intro other current traded different read carries
      refine or_iff_left ?_
      rintro rfl
      have first := grown.orderly.indexed.indexed.2 ⟨old, found, own⟩
      have second := grown.orderly.indexed.indexed.2 ⟨current, read, carries⟩
      exact different (Option.some.inj (second.symm.trans first))
    · exact fun _ closed => grown.known closed
    · rintro traded (before | rfl)
      · exact grown.indexed before
      · exact ⟨access, grown.orderly.indexed.indexed.2 ⟨old, found, own⟩⟩

/-! ### One turn -/

variable {past : List Taken} {taken : Taken}

theorem issued_snoc : Issued (past ++ [taken]) token ↔ Issued past token ∨ taken.Issues token := by
  simp [Issued, or_and_right, exists_or]

theorem invalidated_snoc {access : String} :
    Invalidated (past ++ [taken]) access ↔ Invalidated past access ∨ taken.Invalidates access := by
  simp [Invalidated, or_and_right, exists_or]

theorem refreshed_snoc {r : String} : Refreshed (past ++ [taken]) r ↔ Refreshed past r ∨ taken.Refreshes r := by
  simp [Refreshed, or_and_right, exists_or]

def Tells (s : Service) (past : List Taken) (m : Memory) : Prop :=
  Ledger s.tokenLifetime (Issued past) (Invalidated past) (Refreshed past) m

variable {s : Service}

theorem Tells.idle (ledger : Tells s past m) (tokens : after.tokens = m.tokens)
    (index : after.refreshIndex = m.refreshIndex) (issues : ∀ token, ¬taken.Issues token)
    (invalidates : ∀ access, ¬taken.Invalidates access) (refreshes : ∀ r, ¬taken.Refreshes r) :
    Tells s (past ++ [taken]) after := by
  refine (keep ledger tokens index).congr (fun token => ?_) (fun access => ?_) fun r => ?_
  · rw [issued_snoc, or_iff_left (issues token)]
  · rw [invalidated_snoc, or_iff_left (invalidates access)]
  · rw [refreshed_snoc, or_iff_left (refreshes r)]

theorem Tells.fail {failure : Failure} (ledger : Tells s past m) (tokens : after.tokens = m.tokens)
    (index : after.refreshIndex = m.refreshIndex) (fails : taken.result = .error failure) :
    Tells s (past ++ [taken]) after := by
  refine ledger.idle tokens index (fun token issues => ?_) (fun access invalidates => ?_) fun r refreshes => ?_
  · have same := fails.symm.trans issues.2
    cases same
  · have same := fails.symm.trans invalidates.2
    cases same
  · obtain ⟨-, token, result⟩ := refreshes
    have same := fails.symm.trans result
    cases same

theorem Tells.issue {between : Memory} {now : Instant} (ledger : Tells s past m) (tokens : between.tokens = m.tokens)
    (index : between.refreshIndex = m.refreshIndex) (new : between.New token) (valid : token.valid = true)
    (dated : token.expiresAt = token.createdAt.addSeconds s.tokenLifetime) (issues : taken.turn.call.issues = true)
    (other : ∀ r, taken.turn.call ≠ .refresh r) (result : taken.result = .ok (.token token)) :
    Tells s (past ++ [taken]) (between.step now (.addToken token)).2 := by
  obtain ⟨after, inserted⟩ := Memory.insertToken?_of_unused new.access
  have grown := (keep ledger tokens index).insert new inserted valid dated
  simp only [Memory.step, inserted]
  refine grown.congr (fun later => ?_) (fun access => ?_) fun r => ?_
  · rw [issued_snoc, Taken.Issues, result]
    simp [issues, eq_comm]
  · rw [invalidated_snoc, Taken.Invalidates, result]
    simp
  · rw [refreshed_snoc, Taken.Refreshes]
    simp [other r]

/-- A refresh that adds a token and links the old one to it. -/
theorem Tells.extend {r : String} {old : Token} {now : Instant} (ledger : Tells s past m)
    (found : m.tokenByRefresh? r = some old) (ready : old.Open) (new : m.New token) (owner : token.owner = old.owner)
    (plain : token.code = none) (valid : token.valid = true)
    (dated : token.expiresAt = token.createdAt.addSeconds s.tokenLifetime) (call : taken.turn.call = .refresh r)
    (result : taken.result = .ok (.token token)) :
    Tells s (past ++ [taken]) (m.step now (.chainToken old.access token)).2 := by
  obtain ⟨stored, own⟩ := ledger.orderly.tokenByRefresh?_iff.1 found
  obtain ⟨after, chains⟩ := Memory.step_chainToken_of_open stored ready.valid ready.last new.access
  obtain ⟨-, -, -, -, -, done⟩ := Memory.step_chainToken_links (congrArg Prod.fst (chains now))
  have serves : m.Serves old.owner (.chainToken old.access token) := ⟨owner, new, plain, old, stored, rfl, ready⟩
  have grown := chain ledger serves.fits stored own (Memory.step_changes m now _) (by rw [done]; nofun) valid dated
  refine grown.congr (fun later => ?_) (fun access => ?_) fun other => ?_
  · rw [issued_snoc, Taken.Issues, call, result]
    simp [Call.issues, eq_comm]
  · rw [invalidated_snoc, Taken.Invalidates, result]
    simp
  · rw [refreshed_snoc, Taken.Refreshes, call, result]
    simp [eq_comm]

theorem Tells.repeat {r access : String} {old next : Token} (ledger : Tells s past m)
    (found : m.tokenByRefresh? r = some old) (linked : old.next.isSome = true)
    (stored : m.tokens.get? access = some next) (valid : next.valid = true) (last : next.next = none)
    (call : taken.turn.call = .refresh r) (result : taken.result = .ok (.token next)) :
    Tells s (past ++ [taken]) m := by
  obtain ⟨kept, own⟩ := ledger.orderly.tokenByRefresh?_iff.1 found
  -- What is handed out again is on record already, and so is the refresh.
  have issued : Issued past next := by
    have original : next.original = next := by rw [Token.original, ← valid, ← last]
    rw [← original]
    exact Ledger.original ledger stored
  have refreshed : Refreshed past r := by
    obtain ⟨r', own', traded⟩ := (Ledger.linked ledger kept).1 linked
    rw [own] at own'
    obtain rfl := Option.some.inj own'
    exact traded
  refine Ledger.congr ledger (fun later => ?_) (fun access => ?_) fun other => ?_
  · rw [issued_snoc, Taken.Issues, call, result]
    simp only [Call.issues, true_and, Except.ok.injEq, Yield.token.injEq]
    exact (or_iff_left_of_imp fun same => same ▸ issued).symm
  · rw [invalidated_snoc, Taken.Invalidates, result]
    simp
  · rw [refreshed_snoc, Taken.Refreshes, call, result]
    simp only [Call.refresh.injEq]
    exact (or_iff_left_of_imp fun ⟨same, _⟩ => same ▸ refreshed).symm

theorem Tells.invalidate {access : String} {now : Instant} (ledger : Tells s past m)
    (stored : m.tokens.get? access = some token) (call : taken.turn.call = .invalidate (some access))
    (result : taken.result = .ok .nothing) :
    Tells s (past ++ [taken]) (m.step now (.invalidateToken access)).2 := by
  have closed := @close _ _ _ _ m (m.step now (.invalidateToken access)).2 _ _ ledger stored rfl rfl
  refine closed.congr (fun later => ?_) (fun other => ?_) fun r => ?_
  · rw [issued_snoc, Taken.Issues, call]
    simp [Call.issues]
  · rw [invalidated_snoc, Taken.Invalidates, call, result]
    simp [eq_comm]
  · rw [refreshed_snoc, Taken.Refreshes, call]
    simp

theorem Tells.turn {turn : Turn} (ledger : Tells s past m) (fresh : turn.Fresh s m) :
    Tells s (past ++ [⟨turn, m, turn.result s m⟩]) (turn.after s m) := by
  have new := (Turn.fresh_iff ledger.orderly).1 fresh
  rw [Turn.result_eq ledger.orderly fresh, Turn.after_eq ledger.orderly fresh]
  obtain ⟨call, w⟩ := turn
  change w.SuppliesNew m (call.plan s w m).drawn at new
  change Tells s (past ++ [⟨⟨call, w⟩, m, (call.plan s w m).result⟩]) ((call.plan s w m).after m)
  cases call with
  | issueFromPassword email password =>
    simp only [Call.plan] at new ⊢
    cases opened : m.holder email password with
    | error failure => exact ledger.fail rfl rfl rfl
    | ok account =>
      simp only [opened] at new
      exact ledger.issue rfl rfl new.issued rfl rfl rfl (fun _ same => by cases same) rfl
  | issueFromProvider provider accessToken =>
    simp only [Call.plan] at new ⊢
    cases recognized : s.recognized w provider accessToken with
    | error failure => exact ledger.fail rfl rfl rfl
    | ok profile =>
      simp only [recognized] at new
      dsimp only
      cases known : m.linked profile with
      | error failure => exact ledger.fail rfl rfl rfl
      | ok account =>
        simp only [known] at new
        by_cases saved : account.hasSaved profile = true
        · simp only [saved, if_true]
          exact ledger.issue rfl rfl new.issued rfl rfl rfl (fun _ same => by cases same) rfl
        · simp only [saved]
          obtain ⟨tokens, index⟩ := @Memory.step_tokens_of_other m (w.clock 1) (.saveProfile account.id profile) rfl
          exact ledger.issue tokens index (new.issued.step rfl) rfl rfl rfl (fun _ same => by cases same) rfl
  | refresh r =>
    simp only [Call.plan] at new ⊢
    cases verdict : m.verdict r with
    | settled result =>
      cases result with
      | error failure => exact ledger.fail rfl rfl rfl
      | ok token =>
        obtain ⟨old, access, found, next, stored, valid, last⟩ := Memory.handed_of_verdict verdict
        exact ledger.repeat found (by rw [next]; rfl) stored valid last rfl rfl
    | extended old =>
      simp only [verdict] at new
      obtain ⟨found, ready⟩ := Memory.open_of_verdict verdict
      exact ledger.extend found ready new.issued rfl rfl rfl rfl rfl rfl
  | authenticate access =>
    exact ledger.idle rfl rfl (fun _ issues => by cases issues.1) (fun _ invalidates => by cases invalidates.1)
      fun _ refreshes => by cases refreshes.1
  | invalidate access =>
    cases access with
    | none => exact ledger.fail rfl rfl rfl
    | some access =>
      simp only [Call.plan]
      split
      · rename_i known
        obtain ⟨token, stored⟩ := Option.isSome_iff_exists.1 known
        exact ledger.invalidate stored rfl rfl
      · exact ledger.fail rfl rfl rfl
  | authorize access client scope =>
    have quiet {after : Memory} {result : Except Failure Yield} (tokens : after.tokens = m.tokens)
        (index : after.refreshIndex = m.refreshIndex) :
        Tells s (past ++ [⟨⟨.authorize access client scope, w⟩, m, result⟩]) after :=
      ledger.idle tokens index (fun _ issues => by cases issues.1) (fun _ invalidates => by cases invalidates.1)
        fun _ refreshes => by cases refreshes.1
    simp only [Call.plan]
    split
    · exact quiet rfl rfl
    · split
      · exact quiet rfl rfl
      · exact quiet rfl rfl
  | issueFromCode code client =>
    simp only [Call.plan] at new ⊢
    obtain ⟨tokens, index⟩ := @Memory.step_tokens_of_other m (w.clock 0) (.takeGrant code) rfl
    cases unspent : m.unspent code with
    | none => exact ledger.fail rfl rfl rfl
    | some grant =>
      simp only [unspent] at new
      dsimp only
      split
      · exact ledger.fail tokens index rfl
      · rename_i same
        split
        · exact ledger.fail tokens index rfl
        · rename_i current
          simp only [same, current] at new
          exact ledger.issue tokens index (new.delegated.step rfl) rfl rfl rfl (fun _ same => by cases same) rfl

/-! ### All turns -/

theorem Tells.start (tokens : m.tokens = .empty) (index : m.refreshIndex = .empty) : Tells s [] m := by
  have nothing {access : String} : m.tokens.get? access = none := by
    rw [tokens]
    rfl
  refine ⟨.of_empty tokens index, ?_, ?_, ?_, ?_, ?_, ?_, ?_⟩
  · exact fun stored => nomatch nothing.symm.trans stored
  · exact fun stored => nomatch nothing.symm.trans stored
  · exact fun stored => nomatch nothing.symm.trans stored
  · exact fun stored => nomatch nothing.symm.trans stored
  · exact fun ⟨_, member, _⟩ => nomatch member
  · exact fun ⟨_, member, _⟩ => nomatch member
  · exact fun ⟨_, member, _⟩ => nomatch member

theorem Tells.turns {turns : List Turn} (ledger : Tells s past m) (fresh : s.AllFresh turns m) :
    Tells s (past ++ s.transcript turns m) (s.finish turns m) := by
  -- Each turn adds to the past, and the ledger of the longer past is that of the turns that are left.
  induction turns generalizing past m with
  | nil => rwa [Service.transcript, List.append_nil]
  | cons turn turns ih =>
    obtain ⟨first, rest⟩ := fresh
    have later := ih (ledger.turn first) rest
    rwa [List.append_assoc] at later

end Ledger

end TokenAuthority
