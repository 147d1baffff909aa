import TokenAuthority.Proofs.Alone.Refresh
import TokenAuthority.Proofs.Dialogue.Basic

/-!
# A refresh over any store

`Refreshes` tells every way in which a refresh can go by what the store answers, be the answers true or not.
From it follows what holds over any store: how much is asked of it, when it is asked to chain, and where a
token that is handed out comes from.
-/

namespace TokenAuthority

/-- A token that can be made anew for an account. -/
def Service.Makes (s : Service) (owner : String) (token : Token) : Prop :=
  ∃ now access refresh, token = .issued owner s.tokenLifetime now access refresh

namespace Dialogue

/-- Looking for the successor of an old token. -/
inductive HandsOver (old : Token) : List Visit → Except Failure Token → Prop where
  | fails {access : String} {failure : Failure} (next : old.next = some access) :
      HandsOver old [⟨.tokenByAccess access, .error failure⟩] (.error failure)
  | dangling {access reason : String} (next : old.next = some access) :
      HandsOver old [⟨.tokenByAccess access, .ok none⟩] (.error (.illegalState reason))
  | found {access : String} {successor : Token} (next : old.next = some access) :
      HandsOver old [⟨.tokenByAccess access, .ok (some successor)⟩] successor.handedOut

/-- Reading a token again that could not be chained to. -/
inductive Rereads (access : String) : List Visit → Except Failure Token → Prop where
  | fails {failure : Failure} : Rereads access [⟨.tokenByAccess access, .error failure⟩] (.error failure)
  | gone {reason : String} : Rereads access [⟨.tokenByAccess access, .ok none⟩] (.error (.illegalState reason))
  | closed {current : Token} (closed : current.valid = false) :
      Rereads access [⟨.tokenByAccess access, .ok (some current)⟩] (.error .alreadyInvalidated)
  | replaced {current : Token} {visits : List Visit} {result : Except Failure Token} (valid : current.valid = true)
      (handsOver : HandsOver current visits result) :
      Rereads access (⟨.tokenByAccess access, .ok (some current)⟩ :: visits) result
  | unchanged {current : Token} {reason : String} (valid : current.valid = true) (last : current.next = none) :
      Rereads access [⟨.tokenByAccess access, .ok (some current)⟩] (.error (.illegalState reason))

/-- A refresh with the string `r`. -/
inductive Refreshes (s : Service) (r : String) : List Visit → Except Failure Token → Prop where
  | fails {failure : Failure} : Refreshes s r [⟨.tokenByRefresh r, .error failure⟩] (.error failure)
  | unknown : Refreshes s r [⟨.tokenByRefresh r, .ok none⟩] (.error .unknownToken)
  | delegated {old : Token} (code : old.code.isSome) :
      Refreshes s r [⟨.tokenByRefresh r, .ok (some old)⟩] (.error .oauthRefresh)
  | closed {old : Token} (plain : old.code = none) (closed : old.valid = false) :
      Refreshes s r [⟨.tokenByRefresh r, .ok (some old)⟩] (.error .alreadyInvalidated)
  | replayed {old : Token} {visits : List Visit} {result : Except Failure Token} (plain : old.code = none)
      (valid : old.valid = true) (handsOver : HandsOver old visits result) :
      Refreshes s r (⟨.tokenByRefresh r, .ok (some old)⟩ :: visits) result
  | won {old token : Token} (ready : old.Open) (made : s.Makes old.owner token) :
      Refreshes s r [⟨.tokenByRefresh r, .ok (some old)⟩, ⟨.chainToken old.access token, .ok true⟩] (.ok token)
  | unchained {old token : Token} {failure : Failure} (ready : old.Open) (made : s.Makes old.owner token) :
      Refreshes s r [⟨.tokenByRefresh r, .ok (some old)⟩, ⟨.chainToken old.access token, .error failure⟩]
        (.error failure)
  | lost {old token : Token} {visits : List Visit} {result : Except Failure Token} (ready : old.Open)
      (made : s.Makes old.owner token) (rereads : Rereads old.access visits result) :
      Refreshes s r (⟨.tokenByRefresh r, .ok (some old)⟩ :: ⟨.chainToken old.access token, .ok false⟩ :: visits)
        result

variable {s : Service} {r access : String} {old token : Token} {visits : List Visit} {heard : List Heard}
  {result : Except Failure Token}

/-! ### The program -/

theorem successorOf_dialogue (linked : old.next.isSome) : Always (HandsOver old) (Service.successorOf old) := by
  refine Always.orThrow_bind (fun unlinked => ?_) fun access next => ?_
  · rw [unlinked] at linked
    cases linked
  refine Always.store_bind (fun _ => .fails next) fun found => ?_
  cases found with
  | none => exact Always.log_bind (Always.throw (.dangling next))
  | some successor =>
    dsimp only
    rw [Token.handedOut_action]
    exact HandsOver.found next

theorem settleLostRefresh_dialogue : Always (Rereads old.access) (Service.settleLostRefresh old) := by
  refine Always.log_bind (Always.store_bind (fun _ => .fails) fun found => ?_)
  cases found with
  | none => exact Always.throw .gone
  | some current =>
    dsimp only
    split
    · rename_i closed
      exact Always.throw (.closed (by simpa [Token.wasInvalidated] using closed))
    · rename_i valid
      replace valid : current.valid = true := by simpa [Token.wasInvalidated] using valid
      split
      · rename_i linked
        exact (successorOf_dialogue linked).mono fun _ _ => .replaced valid
      · rename_i last
        exact Always.log_bind (Always.throw (.unchanged valid (by simpa [Token.wasRefreshed] using last)))

theorem newToken_dialogue {owner : String} :
    Every (fun visits token => visits = [] ∧ s.Makes owner token) (s.newToken owner) :=
  fun now access refresh => ⟨rfl, now, access, refresh, rfl⟩

theorem refresh_dialogue : Always (Refreshes s r) (s.refresh r) := by
  refine Always.log_bind (Always.store_bind (fun _ => .fails) fun found => ?_)
  cases found with
  | none => exact Always.throw .unknown
  | some old =>
    dsimp only
    split
    · rename_i code
      exact Always.throw (.delegated code)
    · rename_i plain
      replace plain : old.code = none := by simpa [Token.isOAuth] using plain
      split
      · rename_i closed
        exact Always.throw (.closed plain (by simpa [Token.wasInvalidated] using closed))
      · rename_i valid
        replace valid : old.valid = true := by simpa [Token.wasInvalidated] using valid
        split
        · rename_i linked
          refine Always.log_bind ((successorOf_dialogue linked).mono fun _ _ => .replayed plain valid)
        · rename_i last
          have ready : old.Open := ⟨plain, valid, by simpa [Token.wasRefreshed] using last⟩
          refine Always.lift_bind (newToken_dialogue.mono ?_)
          rintro - token ⟨rfl, made⟩
          refine Always.store_bind (fun _ => .unchained ready made) fun chained => ?_
          cases chained with
          | true => exact Always.log_bind (Always.pure (.won ready made))
          | false => exact settleLostRefresh_dialogue.mono fun _ _ => .lost ready made

/-! ### What is asked of the store -/

/-- Calls of the store that only read a token by its access string. -/
def AllRead (visits : List Visit) : Prop := ∀ visit ∈ visits, visit.call.kind = .tokenByAccess

/-- What is asked of the store after the first look-up: perhaps to chain, if an open token was found, and then
no more than two reads. -/
inductive Pursues (s : Service) : Except Failure (Option Token) → List Visit → Prop where
  | reads (found : Except Failure (Option Token)) {reads : List Visit} (few : reads.length ≤ 2) (only : AllRead reads) :
      Pursues s found reads
  | chains {old token : Token} (ready : old.Open) (made : s.Makes old.owner token) (answer : Except Failure Bool)
      {reads : List Visit} (few : reads.length ≤ 2) (only : AllRead reads) :
      Pursues s (.ok (some old)) (⟨.chainToken old.access token, answer⟩ :: reads)

theorem HandsOver.reads (handsOver : HandsOver old visits result) : visits.length = 1 ∧ AllRead visits := by
  cases handsOver <;> exact ⟨rfl, by simp [AllRead, StoreCall.kind]⟩

theorem Rereads.reads (rereads : Rereads access visits result) : visits.length ≤ 2 ∧ AllRead visits := by
  cases rereads with
  | replaced valid handsOver =>
    obtain ⟨length, reads⟩ := handsOver.reads
    refine ⟨by simp [length], fun visit mem => ?_⟩
    rcases List.mem_cons.1 mem with rfl | mem
    · rfl
    · exact reads visit mem
  | _ => exact ⟨by simp, by simp [AllRead, StoreCall.kind]⟩

theorem Refreshes.pursues (refreshes : Refreshes s r visits result) :
    ∃ found others, visits = ⟨.tokenByRefresh r, found⟩ :: others ∧ Pursues s found others := by
  have none : AllRead [] := fun _ mem => (List.not_mem_nil mem).elim
  cases refreshes with
  | replayed plain valid handsOver =>
    obtain ⟨length, only⟩ := handsOver.reads
    exact ⟨_, _, rfl, .reads _ (by omega) only⟩
  | lost ready made rereads =>
    obtain ⟨few, only⟩ := rereads.reads
    exact ⟨_, _, rfl, .chains ready made _ few only⟩
  | won ready made => exact ⟨_, _, rfl, .chains ready made _ (Nat.zero_le 2) none⟩
  | unchained ready made => exact ⟨_, _, rfl, .chains ready made _ (Nat.zero_le 2) none⟩
  | _ => exact ⟨_, _, rfl, .reads _ (Nat.zero_le 2) none⟩

namespace Pursues

variable {found : Except Failure (Option Token)} {answer : Except Failure Bool}

theorem length_le (pursues : Pursues s found visits) : visits.length ≤ 3 := by
  cases pursues with
  | reads found few only => omega
  | chains ready made answer few only =>
    rw [List.length_cons]
    omega

theorem only (pursues : Pursues s found visits) :
    ∀ visit ∈ visits, visit.call.kind = .tokenByAccess ∨ visit.call.kind = .chainToken := by
  intro visit mem
  cases pursues with
  | reads found few only => exact .inl (only visit mem)
  | chains ready made answer few only =>
    rcases List.mem_cons.1 mem with rfl | mem
    · exact .inr rfl
    · exact .inl (only visit mem)

theorem chains_once (pursues : Pursues s found visits) :
    visits.countP (fun visit => visit.call.kind = .chainToken) ≤ 1 := by
  have none {reads : List Visit} (only : AllRead reads) :
      reads.countP (fun visit => visit.call.kind = .chainToken) = 0 := by
    refine List.countP_eq_zero.2 fun visit mem => ?_
    simp [only visit mem]
  cases pursues with
  | reads found few only => exact Nat.le_trans (Nat.le_of_eq (none only)) (Nat.zero_le 1)
  | chains ready made answer few only =>
    refine Nat.le_of_eq ?_
    rw [List.countP_cons_of_pos (by rfl), none only]

theorem of_chain (pursues : Pursues s found visits) (mem : ⟨.chainToken access token, answer⟩ ∈ visits) :
    ∃ old reads, found = .ok (some old) ∧ old.access = access ∧ old.Open ∧ s.Makes old.owner token ∧
      visits = ⟨.chainToken access token, answer⟩ :: reads := by
  cases pursues with
  | reads found few only => cases only _ mem
  | chains ready made _ few only =>
    rcases List.mem_cons.1 mem with same | mem
    · cases same
      exact ⟨_, _, rfl, rfl, ready, made, rfl⟩
    · cases only _ mem

end Pursues

/-! ### Where a token that is handed out comes from -/

/-- On being asked for the token with the string `r` the store shows one: it finds it by the string, or when the
token that it found by the string is read again. -/
inductive Shows (r : String) (visits : List Visit) (token : Token) : Prop where
  | found (looks : ⟨.tokenByRefresh r, .ok (some token)⟩ ∈ visits)
  | reread {first : Token} (looks : ⟨.tokenByRefresh r, .ok (some first)⟩ ∈ visits)
      (reads : ⟨.tokenByAccess first.access, .ok (some token)⟩ ∈ visits)

theorem HandsOver.hands (handsOver : HandsOver old visits (.ok token)) :
    token.valid = true ∧ token.next = none ∧
      ∃ access, old.next = some access ∧ visits = [⟨.tokenByAccess access, .ok (some token)⟩] := by
  generalize handed : Except.ok token = result at handsOver
  cases handsOver with
  | fails next => cases handed
  | dangling next => cases handed
  | found next =>
    obtain rfl := Token.handedOut_eq_ok handed.symm
    obtain ⟨valid, last⟩ := Token.last_of_handedOut handed.symm
    exact ⟨valid, last, _, next, rfl⟩

theorem Refreshes.hands (refreshes : Refreshes s r visits (.ok token)) :
    (∃ access, ⟨.chainToken access token, .ok true⟩ ∈ visits) ∨
      token.valid = true ∧ token.next = none ∧ ∃ before old access, Shows r before old ∧ old.valid = true ∧
        old.next = some access ∧ visits = before ++ [⟨.tokenByAccess access, .ok (some token)⟩] := by
  cases refreshes with
  | won ready made => exact .inl ⟨_, .tail _ (.head _)⟩
  | replayed plain valid handsOver =>
    obtain ⟨good, last, access, next, rfl⟩ := handsOver.hands
    exact .inr ⟨good, last, [_], _, access, .found (.head _), valid, next, rfl⟩
  | lost ready made rereads =>
    cases rereads with
    | replaced valid handsOver =>
      obtain ⟨good, last, access, next, rfl⟩ := handsOver.hands
      exact .inr ⟨good, last, [_, _, _], _, access, .reread (.head _) (.tail _ (.tail _ (.head _))), valid, next, rfl⟩

/-- Whatever the store answers: a refresh calls it four times at most, and but for one attempt to chain it only
looks tokens up. A token that it hands out was chained, as it is, with the store's consent, or the store showed
it, valid and last, as the successor of a valid token that it had shown for this refresh. And it tries to chain
only a token that was found open. -/
theorem refresh_over_any_store (dialogue : Dialogue (s.refresh r).run heard visits result) :
    visits.length ≤ 4 ∧ visits.countP (fun visit => visit.call.kind = .chainToken) ≤ 1 ∧
    (∀ visit ∈ visits, visit.call.kind = .tokenByRefresh ∨ visit.call.kind = .tokenByAccess ∨
      visit.call.kind = .chainToken) ∧
    (∀ token, result = .ok token →
      (∃ access, ⟨.chainToken access token, .ok true⟩ ∈ visits) ∨
        token.valid = true ∧ token.next = none ∧ ∃ before old access, Shows r before old ∧ old.valid = true ∧
          old.next = some access ∧ visits = before ++ [⟨.tokenByAccess access, .ok (some token)⟩]) ∧
    ∀ access token answer, ⟨.chainToken access token, answer⟩ ∈ visits →
      ∃ old others, old.access = access ∧ old.Open ∧ s.Makes old.owner token ∧
        visits = ⟨.tokenByRefresh r, .ok (some old)⟩ :: ⟨.chainToken access token, answer⟩ :: others := by
  have refreshes : Refreshes s r visits result := dialogue.meets refresh_dialogue
  obtain ⟨found, others, rfl, pursues⟩ := refreshes.pursues
  refine ⟨?_, ?_, ?_, ?_, ?_⟩
  · have few := pursues.length_le
    rw [List.length_cons]
    omega
  · rw [List.countP_cons_of_neg (by simp [StoreCall.kind])]
    exact pursues.chains_once
  · intro visit mem
    rcases List.mem_cons.1 mem with rfl | mem
    · exact .inl rfl
    · exact .inr (pursues.only visit mem)
  · rintro token rfl
    exact refreshes.hands
  · intro access token answer mem
    rcases List.mem_cons.1 mem with same | mem
    · cases same
    obtain ⟨old, reads, rfl, same, ready, made, rfl⟩ := pursues.of_chain mem
    exact ⟨old, reads, same, ready, made, rfl⟩

/-- A store that contradicts itself: the token `a` is open when it is looked up, cannot be chained to, and is
then said to be of another owner and to have been replaced by `b`. -/
theorem contradicted_refresh : ∃ (s : Service) (heard : List Heard) (visits : List Visit) (token : Token),
    Dialogue (s.refresh "r").run heard visits (.ok token) ∧ visits.length = 4 ∧
      (∀ access, ⟨.chainToken access token, .ok true⟩ ∉ visits) ∧
      ∃ before old access, Shows "r" before old ∧ old.next = some access ∧
        visits = before ++ [⟨.tokenByAccess access, .ok (some token)⟩] := by
  let now : Instant := .ofSeconds 0
  let old : Token := .issued "u" 3600 now "a" "r"
  let made : Token := .issued "u" 3600 now "c" "t"
  let other : Token := (Token.issued "v" 3600 now "z" "y").withNext "b"
  let token : Token := .issued "v" 3600 now "b" "s"
  have dialogue : Dialogue (Service.refresh ⟨.empty, 3600, 600⟩ "r").run
      [⟨.clock, now⟩, ⟨.freshText, "c"⟩, ⟨.freshText, "t"⟩]
      [⟨.tokenByRefresh "r", .ok (some old)⟩, ⟨.chainToken "a" made, .ok false⟩,
        ⟨.tokenByAccess "a", .ok (some other)⟩, ⟨.tokenByAccess "b", .ok (some token)⟩] (.ok token) :=
    .logs (.asks _ (.hears rfl _ (.hears rfl _ (.hears rfl _ (.asks _ (.logs (.asks _ (.asks _ (.done _)))))))))
  have unchained : ∀ access, (⟨.chainToken access token, .ok true⟩ : Visit) ∉ ([⟨.tokenByRefresh "r", .ok (some old)⟩,
      ⟨.chainToken "a" made, .ok false⟩, ⟨.tokenByAccess "a", .ok (some other)⟩,
      ⟨.tokenByAccess "b", .ok (some token)⟩] : List Visit) := by
    intro access mem
    simp [token, made, Token.issued] at mem
  obtain ⟨-, -, -, source, -⟩ := refresh_over_any_store dialogue
  refine ⟨_, _, _, _, dialogue, rfl, unchained, ?_⟩
  rcases source token rfl with ⟨access, mem⟩ | ⟨-, -, before, old, access, shows, -, next, visits⟩
  · exact (unchained access mem).elim
  · exact ⟨before, old, access, shows, next, visits⟩

end Dialogue

end TokenAuthority
