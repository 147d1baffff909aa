import TokenAuthority.Proofs.Alone.Refresh
import TokenAuthority.Proofs.Interleaving.Warrant

/-!
# What one refresh reads and does

`Attempt` tells every way in which a refresh can come to a result when other calls get in between: what
it finds by the refresh string, what the store answers when it is to chain the new token, what it reads
again after a lost race, and what it finds of the successor that it is to hand out. `refresh_leads` reads
this off the program.
-/

namespace TokenAuthority

namespace Interleaving

variable (run : Interleaving) (id : Nat)

/-- From instant `n` on call `id` reads a token by its access string at `k`, where it finds what follows. -/
def Reads (n k : Nat) (access : String) (found : Option Token) : Prop :=
  n ≤ k ∧ run.Does k id (.store (.tokenByAccess access)) (.ok found)

/-- How a refresh ends that from an instant on looks for the successor of an old token. -/
inductive HandsOver (old : Token) (n : Nat) : Nat → Except Failure Token → Prop where
  | dangling {l m : Nat} {access reason : String} (next : old.next = some access)
      (reads : run.Reads id n l access none) : HandsOver old n m (.error (.illegalState reason))
  | found {l : Nat} {access : String} {successor : Token} (next : old.next = some access)
      (reads : run.Reads id n l access (some successor)) : HandsOver old n (l + 1) successor.handedOut

/-- How a refresh ends that from an instant on reads again the token that it could not chain to. -/
inductive Rereads (access : String) (n : Nat) : Nat → Except Failure Token → Prop where
  | gone {g m : Nat} {reason : String} (reads : run.Reads id n g access none) :
      Rereads access n m (.error (.illegalState reason))
  | closed {g : Nat} {current : Token} (reads : run.Reads id n g access (some current))
      (closed : current.valid = false) : Rereads access n (g + 1) (.error .alreadyInvalidated)
  | replaced {g m : Nat} {current : Token} {result : Except Failure Token}
      (reads : run.Reads id n g access (some current)) (valid : current.valid = true)
      (linked : current.next.isSome) (handsOver : run.HandsOver id current (g + 1) m result) :
      Rereads access n m result
  | unchanged {g m : Nat} {current : Token} {reason : String}
      (reads : run.Reads id n g access (some current)) (valid : current.valid = true)
      (last : current.next = none) : Rereads access n m (.error (.illegalState reason))

/-- How a refresh with the string `r` ends. -/
inductive Attempt (r : String) : Nat → Except Failure Token → Prop where
  | unknown {f : Nat} (looks : run.Does f id (.store (.tokenByRefresh r)) (.ok none)) :
      Attempt r (f + 1) (.error .unknownToken)
  | delegated {f : Nat} {old : Token} (looks : run.Does f id (.store (.tokenByRefresh r)) (.ok (some old)))
      (code : old.code.isSome) : Attempt r (f + 1) (.error .oauthRefresh)
  | closed {f : Nat} {old : Token} (looks : run.Does f id (.store (.tokenByRefresh r)) (.ok (some old)))
      (plain : old.code = none) (closed : old.valid = false) : Attempt r (f + 1) (.error .alreadyInvalidated)
  | replayed {f m : Nat} {old : Token} {result : Except Failure Token}
      (looks : run.Does f id (.store (.tokenByRefresh r)) (.ok (some old))) (plain : old.code = none)
      (valid : old.valid = true) (linked : old.next.isSome)
      (handsOver : run.HandsOver id old (f + 1) m result) : Attempt r m result
  | won {f c m : Nat} {old token : Token} (looks : run.Does f id (.store (.tokenByRefresh r)) (.ok (some old)))
      (ready : old.Open) (later : f < c) (issued : ∃ now access refresh,
        token = .issued old.owner run.service.tokenLifetime now access refresh)
      (chains : run.Does c id (.store (.chainToken old.access token)) (.ok true)) (after : c < m) :
      Attempt r m (.ok token)
  | collided {f c m : Nat} {old token : Token} {failure : Failure}
      (looks : run.Does f id (.store (.tokenByRefresh r)) (.ok (some old))) (later : f < c)
      (chains : run.Does c id (.store (.chainToken old.access token)) (.error failure)) :
      Attempt r m (.error failure)
  | lost {f c m : Nat} {old token : Token} {result : Except Failure Token}
      (looks : run.Does f id (.store (.tokenByRefresh r)) (.ok (some old))) (ready : old.Open) (later : f < c)
      (chains : run.Does c id (.store (.chainToken old.access token)) (.ok false))
      (rereads : run.Rereads id old.access (c + 1) m result) : Attempt r m result

variable {run : Interleaving} {id n k : Nat} {old : Token} {r : String}

theorem successorOf_leads {rule : Nat → StoreCall → Prop} (meets : ∀ m access, rule m (.tokenByAccess access))
    (linked : old.next.isSome) (start : n ≤ k) :
    run.Leads id rule (run.HandsOver id old n) k (Service.successorOf old) := by
  refine Leads.orThrow_bind (fun unlinked => ?_) fun access next => ?_
  · rw [unlinked] at linked
    cases linked
  refine Leads.read_bind (fun _ _ => rfl) (fun m => meets m access) fun l later does => ?_
  split
  · rename_i absent
    rw [absent] at does
    exact Leads.log_bind fun _ _ => Leads.throw (.dangling next ⟨by omega, does⟩)
  · rename_i successor found
    rw [found] at does
    rw [Token.handedOut_action]
    exact HandsOver.found next ⟨by omega, does⟩

theorem settleLostRefresh_leads {rule : Nat → StoreCall → Prop}
    (meets : ∀ m access, rule m (.tokenByAccess access)) :
    run.Leads id rule (run.Rereads id old.access n) n (Service.settleLostRefresh old) := by
  refine Leads.log_bind fun a start => Leads.read_bind (fun _ _ => rfl) (fun m => meets m old.access)
    fun g later does => ?_
  split
  · rename_i absent
    rw [absent] at does
    exact Leads.throw (.gone ⟨by omega, does⟩)
  · rename_i current found
    rw [found] at does
    have reads : run.Reads id n g old.access (some current) := ⟨by omega, does⟩
    split
    · rename_i closed
      exact Leads.throw (.closed reads (by simpa [Token.wasInvalidated] using closed))
    · rename_i valid
      replace valid : current.valid = true := by simpa [Token.wasInvalidated] using valid
      split
      · rename_i linked
        exact (successorOf_leads meets linked (Nat.le_refl _)).mono fun _ _ => .replaced reads valid linked
      · rename_i last
        refine Leads.log_bind fun _ _ => Leads.throw (.unchanged reads valid ?_)
        simpa [Token.wasRefreshed] using last

theorem refresh_leads (starts : run.move id = .start (.refresh r)) :
    run.Leads id (run.Warrant id) (run.Attempt id r) n (run.service.refresh r) := by
  refine Leads.log_bind fun a _ => Leads.read_bind (fun _ _ => rfl) (fun _ => trivial) fun f _ looks => ?_
  split
  · rename_i absent
    rw [absent] at looks
    exact Leads.throw (.unknown looks)
  · rename_i old found
    rw [found] at looks
    split
    · rename_i code
      exact Leads.throw (.delegated looks code)
    · rename_i plain
      replace plain : old.code = none := by simpa [Token.isOAuth] using plain
      split
      · rename_i closed
        exact Leads.throw (.closed looks plain (by simpa [Token.wasInvalidated] using closed))
      · rename_i valid
        replace valid : old.valid = true := by simpa [Token.wasInvalidated] using valid
        split
        · rename_i linked
          refine Leads.log_bind fun b later => ?_
          exact (successorOf_leads (fun _ _ => trivial) linked later).mono fun _ _ =>
            .replayed looks plain valid linked
        · rename_i last
          have ready : old.Open := ⟨plain, valid, by simpa [Token.wasRefreshed] using last⟩
          refine Leads.lift_bind (newToken_course fun b now access refresh later mints => ?_)
          refine Leads.store_bind fun c answer after rests chains => ⟨?_, ?_⟩
          · exact ⟨mints.rests after rests, rfl, r, f, old, starts, by omega, looks, rfl, plain, rfl⟩
          · rcases answer with failure | chained
            · exact .collided looks (by omega) chains
            · cases chained with
              | true =>
                refine Leads.log_bind fun d _ => Leads.pure ?_
                exact .won looks ready (by omega) ⟨now, access, refresh, rfl⟩ chains (by omega)
              | false =>
                exact (settleLostRefresh_leads fun _ _ => trivial).mono fun _ _ =>
                  .lost looks ready (by omega) chains

end Interleaving

end TokenAuthority
