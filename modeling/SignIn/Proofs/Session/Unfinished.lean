-- A logout whose last call fails. The token is revoked before the marker is
-- deleted, so that the failure of the cache comes too late for the session.
import SignIn.Proofs.Session.Counts

namespace SignIn.Session

open Operation
open Dialog (run_bind_of_ok run_bind_of_error)

variable {s : Settings} {w : World} {t : String}

/-- The world when the cache will fail to delete. -/
def stuck (w : World) (e : CacheError) : World := w.addFault ⟨"cache.delete", 0, .cache e⟩

/-- The store does not notice. -/
theorem run_revokeToken_stuck (hf : w.faults = []) (e : CacheError) (t : String) :
    (stuck w e).run false (store (.revokeToken t)).run =
      (.ok (w.store.revokeToken w.now t).1,
        { stuck w e with store := (w.store.revokeToken w.now t).2 }) := by
  have hpasses : (stuck w e).nextFailure (Store.Request.revokeToken t).name =
      (none, stuck w e) := by
    simp [World.nextFailure, stuck, World.addFault, hf, Store.Request.name]
  exact World.run_storeOr_of_passes hpasses rfl

theorem run_delete_stuck (hf : w.faults = []) (e : CacheError) (m : Store.Memory) (key : String) :
    ({ stuck w e with store := m } : World).run false (cache (.delete key)).run =
      (.error (.cache e), { stuck w e with store := m }) := by
  apply World.run_cacheOr_of_fails
  simp [World.nextFailure, stuck, World.addFault, hf, Cache.Request.name]

/-- A logout that fails because the marker could not be deleted has revoked the token. -/
theorem run_logout_stuck {claims : Claims} (hf : w.faults = []) (hindexed : w.store.IsIndexed)
    (hu : ∀ r, w.store.findToken t = some r → r.userId = claims.userId) (e : CacheError)
    (htrim : Text.trim t = t) (hthere : t.isEmpty = false)
    (hverify : Token.verify t .refresh (Token.secretOf s .refresh) w.now.unixSeconds = .ok claims) :
    ∃ w', (stuck w e).run false (Call.program s (.logout claims.userId t)) =
      (.error (.cache e), w') ∧ Parted claims.userId t (stuck w e) w' := by
  have hrun : (stuck w e).run false (logout s claims.userId t).run =
      (.error (.cache e), { stuck w e with store := (w.store.revokeToken w.now t).2 }) := by
    have hverified : (stuck w e).run false (verify s .refresh t).run = (.ok claims, stuck w e) :=
      run_verify_of_ok hverify
    unfold World.run logout
    rw [htrim, run_bind_of_ok _ (Dialog.run_failIf hthere),
      run_bind_of_ok _ hverified,
      run_bind_of_ok _ (Dialog.run_failIf (bne_self_eq_false claims.userId))]
    refine (run_bind_of_ok (α := Bool) _ (run_revokeToken_stuck hf e t)).trans ?_
    exact run_bind_of_error (α := Bool) _ (run_delete_stuck hf e _ _)
  exact ⟨_, run_bind_of_error _ hrun, parted_of_revokeToken hindexed hu rfl rfl⟩

end SignIn.Session
