-- How questions turn out in the world: each is answered, or it is a call to
-- the store or the cache that fails without effect.
import SignIn.World
import SignIn.Proofs.Dialog
import SignIn.Proofs.Store.Accounts

namespace SignIn.World

/-- How a question can turn out. Beyond the failures that are set in the world, any call may fail
without effect where calls may fail. -/
inductive Turn (mayFail : Prop) : World → (q : Ask) → q.Answer → World → Prop
  | answered (w : World) (q : Ask) : Turn mayFail w q (w.answer false q).1 (w.answer false q).2
  | storeFails (h : mayFail) (w : World) (q : Store.Request) (e : StoreError) :
    Turn mayFail w (.store q) (.error e) w
  | cacheFails (h : mayFail) (w : World) (q : Cache.Request) (e : CacheError) :
    Turn mayFail w (.cache q) (.error e) w

variable {mayFail : Prop} {w w' : World}

/-- Where no call may fail, a question is answered as the world answers it. -/
theorem Turn.eq_answer {q : Ask} {a : q.Answer} (h : Turn False w q a w') :
    a = (w.answer false q).1 ∧ w' = (w.answer false q).2 := by
  cases h with
  | answered => exact ⟨rfl, rfl⟩
  | storeFails h => exact h.elim
  | cacheFails h => exact h.elim

/-- A run in which no call fails but those that are set to is one of the things that can happen. -/
theorem leads_run {α : Type} (mayFail : Prop) (w : World) (p : Program α) :
    Dialog.Leads (Turn mayFail) w p (w.run false p).1 (w.run false p).2 :=
  Dialog.leads_run (answer false) (fun w q => .answered w q) w p

/-! ## Failures that are set -/

/-- The world but for the failures to come. -/
structure SameState (w w' : World) : Prop where
  store : w'.store = w.store
  cache : w'.cache = w.cache
  now : w'.now = w.now
  ticks : w'.ticks = w.ticks

theorem SameState.refl (w : World) : SameState w w := ⟨rfl, rfl, rfl, rfl⟩

theorem sameState_nextFailure (w : World) (call : String) :
    SameState w (w.nextFailure call).2 := by
  unfold nextFailure
  split
  · exact .refl w
  · split
    · exact .refl w
    · exact ⟨rfl, rfl, rfl, rfl⟩

theorem nextFailure_of_nil (h : w.faults = []) (call : String) :
    w.nextFailure call = (none, w) := by
  unfold nextFailure
  rw [h]
  rfl

/-! ## Answers of the store -/

theorem answerStore_cases (w : World) (q : Store.Request) :
    (∃ e f, w.faults ≠ [] ∧ w.answerStore false q = (.error e, f) ∧ SameState w f) ∨
      ∃ f, SameState w f ∧ (w.faults = [] → f = w) ∧ w.answerStore false q =
        ((w.store.answer w.now q).1, { f with store := (w.store.answer w.now q).2 }) := by
  unfold answerStore
  have hs := sameState_nextFailure w q.name
  by_cases hf : w.faults = []
  · rw [nextFailure_of_nil hf]
    exact Or.inr ⟨w, .refl w, fun _ => rfl, rfl⟩
  · rcases he : w.nextFailure q.name with ⟨_ | _ | _, f⟩
    all_goals rw [he] at hs
    · refine Or.inr ⟨f, hs, fun h => absurd h hf, ?_⟩
      rw [← hs.store, ← hs.now]
      rfl
    · exact Or.inl ⟨_, f, hf, rfl, hs⟩
    · refine Or.inr ⟨f, hs, fun h => absurd h hf, ?_⟩
      rw [← hs.store, ← hs.now]
      rfl

theorem answerCache_cases (w : World) (q : Cache.Request) :
    (∃ e f, w.faults ≠ [] ∧ w.answerCache false q = (.error e, f) ∧ SameState w f) ∨
      ∃ f, SameState w f ∧ (w.faults = [] → f = w) ∧ w.answerCache false q =
        (.ok (w.cache.answer w.ticks q).1, { f with cache := (w.cache.answer w.ticks q).2 }) := by
  unfold answerCache
  have hs := sameState_nextFailure w q.name
  by_cases hf : w.faults = []
  · rw [nextFailure_of_nil hf]
    exact Or.inr ⟨w, .refl w, fun _ => rfl, rfl⟩
  · rcases he : w.nextFailure q.name with ⟨_ | _ | _, f⟩
    all_goals rw [he] at hs
    · refine Or.inr ⟨f, hs, fun h => absurd h hf, ?_⟩
      rw [← hs.cache, ← hs.ticks]
      rfl
    · refine Or.inr ⟨f, hs, fun h => absurd h hf, ?_⟩
      rw [← hs.cache, ← hs.ticks]
      rfl
    · exact Or.inl ⟨_, f, hf, rfl, hs⟩

/-! ## Turns by their answers -/

theorem Turn.store_cases {q : Store.Request} {x : Except StoreError q.Answer}
    (h : Turn mayFail w (.store q) x w') :
    ((∃ e, x = .error e) ∧ SameState w w' ∧ (mayFail ∨ w.faults ≠ [])) ∨
      w.store.answer w.now q = (x, w'.store) ∧ w'.cache = w.cache ∧ w'.now = w.now ∧
        w'.ticks = w.ticks := by
  cases h with
  | storeFails hm _ _ e => exact Or.inl ⟨⟨e, rfl⟩, .refl w, Or.inl hm⟩
  | answered =>
    rcases answerStore_cases w q with ⟨e, f, hn, he, hf⟩ | ⟨f, hf, _, he⟩
    · have h1 : (w.answer false (.store q)).1 = .error e := congrArg Prod.fst he
      have h2 : (w.answer false (.store q)).2 = f := congrArg Prod.snd he
      rw [h1, h2]
      exact Or.inl ⟨⟨e, rfl⟩, hf, Or.inr hn⟩
    · have h1 : (w.answer false (.store q)).1 = _ := congrArg Prod.fst he
      have h2 : (w.answer false (.store q)).2 = _ := congrArg Prod.snd he
      rw [h1, h2]
      exact Or.inr ⟨rfl, hf.cache, hf.now, hf.ticks⟩

theorem Turn.cache_cases {q : Cache.Request} {x : Except CacheError q.Answer}
    (h : Turn mayFail w (.cache q) x w') :
    ((∃ e, x = .error e) ∧ SameState w w' ∧ (mayFail ∨ w.faults ≠ [])) ∨
      ∃ a, x = .ok a ∧ w.cache.answer w.ticks q = (a, w'.cache) ∧ w'.store = w.store ∧
        w'.now = w.now ∧ w'.ticks = w.ticks := by
  cases h with
  | cacheFails hm _ _ e => exact Or.inl ⟨⟨e, rfl⟩, .refl w, Or.inl hm⟩
  | answered =>
    rcases answerCache_cases w q with ⟨e, f, hn, he, hf⟩ | ⟨f, hf, _, he⟩
    · have h1 : (w.answer false (.cache q)).1 = .error e := congrArg Prod.fst he
      have h2 : (w.answer false (.cache q)).2 = f := congrArg Prod.snd he
      rw [h1, h2]
      exact Or.inl ⟨⟨e, rfl⟩, hf, Or.inr hn⟩
    · have h1 : (w.answer false (.cache q)).1 = _ := congrArg Prod.fst he
      have h2 : (w.answer false (.cache q)).2 = _ := congrArg Prod.snd he
      rw [h1, h2]
      exact Or.inr ⟨_, rfl, rfl, hf.store, hf.now, hf.ticks⟩

theorem Turn.store_ok {q : Store.Request} {a : q.Answer}
    (h : Turn mayFail w (.store q) (.ok a) w') :
    w.store.answer w.now q = (.ok a, w'.store) ∧ w'.cache = w.cache ∧ w'.now = w.now ∧
      w'.ticks = w.ticks := by
  rcases h.store_cases with ⟨⟨e, he⟩, _⟩ | h
  · cases he
  · exact h

theorem Turn.store_error {q : Store.Request} {e : StoreError}
    (h : Turn mayFail w (.store q) (.error e) w') :
    SameState w w' ∧ (mayFail ∨ w.faults ≠ [] ∨ (w.store.answer w.now q).1 = .error e) := by
  rcases h.store_cases with ⟨_, hs, hm | hn⟩ | ⟨he, hc, hn, ht⟩
  · exact ⟨hs, Or.inl hm⟩
  · exact ⟨hs, Or.inr (Or.inl hn)⟩
  · have h1 : (w.store.answer w.now q).1 = .error e := congrArg Prod.fst he
    have h2 : (w.store.answer w.now q).2 = w'.store := congrArg Prod.snd he
    rw [Store.Memory.answer_of_error h1] at h2
    exact ⟨⟨h2.symm, hc, hn, ht⟩, Or.inr (Or.inr h1)⟩

theorem Turn.cache_ok {q : Cache.Request} {a : q.Answer}
    (h : Turn mayFail w (.cache q) (.ok a) w') :
    w.cache.answer w.ticks q = (a, w'.cache) ∧ w'.store = w.store ∧ w'.now = w.now ∧
      w'.ticks = w.ticks := by
  rcases h.cache_cases with ⟨⟨e, he⟩, _⟩ | ⟨b, hb, h⟩
  · cases he
  · cases hb
    exact h

theorem Turn.cache_error {q : Cache.Request} {e : CacheError}
    (h : Turn mayFail w (.cache q) (.error e) w') :
    SameState w w' ∧ (mayFail ∨ w.faults ≠ []) := by
  rcases h.cache_cases with ⟨_, h⟩ | ⟨b, hb, _⟩
  · exact h
  · cases hb

/-- A question that goes neither to the store nor to the cache. -/
def IsAside : Ask → Prop
  | .store _ => False
  | .cache _ => False
  | _ => True

theorem Turn.aside {q : Ask} {a : q.Answer} (hq : IsAside q) (h : Turn mayFail w q a w') :
    SameState w w' := by
  cases h with
  | answered =>
    cases q with
    | clock => exact .refl w
    | store q => exact hq.elim
    | cache q => exact hq.elim
    | deliver identifier code =>
      change SameState w (w.answerDelivery identifier code).2
      unfold answerDelivery
      split
      · exact .refl w
      · dsimp only
        split <;> exact ⟨rfl, rfl, rfl, rfl⟩
    | freshId => exact ⟨rfl, rfl, rfl, rfl⟩
    | freshCode => exact ⟨rfl, rfl, rfl, rfl⟩
    | freshSalt => exact ⟨rfl, rfl, rfl, rfl⟩
  | storeFails => exact hq.elim
  | cacheFails => exact hq.elim

/-- No question takes time. -/
theorem Turn.clocks {q : Ask} {a : q.Answer} (h : Turn mayFail w q a w') :
    w'.now = w.now ∧ w'.ticks = w.ticks := by
  cases q with
  | store q =>
    rcases h.store_cases with ⟨_, hs, _⟩ | ⟨_, _, hn, ht⟩
    · exact ⟨hs.now, hs.ticks⟩
    · exact ⟨hn, ht⟩
  | cache q =>
    rcases h.cache_cases with ⟨_, hs, _⟩ | ⟨_, _, _, _, hn, ht⟩
    · exact ⟨hs.now, hs.ticks⟩
    · exact ⟨hn, ht⟩
  | clock | deliver | freshId | freshCode | freshSalt =>
    have hs : SameState w w' := by
      refine h.aside ?_
      exact trivial
    exact ⟨hs.now, hs.ticks⟩

theorem Turn.clock {a : Time.Instant} (h : Turn mayFail w .clock a w') : a = w.now ∧ w' = w := by
  cases h
  exact ⟨rfl, rfl⟩

/-- Only the store's own questions touch the store. -/
theorem Turn.store_eq {q : Ask} {a : q.Answer} (h : Turn mayFail w q a w') :
    w'.store = w.store ∨ ∃ r, q = .store r ∧ w'.store = (w.store.answer w.now r).2 := by
  cases q with
  | store r =>
    rcases h.store_cases with ⟨_, hs, _⟩ | ⟨ha, _⟩
    · exact Or.inl hs.store
    · exact Or.inr ⟨r, rfl, (congrArg Prod.snd ha).symm⟩
  | cache r =>
    rcases h.cache_cases with ⟨_, hs, _⟩ | ⟨_, _, _, hs, _⟩
    · exact Or.inl hs.store
    · exact Or.inl hs
  | clock | deliver | freshId | freshCode | freshSalt =>
    refine Or.inl (h.aside ?_).store
    exact trivial

/-- Without failures in sight none comes into sight. -/
theorem Turn.faults {q : Ask} {a : q.Answer} (h : Turn mayFail w q a w') (hf : w.faults = []) :
    w'.faults = [] := by
  cases h with
  | storeFails => exact hf
  | cacheFails => exact hf
  | answered =>
    cases q with
    | store q =>
      change (w.answerStore false q).2.faults = []
      rcases answerStore_cases w q with ⟨e, f, hn, _, _⟩ | ⟨f, _, hw, he⟩
      · exact absurd hf hn
      · rw [he, hw hf]
        exact hf
    | cache q =>
      change (w.answerCache false q).2.faults = []
      rcases answerCache_cases w q with ⟨e, f, hn, _, _⟩ | ⟨f, _, hw, he⟩
      · exact absurd hf hn
      · rw [he, hw hf]
        exact hf
    | deliver identifier code =>
      change (w.answerDelivery identifier code).2.faults = []
      unfold answerDelivery
      split
      · exact hf
      · dsimp only
        split <;> exact hf
    | clock | freshId | freshCode | freshSalt => exact hf

/-! ## Answers without failures -/

theorem answer_store_of_passes {q : Store.Request} (h : w.nextFailure q.name = (none, w)) :
    w.answer false (.store q) =
      ((w.store.answer w.now q).1, { w with store := (w.store.answer w.now q).2 }) := by
  change w.answerStore false q = _
  unfold answerStore
  rw [h]
  rfl

theorem answer_store (hf : w.faults = []) (q : Store.Request) :
    w.answer false (.store q) =
      ((w.store.answer w.now q).1, { w with store := (w.store.answer w.now q).2 }) :=
  answer_store_of_passes (nextFailure_of_nil hf q.name)

theorem answer_cache (hf : w.faults = []) (q : Cache.Request) :
    w.answer false (.cache q) =
      (.ok (w.cache.answer w.ticks q).1, { w with cache := (w.cache.answer w.ticks q).2 }) := by
  change w.answerCache false q = _
  unfold answerCache
  rw [nextFailure_of_nil hf]
  rfl

theorem run_storeOr_of_passes {onError : StoreError → AuthError} {q : Store.Request}
    {a : q.Answer} {m : Store.Memory} (hn : w.nextFailure q.name = (none, w))
    (h : w.store.answer w.now q = (.ok a, m)) :
    w.run false (Operation.storeOr onError q).run = (.ok a, { w with store := m }) := by
  obtain ⟨k, hk, hok⟩ := Operation.storeOr_run onError q
  unfold run
  rw [hk]
  unfold Dialog.run
  rw [answer_store_of_passes hn, h]
  dsimp only
  rw [hok]
  rfl

theorem run_storeOr (hf : w.faults = []) {onError : StoreError → AuthError} {q : Store.Request}
    {a : q.Answer} {m : Store.Memory} (h : w.store.answer w.now q = (.ok a, m)) :
    w.run false (Operation.storeOr onError q).run = (.ok a, { w with store := m }) :=
  run_storeOr_of_passes (nextFailure_of_nil hf q.name) h

/-- A lookup finds what is in the store, and leaves everything as it is. -/
theorem run_lookup (hf : w.faults = []) {q : Store.Request} {a : q.Answer}
    (h : w.store.answer w.now q = (.ok a, w.store)) :
    w.run false (Operation.store q).run = (.ok a, w) := run_storeOr hf h

/-- A call that is set to fail does so, and leaves everything as it is. -/
theorem run_storeOr_of_fails (onError : StoreError → AuthError) {q : Store.Request}
    {e : StoreError} (hn : w.nextFailure q.name = (some (.store e), w)) :
    w.run false (Operation.storeOr onError q).run = (.error (onError e), w) := by
  have hanswer : w.answer false (.store q) = (.error e, w) := by
    change w.answerStore false q = _
    unfold answerStore
    rw [hn]
    rfl
  change Dialog.run (answer false) w (.ask (.store q) _) = _
  unfold Dialog.run
  rw [hanswer]
  rfl

theorem run_cacheOr_of_fails (onError : CacheError → AuthError) {q : Cache.Request}
    {e : CacheError} (hn : w.nextFailure q.name = (some (.cache e), w)) :
    w.run false (Operation.cacheOr onError q).run = (.error (onError e), w) := by
  have hanswer : w.answer false (.cache q) = (.error e, w) := by
    change w.answerCache false q = _
    unfold answerCache
    rw [hn]
    rfl
  change Dialog.run (answer false) w (.ask (.cache q) _) = _
  unfold Dialog.run
  rw [hanswer]
  rfl

theorem run_cacheOr (hf : w.faults = []) {onError : CacheError → AuthError} {q : Cache.Request}
    {a : q.Answer} {m : Cache.Memory} (h : w.cache.answer w.ticks q = (a, m)) :
    w.run false (Operation.cacheOr onError q).run = (.ok a, { w with cache := m }) := by
  obtain ⟨k, hk, hok⟩ := Operation.cacheOr_run onError q
  unfold run
  rw [hk]
  unfold Dialog.run
  rw [answer_cache hf, h]
  dsimp only
  rw [hok]
  rfl

end SignIn.World
