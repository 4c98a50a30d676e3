-- The gate before the protected endpoints. A request is handed on exactly if
-- its bearer is the live one of an account and holds the permission; all others
-- are refused, and leave everything as it is.
import SignIn.Http.Service
import SignIn.Proofs.Http.Admission
import SignIn.Proofs.Store.Owners

namespace SignIn.Http

open Dialog (run_bind_of_ok run_bind_of_error)
open Session (run_isAlive run_isAlive_sheds runEvents sampleSettings sampleWorld sampleRegistration
  sampleClaims)

variable {s : Settings} {w : World} {r : Request} {α β ε ε' : Type}

/-! ## Checks -/

/-- A check lets through exactly with what `post` says, and everything is as it was then. Or nothing
is as `post` says, and it refuses as `refused` says: the store is as it was, and the cache has at
most lost entries whose time was over. -/
def Decides (w : World) (op : ExceptT ε Program α) (post : α → Prop) (refused : ε → Prop) : Prop :=
  (∃ a, w.run false op.run = (.ok a, w) ∧ ∀ b, post b ↔ b = a) ∨
    ∃ e w', w.run false op.run = (.error e, w') ∧ (∀ b, ¬ post b) ∧ refused e ∧
      w'.store = w.store ∧ w.cache.Sheds w.ticks w'.cache

variable {op : ExceptT ε Program α} {post post' : α → Prop} {refused refused' : ε → Prop}

theorem decides_of_ok {a : α} (h : w.run false op.run = (.ok a, w)) (ha : ∀ b, post b ↔ b = a) :
    Decides w op post refused := Or.inl ⟨a, h, ha⟩

theorem decides_of_error {e : ε} (h : w.run false op.run = (.error e, w)) (hnone : ∀ b, ¬ post b)
    (he : refused e) : Decides w op post refused :=
  Or.inr ⟨e, w, h, hnone, he, rfl, .refl _ _⟩

theorem Decides.imp (h : Decides w op post refused) (hp : ∀ a, post' a ↔ post a)
    (hr : (∀ a, ¬ post' a) → ∀ e, refused e → refused' e) : Decides w op post' refused' := by
  rcases h with ⟨a, hrun, ha⟩ | ⟨e, w', hrun, hnone, he, hkept⟩
  · exact decides_of_ok hrun fun b => (hp b).trans (ha b)
  · have hnone' : ∀ b, ¬ post' b := fun b hb => hnone b ((hp b).1 hb)
    exact Or.inr ⟨e, w', hrun, hnone', hr hnone' e he, hkept⟩

/-- One check after another. -/
theorem Decides.bind {f : α → ExceptT ε Program β} {next : α → β → Prop}
    (h : Decides w op post refused) (hf : ∀ a, post a → Decides w (f a) (next a) refused) :
    Decides w (op >>= f) (fun b => ∃ a, post a ∧ next a b) refused := by
  rcases h with ⟨a, hrun, ha⟩ | ⟨e, w', hrun, hnone, hkept⟩
  · have hfa : Decides w (op >>= f) (next a) refused := by
      unfold Decides
      rw [show w.run false (op >>= f).run = w.run false (f a).run from run_bind_of_ok f hrun]
      exact hf a ((ha a).2 rfl)
    refine hfa.imp (fun b => ⟨?_, fun hb => ⟨a, (ha a).2 rfl, hb⟩⟩) fun _ _ he => he
    rintro ⟨a', ha', hb⟩
    obtain rfl := (ha a').1 ha'
    exact hb
  · refine Or.inr ⟨e, w', run_bind_of_error f hrun, ?_, hkept⟩
    rintro b ⟨a, ha, _⟩
    exact hnone a ha

theorem decides_pure (a : α) :
    Decides w (pure a : ExceptT ε Program α) (fun b => b = a) refused :=
  decides_of_ok rfl fun _ => Iff.rfl

theorem decides_orFail (o : Option α) {e : ε} (he : refused e) :
    Decides w (orFail e o) (fun a => o = some a) refused := by
  cases o with
  | some a => exact decides_of_ok rfl fun b => by simp [eq_comm]
  | none => exact decides_of_error rfl (fun b => by simp) he

theorem decides_failIf (c : Bool) {e : ε} (he : refused e) :
    Decides w (failIf c e) (fun _ => c = false) refused := by
  cases c with
  | false => exact decides_of_ok rfl fun b => by simp
  | true => exact decides_of_error rfl (fun b => by simp) he

theorem decides_ofExcept (x : Except ε α) (he : ∀ e, x = .error e → refused e) :
    Decides w (ofExcept x) (fun a => x = .ok a) refused := by
  cases x with
  | ok a => exact decides_of_ok rfl fun b => by simp [eq_comm]
  | error e => exact decides_of_error rfl (fun b => by simp) (he e rfl)

theorem decides_clock :
    Decides w (ExceptT.lift (Program.lift .clock) : ExceptT ε Program Time.Instant)
      (fun now => now = w.now) refused :=
  decides_of_ok rfl fun _ => Iff.rfl

theorem Decides.orUnauthorized {op : Operation α} {text : String} {refused : ApiError → Prop}
    (h : Decides w op post fun _ => True) (he : refused (.unauthorized text)) :
    Decides w (orUnauthorized text op) post refused := by
  rcases h with ⟨a, hrun, ha⟩ | ⟨e, w', hrun, hnone, _, hkept⟩
  · exact decides_of_ok (run_orUnauthorized hrun) ha
  · refine Or.inr ⟨.unauthorized text, w', ?_, hnone, he, hkept⟩
    unfold World.run at hrun ⊢
    unfold Http.orUnauthorized
    change Dialog.run (World.answer false) w (op.run >>= _) = _
    rw [Dialog.run_bind, hrun]
    rfl

/-! ## The checks of a bearer -/

theorem decides_verify (kind : TokenKind) (token : String) :
    Decides w (Session.verify s kind token)
      (fun c => Token.verify token kind (Token.secretOf s kind) w.now.unixSeconds = .ok c)
      fun _ => True := by
  unfold Session.verify
  refine ((decides_ofExcept _ fun _ _ => trivial).bind fun signed _ => decides_clock.bind
    fun now _ => decides_ofExcept _ fun _ _ => trivial).imp (fun c => ?_) fun _ _ _ => trivial
  unfold Token.verify
  cases Token.Signed.ofToken token (Token.secretOf s kind) with
  | error e =>
    constructor
    · intro h
      cases h
    · rintro ⟨_, h, _⟩
      cases h
  | ok signed =>
    constructor
    · intro h
      have hok : signed.accept kind w.now.unixSeconds = .ok c := h
      exact ⟨signed, rfl, w.now, rfl, congrArg (Except.mapError Session.refused) hok⟩
    · rintro ⟨signed', hsigned, now, rfl, h⟩
      cases hsigned
      exact Dialog.ok_of_mapError h

theorem decides_emailExists (hf : w.faults = []) (email : String) :
    Decides w (Session.emailExists email)
      (fun known => known = w.store.emailExists (Text.normalize email)) fun _ => True :=
  decides_of_ok (World.run_lookup hf rfl) fun _ => Iff.rfl

/-- A marker of the user has time left and names the id. -/
def IsMarked (s : Settings) (w : World) (userId : Int) (id : String) : Prop :=
  ∃ e, w.cache.find? (s.accessKey userId) = some e ∧ w.ticks < e.expiresAt ∧ e.value = id

/-- The check of the marker, and what comes after it. Where no marker has time left, one whose time
is over may be dropped. -/
theorem decides_alive (hf : w.faults = []) {userId : Int} {id text : String} {e : ApiError}
    {f : ExceptT ApiError Program β} {next : β → Prop} {refused : ApiError → Prop}
    (ht : refused (.unauthorized text)) (he : refused e) (h : Decides w f next refused) :
    Decides w
      (do
        let alive ← orUnauthorized text (Session.isAlive s userId id)
        failIf (!alive) e
        f)
      (fun b => IsMarked s w userId id ∧ next b) refused := by
  by_cases hlive : ∃ m, w.cache.find? (s.accessKey userId) = some m ∧ w.ticks < m.expiresAt
  · obtain ⟨m, hm, hover⟩ := hlive
    have halive : Decides w (Session.isAlive s userId id) (fun alive => alive = (m.value == id))
        fun _ => True := decides_of_ok (run_isAlive id hm hover hf) fun _ => Iff.rfl
    refine ((halive.orUnauthorized ht).bind fun alive _ =>
      (decides_failIf (!alive) he).bind fun _ _ => h).imp (fun b => ?_) fun _ _ hr => hr
    constructor
    · rintro ⟨⟨m', hm', _, rfl⟩, hb⟩
      obtain rfl := Option.some.inj (hm.symm.trans hm')
      exact ⟨true, (beq_self_eq_true _).symm, (), rfl, hb⟩
    · rintro ⟨alive, rfl, _, ha, hb⟩
      exact ⟨⟨m, hm, hover, eq_of_beq (by simpa using ha)⟩, hb⟩
  · have hnone : ∀ m, w.cache.find? (s.accessKey userId) = some m → ¬ w.ticks < m.expiresAt :=
      fun m hm hover => hlive ⟨m, hm, hover⟩
    obtain ⟨cache, hsheds, hrun⟩ := run_isAlive_sheds id hnone hf
    refine Or.inr ⟨e, { w with cache := cache }, ?_, ?_, he, rfl, hsheds⟩
    · exact run_bind_of_ok _ (run_orUnauthorized hrun)
    · rintro b ⟨⟨m, hm, hover, _⟩, _⟩
      exact hlive ⟨m, hm, hover⟩

/-! ## Bearers of live tokens -/

/-- The request bears an access token with these claims: its first `Authorization` header is
readable and holds, behind `Bearer` and a blank, a token that is one now, whose email an account has
that is not deleted, whose id the user's marker names, and which has not ended. -/
structure BearsLive (s : Settings) (w : World) (r : Request) (c : Claims) : Prop where
  bears : ∃ rest, r.header? "authorization" = some ("Bearer " ++ rest) ∧
    isReadable ("Bearer " ++ rest) = true ∧ Text.trim rest ≠ "" ∧
    Token.verify (Text.trim rest) .access (Token.secretOf s .access) w.now.unixSeconds = .ok c
  named : c.email ≠ ""
  known : ∃ row ∈ w.store.liveRows, row.user.email = Text.normalize c.email
  marked : IsMarked s w c.userId c.id
  inTime : w.now.unixSeconds < c.expiresAt

/-- A request bears the claims of one token at most. -/
theorem BearsLive.unique {c c' : Claims} (h : BearsLive s w r c) (h' : BearsLive s w r c') :
    c = c' := by
  obtain ⟨rest, hheader, _, _, hv⟩ := h.bears
  obtain ⟨rest', hheader', _, _, hv'⟩ := h'.bears
  obtain rfl : rest = rest' := by simpa [hheader] using hheader'
  exact Except.ok.inj (hv.symm.trans hv')

theorem isPrefixOf_iff_exists {before text : String} :
    before.toList.isPrefixOf text.toList = true ↔ ∃ rest, text = before ++ rest := by
  rw [List.isPrefixOf_iff_prefix]
  constructor
  · rintro ⟨rest, hrest⟩
    exact ⟨String.ofList rest, by rw [← String.toList_inj, String.toList_append,
      String.toList_ofList, hrest]⟩
  · rintro ⟨rest, rfl⟩
    exact ⟨rest.toList, (String.toList_append ..).symm⟩

theorem ofList_drop_append (before rest : String) :
    String.ofList ((before ++ rest).toList.drop before.toList.length) = rest := by
  rw [String.toList_append, List.drop_left, String.ofList_toList]

theorem bearerToken?_eq_some {header token : String} :
    bearerToken? header = some token ↔
      ∃ rest, header = "Bearer " ++ rest ∧ Text.trim rest = token ∧ token ≠ "" := by
  unfold bearerToken?
  dsimp only
  by_cases hscheme : "Bearer ".toList.isPrefixOf header.toList = true
  · obtain ⟨rest, rfl⟩ := isPrefixOf_iff_exists.1 hscheme
    rw [if_pos hscheme, ofList_drop_append]
    constructor
    · intro h
      split at h
      · cases h
      · rename_i hne
        exact ⟨rest, rfl, Option.some.inj h, fun he => hne (by rw [Option.some.inj h, he]; rfl)⟩
    · rintro ⟨rest', hrest, rfl, hne⟩
      obtain rfl : rest = rest' := by simpa using hrest
      rw [if_neg fun he => hne (String.isEmpty_iff.1 he)]
  · rw [if_neg hscheme]
    refine ⟨nofun, ?_⟩
    rintro ⟨rest, rfl, _⟩
    exact absurd (isPrefixOf_iff_exists.2 ⟨rest, rfl⟩) hscheme

theorem bearerOf?_eq_some {token : String} :
    bearerOf? r = some token ↔ ∃ rest, r.header? "authorization" = some ("Bearer " ++ rest) ∧
      isReadable ("Bearer " ++ rest) = true ∧ Text.trim rest = token ∧ token ≠ "" := by
  unfold bearerOf? Request.readable?
  rw [Option.bind_eq_some_iff]
  constructor
  · rintro ⟨header, hheader, htoken⟩
    obtain ⟨rest, rfl, htrim, hne⟩ := bearerToken?_eq_some.1 htoken
    obtain ⟨hheader, hread⟩ := Option.filter_eq_some_iff.1 hheader
    exact ⟨rest, hheader, hread, htrim, hne⟩
  · rintro ⟨rest, hheader, hread, htrim, hne⟩
    exact ⟨_, Option.filter_eq_some_iff.2 ⟨hheader, hread⟩,
      bearerToken?_eq_some.2 ⟨rest, rfl, htrim, hne⟩⟩

/-- Whom a request is admitted for. -/
def principalOf (c : Claims) : Principal := ⟨c.userId, c.email, c.permissions⟩

/-- Who bears a live token is admitted, and nobody else. -/
theorem decides_authenticate (hf : w.faults = []) (r : Request) :
    Decides w (authenticate s r) (fun p => ∃ c, BearsLive s w r c ∧ p = principalOf c)
      fun e => ∃ text, e = .unauthorized text := by
  unfold authenticate
  refine ((decides_orFail _ ⟨_, rfl⟩).bind fun header _ =>
    (decides_orFail _ ⟨_, rfl⟩).bind fun token _ =>
    ((decides_verify .access token).orUnauthorized ⟨_, rfl⟩).bind fun c _ =>
    (decides_failIf _ ⟨_, rfl⟩).bind fun _ _ =>
    ((decides_emailExists hf c.email).orUnauthorized ⟨_, rfl⟩).bind fun known _ =>
    (decides_failIf _ ⟨_, rfl⟩).bind fun _ _ =>
    decides_alive hf ⟨_, rfl⟩ ⟨_, rfl⟩ <|
    decides_clock.bind fun now _ =>
    (decides_failIf _ ⟨_, rfl⟩).bind fun _ _ => decides_pure _).imp (fun p => ?_) fun _ _ he => he
  constructor
  · rintro ⟨c, ⟨⟨rest, hheader, hread, hne, hv⟩, hnamed, hknown, hmarked, hend⟩, rfl⟩
    obtain ⟨header, hreadable, htoken⟩ := Option.bind_eq_some_iff.1
      (bearerOf?_eq_some.2 ⟨rest, hheader, hread, rfl, hne⟩)
    exact ⟨header, hreadable, _, htoken, c, hv, (), by simpa using hnamed, true,
      (Store.Memory.emailExists_iff.2 hknown).symm, (), rfl, hmarked, _, rfl, (),
      by simpa using hend, rfl⟩
  · rintro ⟨header, hreadable, token, htoken, c, hv, _, hnamed, known, hknown, _, hthere, hmarked,
      _, rfl, _, hend, rfl⟩
    obtain ⟨rest, hheader, hread, rfl, hne⟩ :=
      bearerOf?_eq_some.1 (Option.bind_eq_some_iff.2 ⟨header, hreadable, htoken⟩)
    obtain rfl : known = true := by simpa using hthere
    exact ⟨c, ⟨⟨rest, hheader, hread, hne, hv⟩, by simpa using hnamed,
      Store.Memory.emailExists_iff.1 hknown.symm, hmarked, by simpa using hend⟩, rfl⟩

/-! ## Protected endpoints -/

/-- An endpoint behind the gate. -/
inductive Endpoint
  | viewProfile
  | deleteProfile
  | revokeSessions (segment : String)

namespace Endpoint

def route : Endpoint → Route
  | .viewProfile | .deleteProfile => .ownAccount
  | .revokeSessions segment => .revokeSessions segment

def methods : Endpoint → List String
  | .viewProfile => ["GET", "HEAD"]
  | .deleteProfile => ["DELETE"]
  | .revokeSessions _ => ["POST"]

/-- The permission that the endpoint requires. -/
def permission : Endpoint → String
  | .viewProfile => viewOwnProfile
  | .deleteProfile => deleteOwnProfile
  | .revokeSessions _ => revokeAnySessions

/-- What the endpoint does for a principal. -/
def handler (s : Settings) (p : Principal) : Endpoint → Program Response
  | .viewProfile => answer (Session.profile p.userId) .ofAuth fun user => .json 200 user.json
  | .deleteProfile => answer (Session.deleteAccount s p.userId) .ofAuth fun _ => .bare 204
  | .revokeSessions segment =>
    match userIdOf segment with
    | .error text => return .plain 400 text
    | .ok userId =>
      answer (Session.revokeAll s userId) .ofAuth fun n => .json 200 (revokedJson userId n)

/-- The request is for the endpoint, by its method and its path. -/
structure Takes (e : Endpoint) (r : Request) : Prop where
  path : Route.ofPath? (pathOf r.target) = some e.route
  method : r.method ∈ e.methods

/-- Lets those through that are authenticated and hold the permission. -/
def gate (s : Settings) (r : Request) (e : Endpoint) : ExceptT ApiError Program Principal := do
  let p ← authenticate s r
  ofExcept (enforce (requiredNames [e.permission]) (some p))
  return p

/-- Hands a request on to the handler if the gate lets it through. -/
def serve (s : Settings) (r : Request) (e : Endpoint) : Program Response := do
  match ← (e.gate s r).run with
  | .ok p => return finish r (some e.route) (← e.handler s p)
  | .error refusal => return finish r (some e.route) refusal.response

variable {e : Endpoint}

theorem requiredNames_permission (e : Endpoint) :
    requiredNames [e.permission] = [e.permission] := by
  cases e with
  | viewProfile | deleteProfile => decide +kernel
  | revokeSessions =>
    change requiredNames [revokeAnySessions] = [revokeAnySessions]
    decide +kernel

theorem enforce_permission (e : Endpoint) (p : Principal) :
    enforce (requiredNames [e.permission]) (some p) =
      if e.permission ∈ p.permissions then .ok ()
      else .error (.missingPermissions [e.permission]) := by
  rw [requiredNames_permission]
  unfold enforce missingNames
  by_cases h : e.permission ∈ p.permissions <;> simp [h]

theorem answerPrincipal_eq (h : e.Takes r) (p : Principal) :
    answerPrincipal s r p (some e.route) = guarded e.permission p (e.handler s p) := by
  have hm := h.method
  cases e with
  | viewProfile =>
    have hview : r.method = "GET" ∨ r.method = "HEAD" := by simpa [methods] using hm
    exact if_pos hview
  | deleteProfile =>
    have hdelete : r.method = "DELETE" := by simpa [methods] using hm
    exact (if_neg (by simp [hdelete])).trans (if_pos hdelete)
  | revokeSessions segment =>
    have hpost : r.method = "POST" := by simpa [methods] using hm
    exact if_pos hpost

theorem answerRoute_eq (h : e.Takes r) :
    answerRoute s r (some e.route) = answerProtected s r (some e.route) := by
  have hm := h.method
  unfold answerRoute
  rw [if_neg ?_]
  · cases e <;> rfl
  · intro hoptions
    rw [hoptions] at hm
    cases e <;> simp [methods] at hm

/-- A request for a protected endpoint is answered by its handler, behind its gate. -/
theorem respond_eq_serve (h : e.Takes r) : respond s r = e.serve s r := by
  have hgate : (e.gate s r).run = (authenticate s r).run >>= fun
      | .ok p => if e.permission ∈ p.permissions then pure (.ok p)
        else pure (.error (.missingPermissions [e.permission]))
      | .error refusal => pure (.error refusal) := by
    unfold gate
    refine congrArg ((authenticate s r).run >>= ·) (funext fun x => ?_)
    cases x with
    | error refusal => rfl
    | ok p =>
      dsimp only [ExceptT.bindCont]
      rw [enforce_permission]
      split <;> rfl
  unfold respond serve
  dsimp only
  rw [h.path, answerRoute_eq h, hgate]
  unfold answerProtected
  rw [Dialog.bind_assoc, Dialog.bind_assoc]
  refine congrArg ((authenticate s r).run >>= ·) (funext fun x => ?_)
  cases x with
  | error refusal => rfl
  | ok p =>
    dsimp only
    rw [answerPrincipal_eq h p]
    unfold guarded
    rw [enforce_permission]
    by_cases hheld : e.permission ∈ p.permissions
    · rw [if_pos hheld, if_pos hheld]
      rfl
    · rw [if_neg hheld, if_neg hheld]
      rfl

/-- Who bears a live token, and does not hold the permission, is told so; nobody else gets that
far. -/
def Refuses (s : Settings) (w : World) (r : Request) (e : Endpoint) (refusal : ApiError) : Prop :=
  (∃ c, BearsLive s w r c) ∧ refusal = .missingPermissions [e.permission] ∨
    (¬ ∃ c, BearsLive s w r c) ∧ ∃ text, refusal = .unauthorized text

theorem decides_gate (hf : w.faults = []) (r : Request) (e : Endpoint) :
    Decides w (e.gate s r)
      (fun p => ∃ c, BearsLive s w r c ∧ e.permission ∈ c.permissions ∧ p = principalOf c)
      (e.Refuses s w r) := by
  have hauthenticate : Decides w (authenticate s r)
      (fun p => ∃ c, BearsLive s w r c ∧ p = principalOf c) (e.Refuses s w r) :=
    (decides_authenticate hf r).imp (fun _ => Iff.rfl) fun hnone _ he =>
      Or.inr ⟨fun ⟨c, hc⟩ => hnone _ ⟨c, hc, rfl⟩, he⟩
  unfold gate
  refine (hauthenticate.bind fun p hp => (decides_ofExcept _ fun refusal hr => ?_).bind
    fun _ _ => decides_pure p).imp (fun p => ?_) fun _ _ he => he
  · obtain ⟨c, hc, _⟩ := hp
    rw [enforce_permission] at hr
    split at hr
    · cases hr
    · cases hr
      exact Or.inl ⟨⟨c, hc⟩, rfl⟩
  · constructor
    · rintro ⟨c, hc, hheld, rfl⟩
      refine ⟨_, ⟨c, hc, rfl⟩, (), ?_, rfl⟩
      rw [enforce_permission]
      exact if_pos hheld
    · rintro ⟨_, ⟨c, hc, rfl⟩, _, hok, rfl⟩
      refine ⟨c, hc, ?_, rfl⟩
      rw [enforce_permission] at hok
      split at hok
      · assumption
      · cases hok

theorem status_finish (r : Request) (route : Option Route) (response : Response) :
    (finish r route response).status = response.status := by
  unfold finish withAllow openToAll Response.withHeader Response.withoutBody
  split <;> split <;> try split
  all_goals rfl

/-- A protected endpoint's handler is reached exactly by who bears a live access token with the
endpoint's permission. All others are answered 403 if only the permission is missing, else 401, and
nothing is changed for them. -/
theorem handler_is_reached_iff (hf : w.faults = []) (ht : e.Takes r) :
    let reached := w.run false (e.gate s r).run
    let answered := w.run false (respond s r)
    respond s r = e.serve s r ∧
      (∀ p, reached.1 = .ok p ↔
        ∃ c, BearsLive s w r c ∧ e.permission ∈ c.permissions ∧ p = principalOf c) ∧
      (∀ p, reached.1 = .ok p →
        answered = w.run false (do return finish r (some e.route) (← e.handler s p))) ∧
      ((¬ ∃ c, BearsLive s w r c ∧ e.permission ∈ c.permissions) →
        ((∃ c, BearsLive s w r c) ∧ answered.1 = finish r (some e.route)
              (ApiError.missingPermissions [e.permission]).response ∧ answered.1.status = 403 ∨
          (¬ ∃ c, BearsLive s w r c) ∧ ∃ text, answered.1 = finish r (some e.route)
              (ApiError.unauthorized text).response ∧ answered.1.status = 401) ∧
        answered.2.store = w.store ∧ w.cache.Sheds w.ticks answered.2.cache) := by
  intro reached answered
  have hserve : respond s r = e.serve s r := respond_eq_serve ht
  have hrun : answered = w.run false (e.serve s r) := congrArg (w.run false) hserve
  unfold serve World.run at hrun
  rw [Dialog.run_bind] at hrun
  refine ⟨hserve, ?_⟩
  rcases decides_gate (s := s) hf r e with
    ⟨p, hp, hiff⟩ | ⟨refusal, w', hrefused, hnone, href, hstore, hsheds⟩
  · have hok : reached = (.ok p, w) := hp
    unfold World.run at hp
    rw [hp] at hrun
    refine ⟨fun q => ?_, fun q hq => ?_, fun hn => ?_⟩
    · refine Iff.trans ?_ (hiff q).symm
      rw [hok, Except.ok.injEq]
      exact eq_comm
    · rw [hok] at hq
      cases hq
      exact hrun
    · obtain ⟨c, hc, hheld, _⟩ := (hiff p).2 rfl
      exact absurd ⟨c, hc, hheld⟩ hn
  · have herror : reached = (.error refusal, w') := hrefused
    unfold World.run at hrefused
    rw [hrefused] at hrun
    have hanswered : answered = (finish r (some e.route) refusal.response, w') := hrun
    have hne : ∀ q, reached.1 ≠ .ok q := by
      intro q hq
      rw [herror] at hq
      cases hq
    refine ⟨fun q => ⟨fun hq => absurd hq (hne q), fun hq => absurd hq (hnone q)⟩,
      fun q hq => absurd hq (hne q), fun _ => ?_⟩
    rw [hanswered]
    refine ⟨?_, hstore, hsheds⟩
    rcases href with ⟨hlive, rfl⟩ | ⟨hdead, text, rfl⟩
    · exact Or.inl ⟨hlive, rfl, status_finish ..⟩
    · exact Or.inr ⟨hdead, text, rfl, status_finish ..⟩

end Endpoint

/-- The first user's request to end sessions, which the user may. -/
def sampleRevocation : Request :=
  { sampleRequest with method := "POST", target := "/api/v1/admin/users/2/sessions/revoke" }

/-- The first user's request for the user's own account, which the user may not see. -/
def sampleVisit : Request := { sampleRequest with target := "/api/v1/users/me" }

theorem route_sampleRevocation : Route.ofPath? (pathOf sampleRevocation.target) =
    some (.revokeSessions "2") := by
  have hpath : pathOf sampleRevocation.target = "/api/v1/admin/users/2/sessions/revoke" := by
    decide +kernel
  have hbetween : between? "/api/v1/admin/users/" "/sessions/revoke"
      "/api/v1/admin/users/2/sessions/revoke" = some "2" := by decide +kernel
  rw [hpath]
  unfold Route.ofPath?
  simp [hbetween]

theorem bearsLive_sample (hnow : w.now = sampleWorld.now)
    (hk : w.store.emailExists (Text.normalize "user@example.com") = true)
    (he : w.cache.find? (sampleSettings.accessKey 1) = some ⟨"0", 600000000000⟩)
    (hover : w.ticks < 600000000000) (hheaders : r.headers = sampleRequest.headers) :
    BearsLive sampleSettings w r (sampleClaims 1 "0") := by
  have hb : bearerOf? r = some (Token.sign
      (Token.secretOf sampleSettings .access) (sampleClaims 1 "0")) := by
    rw [← bearer_sampleRequest]
    unfold bearerOf? Request.readable? Request.header?
    rw [hheaders]
  obtain ⟨rest, hheader, hread, htrim, hne⟩ := bearerOf?_eq_some.1 hb
  rw [← htrim] at hne
  refine ⟨⟨rest, hheader, hread, hne, ?_⟩, by decide, Store.Memory.emailExists_iff.1 hk,
    ⟨_, he, hover, rfl⟩, ?_⟩
  · rw [htrim, hnow]
    exact Token.verify_sign _ (Token.fits_claimsUntil (by decide) _ _ _ _ _ _) rfl (by decide)
      (by decide) (by decide)
  · rw [hnow]
    decide

/-- The first user may end the sessions of others, but not see the user's own account. -/
theorem sample_is_gated :
    let w := (runEvents sampleSettings sampleWorld [.call (.register (sampleRegistration "1"))]).1
    (w.run false ((Endpoint.revokeSessions "2").gate sampleSettings sampleRevocation).run).1 =
        .ok ⟨1, "user@example.com", ["sessions.revoke.any"]⟩ ∧
      (w.run false (respond sampleSettings sampleVisit)).1.status = 403 := by
  intro w
  have hlive : ∀ r : Request, r.headers = sampleRequest.headers →
      BearsLive sampleSettings w r (sampleClaims 1 "0") := fun r hr =>
    bearsLive_sample (by decide +kernel) (by decide +kernel) (by decide +kernel)
      (by decide +kernel) hr
  have hf : w.faults = [] := by decide +kernel
  obtain ⟨_, hreached, _⟩ := Endpoint.handler_is_reached_iff (s := sampleSettings) (w := w) hf
    (e := .revokeSessions "2") (r := sampleRevocation) ⟨route_sampleRevocation, by decide⟩
  obtain ⟨_, _, _, hrefused⟩ := Endpoint.handler_is_reached_iff (s := sampleSettings) (w := w) hf
    (e := .viewProfile) (r := sampleVisit) ⟨by decide +kernel, by decide⟩
  refine ⟨(hreached _).2 ⟨_, hlive _ rfl, by decide, rfl⟩, ?_⟩
  have hnot : ¬ ∃ c, BearsLive sampleSettings w sampleVisit c ∧
      Endpoint.viewProfile.permission ∈ c.permissions := by
    rintro ⟨c, hc, hheld⟩
    rw [hc.unique (hlive sampleVisit rfl)] at hheld
    exact absurd hheld (by decide)
  rcases (hrefused hnot).1 with ⟨_, _, hstatus⟩ | ⟨hnone, _⟩
  · exact hstatus
  · exact absurd ⟨_, hlive sampleVisit rfl⟩ hnone

end SignIn.Http
