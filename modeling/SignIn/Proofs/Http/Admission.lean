-- Who is admitted. While no call fails, it is a live user with the email and
-- the permissions of the account, who shows the latest access token; where
-- calls may fail, it may also be a user who is deleted by now.
import SignIn.Http.Access
import SignIn.Proofs.Session.Runs
import SignIn.Proofs.Store.Records

namespace SignIn

theorem Text.trim_of_noBlank {s : String} (h : ∀ c ∈ s.toList, isBlank c = false) : trim s = s := by
  have hdrop : ∀ cs : List Char, (∀ c ∈ cs, isBlank c = false) → cs.dropWhile isBlank = cs := by
    intro cs hcs
    cases cs with
    | nil => rfl
    | cons c cs => rw [List.dropWhile_cons, hcs c List.mem_cons_self]; rfl
  unfold trim trimEnd trimStart
  rw [hdrop _ h, hdrop _ fun c hc => h c (List.mem_reverse.1 hc), List.reverse_reverse,
    String.ofList_toList]

namespace Http

open Dialog (Ensures Along Anything ensures_pure ensures_bind ensures_failIf ensures_orFail)
open Session (Quiet QuietOr Good LatestFor IsAccessOf Reached IsFresh runEvents sampleSettings
  sampleSettings_hasDefaultKeys sampleWorld sampleWorld_isFresh sampleRegistration sampleClaims
  sampleRefreshClaims)
open World (Turn)

variable {s : Settings} {mayFail : Prop} {w : World}

/-! ## Bearers -/

/-- The token that a request bears. -/
def bearerOf? (r : Request) : Option String := (r.readable? "authorization").bind bearerToken?

/-- A token that is sent as a bearer's is the one that the request bears. -/
theorem bearerOf?_sign (method target : String) (body secret : List UInt8) (c : Claims) :
    bearerOf? ⟨method, target, [("authorization", "Bearer " ++ Token.sign secret c)], body⟩ =
      some (Token.sign secret c) := by
  have hsym : ('.' :: Codec.Base64.urlSafe.symbols).all (fun ch =>
      decide (Text.isBlank ch = false ∧ (0x20 ≤ ch.toNat ∧ ch.toNat < 0x7F))) = true := by decide
  have hch := fun ch (h : ch ∈ (Token.sign secret c).toList) =>
    of_decide_eq_true (List.all_eq_true.1 hsym ch (Token.mem_sign h))
  have hbearer : "Bearer ".toList.all (fun ch => decide (0x20 ≤ ch.toNat ∧ ch.toNat < 0x7F)) =
      true := by decide
  have hread : isReadable ("Bearer " ++ Token.sign secret c) = true := by
    unfold isReadable
    rw [String.toList_append, List.all_eq_true]
    intro ch hm
    rcases List.mem_append.1 hm with h | h
    · simp [of_decide_eq_true (List.all_eq_true.1 hbearer ch h)]
    · simp [(hch ch h).2]
  have hne : (Token.sign secret c).isEmpty = false := by
    refine Bool.eq_false_iff.2 fun he => ?_
    have hm := Token.dot_mem_sign secret c
    rw [String.isEmpty_iff.1 he] at hm
    exact absurd hm (by decide)
  unfold bearerOf? Request.readable? Request.header?
  rw [List.lookup_cons, beq_self_eq_true]
  dsimp only
  rw [Option.filter_some, if_pos hread, Option.bind_some]
  unfold bearerToken?
  simp only [String.toList_append]
  rw [if_pos (by simp), List.drop_left, String.ofList_toList,
    Text.trim_of_noBlank fun ch h => (hch ch h).1, hne]
  rfl

/-! ## What is known of who is admitted -/

/-- What must have been the case when a principal was admitted: the request bears a token with these
claims, which is not over, an account that is not deleted has the email, and the user's marker names
the token. -/
structure AdmittedBy (s : Settings) (w : World) (token : String) (c : Claims) : Prop where
  signed : ∃ signed, Token.Signed.ofToken token (Token.secretOf s .access) = .ok signed ∧
    signed.claims = c
  inTime : w.now.unixSeconds < c.expiresAt
  known : w.store.emailExists (Text.normalize c.email) = true
  marked : ∃ e, w.cache.find? (s.accessKey c.userId) = some e ∧ e.value = c.id

theorem ensures_orUnauthorized {α : Type} {text : String} {op : Operation α}
    {post : α → World → Prop}
    (h : Ensures (Turn mayFail) Anything w op post fun _ _ => True) :
    Ensures (Turn mayFail) Anything w (orUnauthorized text op) post fun _ _ => True := by
  refine ⟨Dialog.holds_bind (d := op.run) (h.holds.imp fun w' r hr => ?_)⟩
  cases r with
  | ok a => exact hr
  | error e => exact trivial

theorem authenticate_admits (r : Request) :
    Ensures (Turn mayFail) Anything w (authenticate s r)
      (fun p _ => ∃ token c, bearerOf? r = some token ∧ p = ⟨c.userId, c.email, c.permissions⟩ ∧
        AdmittedBy s w token c)
      fun _ _ => True := by
  -- Each part is quiet, and takes no time.
  have hpart : ∀ {α : Type} {op : Operation α} {w₁ : World} {post post' : α → World → Prop},
      QuietOr s mayFail w w₁ op post → w₁.now = w.now →
      (∀ a w', post a w' → w'.now = w.now → post' a w') →
      Ensures (Turn mayFail) Anything w₁ op post' fun _ _ => True :=
    fun h hn hp => (h.keeping (fun _ _ _ _ hn ht => ht.clocks.1.trans hn) hn).imp
      (fun a w' h' => hp a w' h'.1 h'.2) fun _ _ _ => trivial
  unfold authenticate
  refine ensures_bind (ensures_orFail (fun header hh => ?_) fun _ => trivial)
  refine ensures_bind (ensures_orFail (fun token ht => ?_) fun _ => trivial)
  have hb : bearerOf? r = some token := by
    unfold bearerOf?
    rw [hh, Option.bind_some, ht]
  have hclock : ∀ q, q = .clock → Session.IsQuiet s q := by
    rintro _ rfl
    exact trivial
  have hquiet : Along (Turn mayFail) Anything (fun q => q = .clock) (Session.Quiet s) w :=
    Session.along_quiet hclock w
  refine ensures_bind (ensures_orUnauthorized (hpart
    ((hquiet.ensures (Session.verify_freely s .access token)).imp (fun _ _ h => h)
      fun _ _ h => h.2) rfl fun c w₁ hv hn₁ => ?_))
  obtain ⟨hsigned, h₁⟩ := hv
  refine ensures_bind (ensures_failIf (fun _ => trivial) fun _ => ?_)
  refine ensures_bind (ensures_orUnauthorized (hpart
    (Session.emailExists_quiet c.email h₁) hn₁ fun isKnown w₂ hk hn₂ => ?_))
  obtain ⟨h₂, hk⟩ := hk
  refine ensures_bind (ensures_failIf (fun _ => trivial) fun hknown => ?_)
  refine ensures_bind (ensures_orUnauthorized (hpart
    (Session.isAlive_quiet c.userId c.id h₂) hn₂ fun alive w₃ ha hn₃ => ?_))
  obtain ⟨_, ha⟩ := ha
  refine ensures_bind (ensures_failIf (fun _ => trivial) fun halive => ?_)
  refine ensures_bind ⟨And.intro trivial fun now w₄ ht => ?_⟩
  obtain rfl : now = w.now := (Turn.clock ht).1.trans hn₃
  refine ensures_bind (ensures_failIf (fun _ => trivial) fun hend => ?_)
  refine ensures_pure ⟨token, c, hb, rfl, hsigned, ?_, ?_, ha ?_⟩
  · have := of_decide_eq_false hend
    omega
  · rw [hk] at hknown
    unfold Store.Memory.emailExists at hknown ⊢
    rw [h₁.accounts.liveRows_eq] at hknown
    exact (Bool.not_eq_false' _).mp hknown
  · exact (Bool.not_eq_false' _).mp halive

/-! ## Who is let in -/

theorem run_orUnauthorized {α : Type} {text : String} {op : Operation α} {a : α} {w' : World}
    (h : w.run false op.run = (.ok a, w')) :
    w.run false (orUnauthorized text op).run = (.ok a, w') := by
  unfold World.run at h ⊢
  unfold orUnauthorized
  change Dialog.run (World.answer false) w (op.run >>= _) = _
  rw [Dialog.run_bind, h]
  rfl

/-- Who bears the live access token of an account that is there is let in. -/
theorem run_authenticate {r : Request} {token : String} {c : Claims} {e : Cache.Entry}
    (hb : bearerOf? r = some token)
    (hv : Token.verify token .access (Token.secretOf s .access) w.now.unixSeconds = .ok c)
    (hne : c.email.isEmpty = false) (hk : w.store.emailExists (Text.normalize c.email) = true)
    (he : w.cache.find? (s.accessKey c.userId) = some e) (hid : e.value = c.id)
    (hover : w.ticks < e.expiresAt) (hexp : w.now.unixSeconds < c.expiresAt) (hf : w.faults = []) :
    (w.run false (authenticate s r).run).1 = .ok ⟨c.userId, c.email, c.permissions⟩ := by
  unfold bearerOf? at hb
  obtain ⟨header, hh, ht⟩ := Option.bind_eq_some_iff.1 hb
  have hemail : w.run false (Session.emailExists c.email).run = (.ok true, w) :=
    World.run_lookup hf (by rw [← hk]; rfl)
  have halive : w.run false (Session.isAlive s c.userId c.id).run = (.ok true, w) := by
    rw [Session.run_isAlive c.id he hover hf, hid, beq_self_eq_true]
  have hclock : Dialog.run (World.answer false) w (ExceptT.lift (Program.lift .clock) :
      ExceptT ApiError Program Time.Instant).run = (.ok w.now, w) := rfl
  have hend : decide (c.expiresAt ≤ w.now.unixSeconds) = false := decide_eq_false (by omega)
  unfold authenticate World.run
  rw [hh, Dialog.run_bind_of_ok (a := header) (r := w) _ rfl, ht,
    Dialog.run_bind_of_ok (a := token) (r := w) _ rfl,
    Dialog.run_bind_of_ok _ (run_orUnauthorized (Session.run_verify_of_ok hv)),
    Dialog.run_bind_of_ok _ (Dialog.run_failIf hne),
    Dialog.run_bind_of_ok _ (run_orUnauthorized hemail),
    Dialog.run_bind_of_ok _ (Dialog.run_failIf Bool.not_true),
    Dialog.run_bind_of_ok _ (run_orUnauthorized halive),
    Dialog.run_bind_of_ok _ (Dialog.run_failIf Bool.not_true), Dialog.run_bind_of_ok _ hclock,
    Dialog.run_bind_of_ok _ (Dialog.run_failIf hend)]
  rfl

/-! ## Signatures -/

/-- Everything that has been signed with the service's secrets: claims, by the kind of their token.
No two tokens have the same id. -/
structure Signatures where
  holds : TokenKind → Claims → Prop
  distinct : ∀ {k c k' c'}, holds k c → holds k' c' → c.id = c'.id → k = k' ∧ c = c'

/-- The text is a token of the kind that has been signed. -/
def Signatures.covers (g : Signatures) (s : Settings) (k : TokenKind) (token : String) : Prop :=
  ∃ c, g.holds k c ∧ token = Token.sign (Token.secretOf s k) c

/-- The access tokens of all these pairs have been signed, and so has the token that the request
bears, if it bears one. -/
structure Signatures.Explains (g : Signatures) (s : Settings) (minted : List TokenPair)
    (r : Request) : Prop where
  minted : ∀ pair ∈ minted, g.covers s .access pair.access
  bearer : ∀ token, bearerOf? r = some token → ∃ k, g.covers s k token

/-- Who is admitted bears the latest access token of a user, which says what the account says. -/
theorem AdmittedBy.latest {minted : List TokenPair} {g : Signatures} {r : Request}
    {token : String} {c : Claims} (h : Good s w minted) (hg : g.Explains s minted r)
    (hb : bearerOf? r = some token) (ha : AdmittedBy s w token c) :
    ∃ row ∈ w.store.rows, row.user.id = c.userId ∧ row.user.email = c.email ∧
      c.permissions = w.store.grantedTo row.user.role ∧ c.Fits ∧
      LatestFor s c.userId token minted := by
  obtain ⟨k, c', hc', rfl⟩ := hg.bearer token hb
  obtain ⟨signed, hs, hsc⟩ := ha.signed
  obtain ⟨hsc', hfits⟩ := Token.claims_of_ofToken_sign hs
  obtain rfl : c' = c := hsc'.symm.trans hsc
  obtain ⟨e, he, hid⟩ := ha.marked
  obtain ⟨row, hrow, huser, now, expiresAt, hl⟩ := h.marked c'.userId e he
  obtain ⟨pair, hpair, hacc⟩ := hl.mem
  obtain ⟨c₁, hc₁, hsign⟩ := hg.minted pair hpair
  rw [hacc, Token.token_issueUntil] at hsign
  have hfits₀ := Token.fits_claimsUntil hfits.userId .access row.user.email
    (w.store.grantedTo row.user.role) now expiresAt e.value
  obtain rfl := Token.sign_injective hfits₀ hsign
  obtain ⟨rfl, heq⟩ := g.distinct hc' hc₁ hid.symm
  have htoken : Token.sign (Token.secretOf s .access) c' =
      (Token.issueUntil s .access c'.userId row.user.email (w.store.grantedTo row.user.role) now
        expiresAt e.value).token := by
    rw [Token.token_issueUntil]
    exact congrArg _ heq
  rw [htoken]
  exact ⟨row, hrow, huser, (congrArg Claims.email heq).symm, congrArg Claims.permissions heq, hfits,
    hl⟩

/-! ## Who is admitted -/

/-- While no call fails, who is admitted is one user, who is not deleted, has the email and the
permissions of the account, and bears the access token that was minted last for this user. -/
theorem admitted_is_live_and_latest (hk : s.HasDefaultKeys) {w₀ : World} (hw : IsFresh w₀)
    (hf : w₀.faults = []) (events : List Session.Event) (g : Signatures) (r : Request)
    (hg : g.Explains s (runEvents s w₀ events).2 r) {p : Principal}
    (ha : ((runEvents s w₀ events).1.run false (authenticate s r).run).1 = .ok p) :
    ∃ row ∈ (runEvents s w₀ events).1.store.liveRows,
      (∀ other ∈ (runEvents s w₀ events).1.store.rows, other.user.id = p.userId → other = row) ∧
      row.user.id = p.userId ∧ row.user.email = p.email ∧
      p.permissions = (runEvents s w₀ events).1.store.grantedTo row.user.role ∧
      ∃ token newer pair older, bearerOf? r = some token ∧
        (runEvents s w₀ events).2 = newer ++ pair :: older ∧ pair.access = token ∧
        IsAccessOf s p.userId token ∧ ∀ q ∈ newer, ¬ IsAccessOf s p.userId q.access := by
  obtain ⟨hgood, hlive, _⟩ := Session.sound_runEvents hk hw hf events
  generalize runEvents s w₀ events = st at *
  obtain ⟨w, minted⟩ := st
  have hl := World.leads_run False w (authenticate s r).run
  have hadm := (authenticate_admits r).holds.of_leads hl
  change (w.run false (authenticate s r).run).1 = .ok p at ha
  rw [ha] at hadm
  obtain ⟨token, c, hb, rfl, hadm⟩ := hadm
  obtain ⟨row, hrow, hid, hemail, hperm, hfits, newer, pair, older, hm, hacc, hof, hnew⟩ :=
    hadm.latest hgood hg hb
  obtain ⟨e, he, _⟩ := hadm.marked
  obtain ⟨live, hlive, hid'⟩ := hlive c.userId e he
  obtain rfl := hgood.numbered.eq_of_id (Store.Memory.mem_liveRows.1 hlive).1 hrow
    (hid'.trans hid.symm)
  refine ⟨live, hlive, fun other ho hoid => ?_, hid, hemail, hperm, token, newer, pair, older, hb,
    hm, hacc, hof, fun q hq hqu => ?_⟩
  · exact hgood.numbered.eq_of_id ho hrow (hoid.trans hid.symm)
  · obtain ⟨v, hne, hv⟩ := hnew q hq
    exact hne (hqu.user_unique hv hfits.userId)

/-- Signatures of the access tokens that the sample registrations mint: one for a user with an id,
one for the next user. -/
def sampleSignatures : Signatures where
  holds k c := k = .access ∧ (c = sampleClaims 1 "0" ∨ c = sampleClaims 2 "2")
  distinct := by
    rintro k c k' c' ⟨rfl, rfl | rfl⟩ ⟨rfl, rfl | rfl⟩ hid
    · exact ⟨rfl, rfl⟩
    · exact absurd hid (by decide)
    · exact absurd hid (by decide)
    · exact ⟨rfl, rfl⟩

/-- A request of the first user. -/
def sampleRequest : Request where
  method := "GET"
  target := "/api/v1/account"
  headers := [("authorization", "Bearer " ++ Token.sign
    (Token.secretOf sampleSettings .access) (sampleClaims 1 "0"))]
  body := []

theorem bearer_sampleRequest : bearerOf? sampleRequest = some (Token.sign
    (Token.secretOf sampleSettings .access) (sampleClaims 1 "0")) :=
  bearerOf?_sign _ _ _ _ _

/-- As long as the marker of the first user is in place, the sample request is let in. -/
theorem run_sampleRequest (hnow : w.now = sampleWorld.now)
    (hk : w.store.emailExists (Text.normalize "user@example.com") = true)
    (he : w.cache.find? (sampleSettings.accessKey 1) = some ⟨"0", 600000000000⟩)
    (hover : w.ticks < 600000000000) (hf : w.faults = []) :
    (w.run false (authenticate sampleSettings sampleRequest).run).1 =
      .ok ⟨1, "user@example.com", ["sessions.revoke.any"]⟩ := by
  have hv : Token.verify (Token.sign (Token.secretOf sampleSettings .access)
      (sampleClaims 1 "0")) .access (Token.secretOf sampleSettings .access)
      w.now.unixSeconds = .ok (sampleClaims 1 "0") := by
    rw [hnow]
    exact Token.verify_sign _ (Token.fits_claimsUntil (by decide) _ _ _ _ _ _) rfl (by decide)
      (by decide) (by decide)
  have hend : w.now.unixSeconds < (sampleClaims 1 "0").expiresAt := by
    rw [hnow]
    decide
  exact run_authenticate bearer_sampleRequest hv (by decide) hk he rfl hover hend hf

theorem runEvents_registered :
    runEvents sampleSettings sampleWorld [.call (.register (sampleRegistration "1"))] =
      ((sampleWorld.run false (Session.register sampleSettings (sampleRegistration "1")).run).2,
        [Session.samplePair 1 "0" "1"]) := by
  have hpair := (Session.run_firstRegistration (w := sampleWorld) "1" "secret" rfl rfl rfl rfl
    rfl).1
  change Session.Event.apply sampleSettings (sampleWorld, [])
    (.call (.register (sampleRegistration "1"))) = _
  exact Session.apply_register hpair

theorem access_of_registered :
    (runEvents sampleSettings sampleWorld
      [.call (.register (sampleRegistration "1"))]).2.map TokenPair.access =
      [Token.sign (Token.secretOf sampleSettings .access) (sampleClaims 1 "0")] := by
  rw [runEvents_registered]
  rfl

/-- A user who has just registered is admitted. -/
theorem registered_is_admitted :
    let st := runEvents sampleSettings sampleWorld
      [.call (.register (sampleRegistration "1"))]
    (st.1.run false (authenticate sampleSettings sampleRequest).run).1 =
        .ok ⟨1, "user@example.com", ["sessions.revoke.any"]⟩ ∧
      ∃ row ∈ st.1.store.liveRows,
        (∀ other ∈ st.1.store.rows, other.user.id = 1 → other = row) ∧
        row.user.id = 1 ∧ row.user.email = "user@example.com" ∧
        ["sessions.revoke.any"] = st.1.store.grantedTo row.user.role ∧
        ∃ token newer pair older, bearerOf? sampleRequest = some token ∧
          st.2 = newer ++ pair :: older ∧ pair.access = token ∧
          IsAccessOf sampleSettings 1 token ∧
          ∀ q ∈ newer, ¬ IsAccessOf sampleSettings 1 q.access := by
  intro st
  have hadmitted : (st.1.run false (authenticate sampleSettings sampleRequest).run).1 =
      .ok ⟨1, "user@example.com", ["sessions.revoke.any"]⟩ :=
    run_sampleRequest (by decide +kernel) (by decide +kernel) (by decide +kernel)
      (by decide +kernel) (by decide +kernel)
  have hg : sampleSignatures.Explains sampleSettings st.2 sampleRequest := by
    refine ⟨fun pair hp => ?_, fun token ht => ?_⟩
    · have hm : pair.access ∈ st.2.map TokenPair.access := List.mem_map_of_mem hp
      rw [access_of_registered, List.mem_singleton] at hm
      exact ⟨sampleClaims 1 "0", ⟨rfl, Or.inl rfl⟩, hm⟩
    · rw [bearer_sampleRequest] at ht
      exact ⟨.access, _, ⟨rfl, Or.inl rfl⟩, (Option.some.inj ht).symm⟩
  exact ⟨hadmitted, admitted_is_live_and_latest sampleSettings_hasDefaultKeys
    sampleWorld_isFresh rfl _ sampleSignatures sampleRequest hg hadmitted⟩

/-- Where calls may fail, who is admitted is a user with this email all the same, and the account is
there unless it has been deleted and its email given to another one since: that is when, and only
when, somebody is admitted who is not there any more. -/
theorem admitted_exists_iff (hk : s.HasDefaultKeys) {w₀ : World} (hw : IsFresh w₀)
    {w : World} {minted : List TokenPair} (h : Reached s w₀ w minted) (g : Signatures) (r : Request)
    (hg : g.Explains s minted r) {p : Principal} {w' : World}
    (ha : Dialog.Leads (Turn True) w (authenticate s r).run (.ok p) w') :
    ∃ row ∈ w.store.rows, row.user.id = p.userId ∧ row.user.email = p.email ∧
      ((∃ live ∈ w.store.liveRows, live.user.id = p.userId ∧ live.user.email = p.email) ↔
        ¬ (row.isLive = false ∧ ∃ other ∈ w.store.liveRows,
          other.user.id ≠ p.userId ∧ other.user.email = Text.normalize p.email)) := by
  have hgood := h.good hk hw
  obtain ⟨token, c, hb, rfl, hadm⟩ := (authenticate_admits r).holds.of_leads ha
  obtain ⟨row, hrow, hid, hemail, _⟩ := hadm.latest hgood hg hb
  refine ⟨row, hrow, hid, hemail, fun ⟨live, hlive, hlid, _⟩ ⟨hdead, _⟩ => ?_, fun hn => ?_⟩
  · rw [Store.Memory.mem_liveRows] at hlive
    obtain rfl := hgood.numbered.eq_of_id hlive.1 hrow (hlid.trans hid.symm)
    rw [hdead] at hlive
    cases hlive.2
  · -- The account that has the email is the principal's own, or else the principal's is alive.
    obtain ⟨other, hother, hoe⟩ := List.any_eq_true.1 hadm.known
    by_cases hl : row.isLive = true
    · exact ⟨row, Store.Memory.mem_liveRows.2 ⟨hrow, hl⟩, hid, hemail⟩
    · have hdead : row.isLive = false := by simpa using hl
      refine absurd ⟨hdead, other, hother, fun hoid => ?_, by simpa using hoe⟩ hn
      rw [Store.Memory.mem_liveRows] at hother
      obtain rfl := hgood.numbered.eq_of_id hother.1 hrow (hoid.trans hid.symm)
      exact hl hother.2

/-- The world in which the first user has registered, and has been deleted behind the service's
back. -/
def sampleDeleted : World :=
  let w := (runEvents sampleSettings sampleWorld
    [.call (.register (sampleRegistration "1"))]).1
  { w with store := (w.store.softDelete w.now 1).2 }

/-- What is left when the email has then been registered again, with another phone; and the pairs
that have been minted. -/
def sampleDeletion : World × List TokenPair :=
  Session.Event.apply sampleSettings (sampleDeleted, (runEvents sampleSettings
    sampleWorld [.call (.register (sampleRegistration "1"))]).2)
    (.call (.register (sampleRegistration "2")))

theorem sampleDeleted_reached : Reached sampleSettings sampleWorld sampleDeleted
    (runEvents sampleSettings sampleWorld
      [.call (.register (sampleRegistration "1"))]).2 :=
  .delete (Reached.run .start (.register (sampleRegistration "1"))) 1

theorem sampleDeletion_reached :
    Reached sampleSettings sampleWorld sampleDeletion.1 sampleDeletion.2 :=
  sampleDeleted_reached.run (.register (sampleRegistration "2"))

theorem tokens_sampleDeleted : sampleDeleted.store.tokens =
    [((Session.samplePair 1 "0" "1").refresh, ⟨1, 1, .epoch, Session.sampleRefreshEnd, none⟩)] := by
  unfold sampleDeleted
  dsimp only
  rw [Store.Memory.tokens_softDelete, runEvents_registered]
  exact (Session.run_firstRegistration (w := sampleWorld) "1" "secret" rfl rfl rfl rfl rfl).2

theorem run_sampleDeleted : (sampleDeleted.run false (Session.register sampleSettings
    (sampleRegistration "2")).run).1 = .ok (Session.samplePair 2 "2" "3") := by
  have hnew : sampleDeleted.store.findToken (Session.samplePair 2 "2" "3").refresh = none := by
    have hne : (Session.samplePair 2 "2" "3").refresh ≠ (Session.samplePair 1 "0" "1").refresh := by
      intro he
      have hclaims := Token.sign_injective (Token.fits_claimsUntil (by decide) _ _ _ _ _ _) he
      exact absurd (congrArg Claims.id hclaims) (by decide)
    unfold Store.Memory.findToken
    rw [tokens_sampleDeleted, List.lookup_cons, beq_eq_false_iff_ne.2 hne]
    rfl
  exact (Session.run_sampleRegistration "2"
    (sampleDeleted_reached.good sampleSettings_hasDefaultKeys sampleWorld_isFresh).numbered
    (by decide +kernel) (by decide +kernel) (by decide +kernel) (by decide +kernel)
    (by decide +kernel) rfl (by decide +kernel) (by decide +kernel) hnew).1

theorem access_of_sampleDeletion :
    sampleDeletion.2.map TokenPair.access =
      [Token.sign (Token.secretOf sampleSettings .access) (sampleClaims 2 "2"),
        Token.sign (Token.secretOf sampleSettings .access) (sampleClaims 1 "0")] := by
  unfold sampleDeletion
  rw [Session.apply_register run_sampleDeleted, List.map_cons, access_of_registered]
  rfl

theorem sampleSignatures_explains :
    sampleSignatures.Explains sampleSettings sampleDeletion.2 sampleRequest := by
  refine ⟨fun pair hp => ?_, fun token ht => ?_⟩
  · have hm : pair.access ∈ sampleDeletion.2.map TokenPair.access := List.mem_map_of_mem hp
    rw [access_of_sampleDeletion, List.mem_cons, List.mem_singleton] at hm
    rcases hm with h | h
    · exact ⟨sampleClaims 2 "2", ⟨rfl, Or.inr rfl⟩, h⟩
    · exact ⟨sampleClaims 1 "0", ⟨rfl, Or.inl rfl⟩, h⟩
  · rw [bearer_sampleRequest] at ht
    exact ⟨.access, _, ⟨rfl, Or.inl rfl⟩, (Option.some.inj ht).symm⟩

theorem sampleDeletion_admits :
    (sampleDeletion.1.run false (authenticate sampleSettings sampleRequest).run).1 =
      .ok ⟨1, "user@example.com", ["sessions.revoke.any"]⟩ :=
  run_sampleRequest (by decide +kernel) (by decide +kernel) (by decide +kernel)
    (by decide +kernel) (by decide +kernel)

theorem sampleDeletion_leads :
    Dialog.Leads (Turn True) sampleDeletion.1
      (authenticate sampleSettings sampleRequest).run
      (.ok ⟨1, "user@example.com", ["sessions.revoke.any"]⟩)
      (sampleDeletion.1.run false (authenticate sampleSettings sampleRequest).run).2 := by
  have hl := World.leads_run True sampleDeletion.1 (authenticate sampleSettings sampleRequest).run
  rw [sampleDeletion_admits] at hl
  exact hl

/-- The first user is admitted, and is not there any more, just when the second one has the
email. -/
theorem sampleDeletion_exists_iff :
    ∃ row ∈ sampleDeletion.1.store.rows, row.user.id = 1 ∧ row.user.email = "user@example.com" ∧
      ((∃ live ∈ sampleDeletion.1.store.liveRows, live.user.id = 1 ∧
          live.user.email = "user@example.com") ↔
        ¬ (row.isLive = false ∧ ∃ other ∈ sampleDeletion.1.store.liveRows,
          other.user.id ≠ 1 ∧ other.user.email = Text.normalize "user@example.com")) :=
  admitted_exists_iff sampleSettings_hasDefaultKeys sampleWorld_isFresh
    sampleDeletion_reached sampleSignatures sampleRequest sampleSignatures_explains
    sampleDeletion_leads

/-- A deleted user is admitted whose email has been registered again while the marker lives. -/
theorem deleted_user_is_admitted :
    sampleSettings.HasDefaultKeys ∧ IsFresh sampleWorld ∧
      Reached sampleSettings sampleWorld sampleDeletion.1 sampleDeletion.2 ∧
      sampleSignatures.Explains sampleSettings sampleDeletion.2 sampleRequest ∧
      (sampleDeletion.1.run false (authenticate sampleSettings sampleRequest).run).1 =
        .ok ⟨1, "user@example.com", ["sessions.revoke.any"]⟩ ∧
      ¬ ∃ live ∈ sampleDeletion.1.store.liveRows, live.user.id = 1 :=
  ⟨sampleSettings_hasDefaultKeys, sampleWorld_isFresh, sampleDeletion_reached,
    sampleSignatures_explains, sampleDeletion_admits, by decide +kernel⟩

end Http

end SignIn
