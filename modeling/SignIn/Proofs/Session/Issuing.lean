-- How long what is issued lasts: to the nanosecond a lifetime from the instant
-- of issue, whatever instant and whatever lifetime that is, unless time ends
-- before. The claims have the whole seconds of both instants, and the marker
-- of a pair gets just the lifetime of its access token.
import SignIn.Proofs.Course
import SignIn.Proofs.Session.RoundTrip
import SignIn.Proofs.Token.Soundness

namespace SignIn.Token

open Codec.Base64 (decode?_encode urlSafe)
open Text.Decimal (int64Low int64High)

/-! ## Claims of what is issued -/

/-- What is signed is read back, also where no clock would accept it. -/
theorem isSigned_sign {c : Claims} (secret : List UInt8) (h : c.Fits) :
    ∃ header payload sig, IsSigned (sign secret c) secret header payload sig ∧
      Spells Claims.read payload c := by
  have hnames : Names (partsOf secret c).header .hs256 := names_of_algorithmOf algorithmOf_newHeader
  refine ⟨(partsOf secret c).header, (partsOf secret c).claims, (partsOf secret c).signature,
    ⟨splitOn_of_parts (ofText?_sign secret c) hnames.dot_notMem, hnames, ?_⟩, ?_⟩
  · exact (signature_partsOf secret c).trans
      (congrArg (signature secret) (message_partsOf secret c).symm)
  · refine ⟨Text.utf8 c.json.text, ?_, c.readWhole_json.1 h⟩
    rw [claims_partsOf, String.ofList_toList]
    exact decode?_encode _ _

/-- What is issued ends a lifetime later, to the nanosecond. Its claims have the whole seconds of
both instants, which are as far apart as the whole seconds of the lifetime, or one more. -/
structure Lasts (s : Settings) (kind : TokenKind) (now : Time.Instant) (issued : Issued)
    (c : Claims) : Prop where
  nanos : issued.expiresAt.nanos = now.nanos + (lifetimeOf s kind).nanos
  spells : ∃ header payload sig,
    IsSigned issued.token (secretOf s kind) header payload sig ∧ Spells Claims.read payload c
  expiresAt : c.expiresAt = issued.expiresAt.nanos / (Time.second : Int)
  issuedAt : c.issuedAt = now.nanos / (Time.second : Int)
  notBefore : c.notBefore = c.issuedAt
  seconds : c.expiresAt - c.issuedAt = (lifetimeOf s kind).seconds ∨
    c.expiresAt - c.issuedAt = (lifetimeOf s kind).seconds + 1
  whole : (lifetimeOf s kind).subNanos = 0 →
    c.expiresAt - c.issuedAt = (lifetimeOf s kind).seconds

theorem expiry_eq_error {s : Settings} {kind : TokenKind} {now : Time.Instant}
    (h : Time.lastNano < now.nanos + (lifetimeOf s kind).nanos) :
    expiry s kind now = .error (.tokenCreation "token lifetime out of range") := by
  unfold expiry
  rw [Time.Instant.add?_eq_none.2 h]

theorem exists_expiry {s : Settings} {kind : TokenKind} {now : Time.Instant}
    (h : now.nanos + (lifetimeOf s kind).nanos ≤ Time.lastNano) :
    ∃ expiresAt, expiry s kind now = .ok expiresAt := by
  unfold expiry
  cases ht : now.add? (lifetimeOf s kind) with
  | some t => exact ⟨t, rfl⟩
  | none => exact absurd (Time.Instant.add?_eq_none.1 ht) (Int.not_lt.2 h)

end SignIn.Token

namespace SignIn.Session

open Text.Decimal (int64Low int64High)
open Token (Issued Lasts lifetimeOf expiry issueUntil claimsUntil)

variable {s : Settings} {kind : TokenKind} {userId : Int} {email : String}
  {permissions : List String} {now expiresAt : Time.Instant}

theorem lasts_issueUntil (h64 : int64Low ≤ userId ∧ userId ≤ int64High)
    (h : expiry s kind now = .ok expiresAt) (email : String) (permissions : List String)
    (id : String) : Lasts s kind now (issueUntil s kind userId email permissions now expiresAt id)
      (claimsUntil kind userId email permissions now expiresAt id) := by
  have hnanos := nanos_of_expiry h
  have hfits := Token.fits_claimsUntil h64 kind email permissions now expiresAt id
  refine ⟨hnanos, Token.isSigned_sign _ hfits, rfl, rfl, rfl, ?_, ?_⟩
  · change expiresAt.nanos / 1000000000 - now.nanos / 1000000000 =
        ((lifetimeOf s kind).nanos / 1000000000 : Nat) ∨
      expiresAt.nanos / 1000000000 - now.nanos / 1000000000 =
        ((lifetimeOf s kind).nanos / 1000000000 : Nat) + 1
    omega
  · intro hwhole
    change (lifetimeOf s kind).nanos % 1000000000 = 0 at hwhole
    change expiresAt.nanos / 1000000000 - now.nanos / 1000000000 =
      ((lifetimeOf s kind).nanos / 1000000000 : Nat)
    omega

/-! ## The marker -/

open Operation
open Dialog (Leads Ensures Along Noting ensures_bind)

/-- A marker is written for the user, and for as long as access tokens live. -/
def IsTimed (s : Settings) (userId : Int) (q : Ask) : Prop :=
  ∀ key value lifetime, q = .cache (.set key value lifetime) →
    key = s.accessKey userId ∧ lifetime = s.accessLifetime

/-- What a failure says whose token is over before it is marked. -/
def alreadyOver : AuthError := .tokenCreation "access token already expired"

/-- A text with another beginning says something else. -/
theorem tokenCreation_append_ne {beginning : String} (h : beginning.toList.head? = some 'p' ∨
    beginning.toList.head? = some 'w') (text : String) :
    AuthError.tokenCreation (beginning ++ text) ≠ alreadyOver := by
  intro he
  have hhead := congrArg (fun t => t.toList.head?) (AuthError.tokenCreation.inj he)
  have hover : "access token already expired".toList.head? = some 'a' := by decide
  rw [String.toList_append, List.head?_append, hover] at hhead
  rcases h with h | h <;> rw [h] at hhead <;> cases hhead

theorem storeFailed_ne (e : StoreError) : storeFailed e ≠ alreadyOver := by
  cases e with
  | cancelled => exact nofun
  | _ => exact tokenCreation_append_ne (Or.inl (by decide)) _

theorem markFailed_ne (e : CacheError) : markFailed e ≠ alreadyOver := by
  cases e with
  | cancelled => exact nofun
  | _ => exact tokenCreation_append_ne (Or.inr (by decide)) _

theorem expiry_ne (s : Settings) (kind : TokenKind) (now : Time.Instant) :
    expiry s kind now ≠ .error alreadyOver := by
  unfold expiry alreadyOver
  cases now.add? (lifetimeOf s kind) with
  | some t => exact nofun
  | none => exact fun h => absurd (AuthError.tokenCreation.inj (Except.error.inj h)) (by decide)

/-- Whatever is answered, an operation writes only such a marker, and it does not fail because its
token is over. -/
abbrev Times (s : Settings) (userId : Int) {α : Type} (said : List Said) (op : Operation α)
    (post : α → List Said → Prop) : Prop :=
  Ensures Noting (fun _ q => IsTimed s userId q) said op post fun e _ => e ≠ alreadyOver

variable {said : List Said}

theorem isTimed_of_not_isMark {q : Ask} (h : q.isMark = false) : IsTimed s userId q := by
  rintro key value lifetime rfl
  cases h

theorem isTimed_of_preliminary : ∀ q : Ask, q.IsPreliminary → IsTimed s userId q :=
  Ask.preliminary_cases (isTimed_of_not_isMark rfl) (isTimed_of_not_isMark rfl)
    (fun _ => isTimed_of_not_isMark rfl) (fun _ => isTimed_of_not_isMark rfl)
    fun _ => isTimed_of_not_isMark rfl

theorem unprepared_ne {R : List Said → List Said → Prop} {said' : List Said} {e : AuthError}
    (h : Unprepared Noting R s userId now said said' e) : e ≠ alreadyOver := by
  cases h with
  | lookup | unknown => nofun
  | unissued h =>
    cases h with
    | lookup => nofun
    | expiry he =>
      rintro rfl
      exact expiry_ne s _ now he

theorem createPair_times (email : String) (now : Time.Instant) :
    Times s userId said (createPair s userId email now) fun _ said' => ∃ id,
      ⟨.cache (.set (s.accessKey userId) id s.accessLifetime), .ok ()⟩ ∈ said' := by
  have halong : Along Noting (fun _ q => IsTimed s userId q) Ask.IsPreliminary (fun _ _ => True)
      said := Dialog.along_anyway fun _ => isTimed_of_preliminary
  refine ensures_createPair halong (fun _ _ _ he => unprepared_ne he)
    fun access refresh said₁ _ hp => ?_
  obtain ⟨_, _, _, _, haccess, _⟩ := hp
  refine ensures_bind (ensures_storeOr (isTimed_of_not_isMark rfl) (fun _ said₂ _ => ?_)
    fun e _ _ => storeFailed_ne e)
  refine ensures_conclude haccess.expiry ?_ (fun _ hs => ⟨access.id, hs ▸ List.mem_cons_self⟩)
    fun c _ _ => markFailed_ne c
  rintro key value lifetime ⟨⟩
  exact ⟨rfl, rfl⟩

/-! ## Exact times -/

/-- **What is issued lasts exactly its lifetime**, from any instant on: issuing fails only where the
lifetime reaches beyond the end of time. Whoever keeps the store and the cache, a pair that is
minted is marked for the lifetime of its access token, which is never over before. -/
theorem issue_lasts (s : Settings) (kind : TokenKind) (userId : Int)
    (h64 : int64Low ≤ userId ∧ userId ≤ int64High) (email : String) (permissions : List String)
    (now : Time.Instant) :
    (∀ (w : World) (cancelled : Bool),
      ((∃ text w', w.run? cancelled (issue s kind userId email permissions now).run =
        some (.error (.tokenCreation text), w')) ↔
          Time.lastNano < now.nanos + (lifetimeOf s kind).nanos) ∧
      (now.nanos + (lifetimeOf s kind).nanos ≤ Time.lastNano →
        ∃ issued w' c, w.run? cancelled (issue s kind userId email permissions now).run =
          some (.ok issued, w') ∧ Lasts s kind now issued c)) ∧
    ∀ reply said, Leads Noting [] (createPair s userId email now).run reply said →
      reply ≠ .error (.tokenCreation "access token already expired") ∧
      (∀ x ∈ said, IsTimed s userId x.1) ∧
      ((∃ pair, reply = .ok pair) → ∃ id,
        ⟨.cache (.set (s.accessKey userId) id s.accessLifetime), .ok ()⟩ ∈ said) := by
  refine ⟨fun w cancelled => ⟨⟨?_, fun hlate => ?_⟩, fun hearly => ?_⟩, fun reply said hl => ?_⟩
  · rintro ⟨text, w', hrun⟩
    refine Int.not_le.1 fun hearly => ?_
    obtain ⟨expiresAt, he⟩ := Token.exists_expiry hearly
    rw [run?_issue, he] at hrun
    cases hrun
  · rw [run?_issue, Token.expiry_eq_error hlate]
    exact ⟨_, _, rfl⟩
  · obtain ⟨expiresAt, he⟩ := Token.exists_expiry hearly
    rw [run?_issue, he]
    exact ⟨_, _, _, rfl, lasts_issueUntil h64 he email permissions w.ids.next.1⟩
  · have htimes : Times s userId [] (createPair s userId email now) _ :=
      createPair_times email now
    have hends := htimes.of_leads hl
    refine ⟨?_, ?_, ?_⟩
    · rintro rfl
      exact hends rfl
    · refine htimes.holds.keeps (I := fun said => ∀ x ∈ said, IsTimed s userId x.1) hl ?_
        fun x hx => absurd hx List.not_mem_nil
      intro said q a said' htimed hq hs x hx
      rw [hs] at hx
      rcases List.mem_cons.1 hx with rfl | hx
      · exact hq
      · exact htimed x hx
    · rintro ⟨pair, rfl⟩
      exact hends

/-- Issued a nanosecond before 1970, a token says that it was issued in the second before and holds
for ten minutes. At the latest instant none can be issued. -/
theorem sample_issue_lasts :
    (∃ issued w' c, sampleWorld.run? false (issue sampleSettings .access 1 "user@example.com" []
        ⟨-1, by decide⟩).run = some (.ok issued, w') ∧
      issued.expiresAt.nanos = 599999999999 ∧ c.expiresAt = 599 ∧ c.issuedAt = -1 ∧
      ∃ header payload sig, Token.IsSigned issued.token (Token.secretOf sampleSettings .access)
        header payload sig ∧ Token.Spells Claims.read payload c) ∧
    ∃ text w', sampleWorld.run? false (issue sampleSettings .access 1 "user@example.com" []
      .latest).run = some (.error (.tokenCreation text), w') := by
  have hlasts := issue_lasts sampleSettings .access 1 (by decide) "user@example.com" []
  constructor
  · obtain ⟨issued, w', c, hrun, hc⟩ := ((hlasts ⟨-1, by decide⟩).1 sampleWorld false).2 (by decide)
    refine ⟨issued, w', c, hrun, hc.nanos, ?_, hc.issuedAt, hc.spells⟩
    rw [hc.expiresAt, hc.nanos]
    rfl
  · exact ((hlasts .latest).1 sampleWorld false).1.2 (by decide)

end SignIn.Session
