-- How lost writes are answered. To a client it is all the same whether the new
-- refresh token could not be stored or the marker not be written: something
-- went wrong inside. Only a rotation can be answered as if an account were
-- taken.
import SignIn.Proofs.Http.FailedLogins
import SignIn.Proofs.Session.LostWrites
import SignIn.Proofs.Session.Racing

namespace SignIn.Http

open Dialog (Leads Holds Noting Anything holds_bind)
open Session (Act Reports IsClassed lostWrite lostWrite_cases noting sampleSession sampleSettings
  sampleToken sampleRecord sampleUser sampleRefreshEnd sampleRefreshClaims
  verify_sampleToken findToken_sampleSession)

variable {s : Settings} {r : Request} {α : Type} {said : List Said} {x : Said} {e : AuthError}

/-! ## What is answered -/

/-- Whether a rotation has failed over a conflict. -/
def isRotationConflict : Said → Bool
  | ⟨.store (.rotateToken _ _ _ _), .error (.conflict _)⟩ => true
  | _ => false

/-- The answer to a request on whose way a write is lost. -/
def lostAnswer (x : Said) : Response :=
  if x.gaveUp = true then (ApiError.unavailable "Request cancelled").response
  else if isRotationConflict x = true then
    (ApiError.conflict "User with this email or phone number already exists").response
  else (ApiError.internal "").response

theorem response_ofAuth_of_lost (h : lostWrite x = some e) :
    (ApiError.ofAuth e).response = lostAnswer x := by
  refine lostWrite_cases h ?_ ?_ ?_
  · intro u t expiresAt c
    cases c <;> rfl
  · intro u old new expiresAt c
    cases c <;> rfl
  · intro key value lifetime c
    cases c <;> rfl

theorem loginError_of_lost (h : lostWrite x = some e) : loginError e = .ofAuth e := by
  refine lostWrite_cases h ?_ ?_ ?_
  · intro u t expiresAt c
    cases c <;> rfl
  · intro u old new expiresAt c
    rfl
  · intro key value lifetime c
    cases c <;> rfl

/-- However its questions are answered, a program whose way a write is lost on answers that. -/
structure AnswersLost (p : Program Response) : Prop where
  holds : Holds Noting Anything (fun said response => ∀ x e, x ∈ said → lostWrite x = some e →
    response = lostAnswer x) [] p

theorem answersLost_pure (response : Response) : AnswersLost (pure response) := by
  constructor
  intro x e hx
  cases hx

theorem answersLost_answer {op : Operation α} {onError : AuthError → ApiError}
    {onOk : α → Response} (h : Reports op)
    (hon : ∀ x e, lostWrite x = some e → onError e = .ofAuth e) :
    AnswersLost (answer op onError onOk) := by
  constructor
  unfold answer
  apply holds_bind
  apply h.holds.imp
  intro said reply hend
  cases reply with
  | ok a =>
    intro x e hx he
    cases hend x e hx he
  | error e' =>
    intro x e hx he
    obtain rfl := Except.error.inj (hend x e hx he)
    rw [hon x _ he]
    exact response_ofAuth_of_lost he

theorem answersLost_withBody {read : Json.Reader α} {f : α → Program Response}
    (h : ∀ body, AnswersLost (f body)) : AnswersLost (withBody read r f) := by
  unfold withBody
  cases readBody read r with
  | ok body => exact h body
  | error refusal => exact answersLost_pure refusal

/-- The routes that lead to an act that mints a pair. -/
def Route.Mints : Route → Prop
  | .registration | .login | .refresh | .confirmCode => True
  | _ => False

theorem answersLost_answerPublic {route : Route} (h : route.Mints) :
    AnswersLost (answerPublic s r route) := by
  cases route with
  | registration =>
    apply answersLost_withBody
    intro body
    exact answersLost_answer (Session.register_reports body) fun _ _ _ => rfl
  | login =>
    apply answersLost_withBody
    intro body
    exact answersLost_answer (Session.login_reports ..) fun _ _ => loginError_of_lost
  | refresh =>
    apply answersLost_withBody
    intro body
    exact answersLost_answer (Session.refresh_reports _) fun _ _ _ => rfl
  | confirmCode =>
    apply answersLost_withBody
    intro body
    exact answersLost_answer (Session.confirmCode_reports ..) fun _ _ _ => rfl
  | _ => exact h.elim

/-- Of other methods than the route's own nothing is lost. -/
theorem answersLost_answerRoute {route : Route} (h : route.Mints) :
    AnswersLost (answerRoute s r (some route)) := by
  have hpublic : route.isPublic = true := by
    cases route with
    | registration | login | refresh | confirmCode => rfl
    | _ => exact h.elim
  unfold answerRoute
  simp only [hpublic, if_true]
  split
  · exact answersLost_pure _
  · split
    · exact answersLost_answerPublic h
    · exact answersLost_pure _

theorem respond_of_lost {route : Route} (hroute : Route.ofPath? (pathOf r.target) = some route)
    (h : route.Mints) {response : Response} (hl : Leads Noting [] (respond s r) response said)
    (hx : x ∈ said) (he : lostWrite x = some e) :
    response = finish r (some route) (lostAnswer x) := by
  have hanswers : Holds Noting Anything (fun said response => ∀ x e, x ∈ said →
      lostWrite x = some e → response = finish r (some route) (lostAnswer x)) []
      (respond s r) := by
    unfold respond
    simp only [hroute]
    apply holds_bind
    apply (answersLost_answerRoute h).holds.imp
    intro said response hanswer x e hx he
    rw [hanswer x e hx he]
  exact hanswers.of_leads hl x e hx he

/-! ## Lost writes are classed alike, but for one -/

/-- **Lost writes.** Whoever keeps the store and the cache, and whatever they answer: an act that
mints a pair, on whose way the new refresh token is not stored or exchanged, or the marker not
written, fails with what is made of that failure. It is classed as a failure to create tokens, or as
the caller's giving up, exactly if it is not a rotation that fails while the caller is waiting. A
request for such an act is answered that something went wrong inside, or that it was cancelled, and
with a conflict over an account if it is a rotation that fails over a conflict. -/
theorem lost_writes_classed_iff (s : Settings) :
    (∀ (a : Act) reply said (x : Said) e, a.Mints → Leads Noting [] (a.program s) reply said →
      x ∈ said → lostWrite x = some e →
        reply = .error e ∧ (IsClassed x e ↔ ¬ (x.1.isRotation = true ∧ x.gaveUp = false))) ∧
    ∀ (r : Request) route response said (x : Said) e, Route.ofPath? (pathOf r.target) = some route →
      route.Mints → Leads Noting [] (respond s r) response said → x ∈ said →
        lostWrite x = some e → response = finish r (some route) (lostAnswer x) := by
  constructor
  · intro a reply said x e ha hl hx he
    exact ⟨(Act.operation_reports ha).holds.of_leads hl x e hx he, Session.isClassed_iff he⟩
  · intro r route response said x e hroute hmints hl hx he
    exact respond_of_lost hroute hmints hl hx he

/-- The small session with a code sent to its user, when no refresh token can be stored. -/
def sampleFullDisk : World :=
  { (sampleSession.run false (Session.sendCode sampleSettings "1").run).2 with
    faults := [⟨"create_refresh_token", 0, .store (.database "disk full")⟩] }

/-- A request to confirm a code. -/
def sampleConfirmation : Request where
  method := "POST"
  target := "/api/v1/auth/otp/confirm"
  headers := [("content-type", "application/json")]
  body := Text.utf8 (Json.text (.object [("identifier", .string "1"), ("code", .string "0000")]))

/-- A user confirms a code in vain: the tokens could not be created, and the client is told that
something went wrong inside. -/
theorem sampleConfirmation_lost :
    let acted := Dialog.run (noting (World.answer false)) (sampleFullDisk, [])
      (Act.program sampleSettings (.call (.confirmCode "1" "0000")))
    let told := Dialog.run (noting (World.answer false)) (sampleFullDisk, [])
      (respond sampleSettings sampleConfirmation)
    let lost := AuthError.tokenCreation "persist refresh token: Database error: disk full"
    acted.1 = .error lost ∧ told.1.status = 500 ∧
      ∃ x, told.1 = finish sampleConfirmation (some .confirmCode) (lostAnswer x) := by
  intro acted told lost
  have hacted : acted.2.2.any (fun x => lostWrite x = some lost) = true := by decide +kernel
  have htold : told.2.2.any (fun x => lostWrite x = some lost) = true := by decide +kernel
  obtain ⟨x, hx, he⟩ := List.any_eq_true.1 hacted
  obtain ⟨y, hy, he'⟩ := List.any_eq_true.1 htold
  have hroute : Route.ofPath? (pathOf sampleConfirmation.target) = some .confirmCode := by
    decide +kernel
  have hreply := (lost_writes_classed_iff sampleSettings).1 (.call (.confirmCode "1" "0000")) _ _ x
    _ trivial (Session.leads_noting _ _ _ _) hx (of_decide_eq_true he)
  have hanswer := (lost_writes_classed_iff sampleSettings).2 sampleConfirmation _ _ _ y _ hroute
    trivial (Session.leads_noting _ _ _ _) hy (of_decide_eq_true he')
  exact ⟨hreply.1, by decide +kernel, y, hanswer⟩

/-- The small session, when a rotation fails over a conflict. -/
def sampleClash : World :=
  { sampleSession with
    faults := [⟨"rotate_refresh_token", 0, .store (.conflict "refresh token already stored")⟩] }

theorem run_refresh_sampleClash :
    (sampleClash.run false (Session.refresh sampleSettings sampleToken).run).1 =
      .error (.repository (.conflict "refresh token already stored")) := by
  have hv : Token.verify sampleToken .refresh (Token.secretOf sampleSettings .refresh)
      sampleClash.now.unixSeconds = .ok (sampleRefreshClaims 1 "t") := verify_sampleToken
  have hr : sampleClash.store.findToken sampleToken = some sampleRecord := findToken_sampleSession
  have hu : sampleClash.store.findUser 1 = some sampleUser := rfl
  have hend : Token.expiry sampleSettings .refresh sampleClash.now = .ok sampleRefreshEnd := rfl
  exact Session.run_refresh_of_lost_rotation rfl hv hr rfl (by decide) hu hend

/-- Where the new refresh token cannot be stored in place of the old one, the failure is not that
tokens could not be created, and the client is told of an account. -/
theorem sampleClash_misclassed :
    let refresh := Session.refresh sampleSettings sampleToken
    let response := (sampleClash.run false (answer refresh .ofAuth fun pair =>
      .json 200 (pairJson pair))).1
    (sampleClash.run false refresh.run).1 =
        .error (.repository (.conflict "refresh token already stored")) ∧
      response =
        (ApiError.conflict "User with this email or phone number already exists").response ∧
      response.status = 409 := by
  intro refresh response
  rcases hrun : sampleClash.run false refresh.run with ⟨reply, w⟩
  obtain rfl : reply = .error (.repository (.conflict "refresh token already stored")) := by
    rw [← run_refresh_sampleClash, hrun]
  have hanswer : response = _ := congrArg Prod.fst (run_answer_of_error hrun)
  exact ⟨rfl, hanswer, by rw [hanswer]; rfl⟩

end SignIn.Http
