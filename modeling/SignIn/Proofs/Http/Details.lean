-- What went wrong inside stays inside. A client is told of a failure what kind
-- it is of, and its text only if it is about what the client has sent. So
-- whatever store, cache and delivery say of their failures, a request is
-- answered the same.
import SignIn.Http.Service
import SignIn.Proofs.Session.Details

namespace SignIn.Http

open Dialog (Alike)
open Session (Hides hides_failIf hides_orFail hides_pure clock_hides)

variable {s : Settings} {r : Request} {α : Type} {e e' : AuthError}

/-! ## Failures as they are answered -/

theorem response_ofAuth_bare (e : AuthError) :
    (ApiError.ofAuth e.bare).response = (ApiError.ofAuth e).response := by
  cases e with
  | repository e => cases e <;> rfl
  | cache e => cases e <;> rfl
  | _ => rfl

theorem response_loginError_bare (e : AuthError) :
    (loginError e.bare).response = (loginError e).response := by
  cases e with
  | userNotFound => rfl
  | _ => exact response_ofAuth_bare _

/-! ## Requests as they are answered -/

/-- The same questions are asked and the same is answered, whatever is said of failures. -/
abbrev AnswersAlike (p : Program Response) : Prop := Alike Ask.SameBut Eq p p

theorem answersAlike_pure (response : Response) : AnswersAlike (pure response) := .done rfl

theorem answersAlike_answer {op : Operation α} {onError : AuthError → ApiError}
    (onOk : α → Response) (h : Hides AuthError.bare op)
    (hon : ∀ e, (onError e.bare).response = (onError e).response) :
    AnswersAlike (answer op onError onOk) := by
  unfold answer
  refine h.alike.bind fun x y hxy => ?_
  match x, y, hxy with
  | .ok a, .ok b, hxy =>
    obtain rfl := Except.ok.inj hxy
    exact answersAlike_pure _
  | .error e, .error e', hxy =>
    have hbare : e.bare = e'.bare := Except.error.inj hxy
    exact .done (by rw [← hon e, ← hon e', hbare])

theorem answersAlike_withBody {read : Json.Reader α} {f : α → Program Response}
    (h : ∀ body, AnswersAlike (f body)) : AnswersAlike (withBody read r f) := by
  unfold withBody
  cases readBody read r with
  | ok body => exact h body
  | error refusal => exact answersAlike_pure refusal

theorem answerPublic_alike (route : Route) : AnswersAlike (answerPublic s r route) := by
  have hanswer : ∀ {β : Type} {op : Operation β} (onOk : β → Response), Hides AuthError.bare op →
      AnswersAlike (answer op .ofAuth onOk) :=
    fun onOk h => answersAlike_answer onOk h response_ofAuth_bare
  cases route with
  | registration => exact answersAlike_withBody fun body => hanswer _ (Session.register_hides body)
  | login =>
    exact answersAlike_withBody fun body =>
      answersAlike_answer _ (Session.login_hides ..) response_loginError_bare
  | refresh => exact answersAlike_withBody fun body => hanswer _ (Session.refresh_hides _)
  | logout => exact answersAlike_withBody fun body => hanswer _ (Session.logout_hides ..)
  | sendCode => exact answersAlike_withBody fun body => hanswer _ (Session.sendCode_hides _)
  | confirmCode => exact answersAlike_withBody fun body => hanswer _ (Session.confirmCode_hides ..)
  | ownAccount | revokeSessions => exact answersAlike_pure _

/-- That a request is refused is all that is told of a failure on the way to its admission. -/
theorem orUnauthorized_hides {op : Operation α} (text : String) (h : Hides AuthError.bare op) :
    Hides id (orUnauthorized text op) := by
  refine ⟨Alike.bind (d := op.run) h.alike fun x y hxy => ?_⟩
  match x, y, hxy with
  | .ok a, .ok b, hxy =>
    obtain rfl := Except.ok.inj hxy
    exact .done rfl
  | .error _, .error _, _ => exact .done rfl

theorem authenticate_hides (r : Request) : Hides id (authenticate s r) := by
  refine (hides_orFail _ _).bind fun header => ?_
  refine (hides_orFail _ _).bind fun token => ?_
  refine (orUnauthorized_hides _ (Session.verify_hides ..)).bind fun claims => ?_
  refine (hides_failIf _ _).bind fun _ => ?_
  refine (orUnauthorized_hides _ (Session.store_hides _)).bind fun isKnown => ?_
  refine (hides_failIf _ _).bind fun _ => ?_
  refine (orUnauthorized_hides _ (Session.isAlive_hides ..)).bind fun alive => ?_
  refine (hides_failIf _ _).bind fun _ => ?_
  refine clock_hides.bind fun now => ?_
  refine (hides_failIf _ _).bind fun _ => ?_
  exact hides_pure _

theorem guarded_alike {next : Program Response} (permission : String) (p : Principal)
    (h : AnswersAlike next) : AnswersAlike (guarded permission p next) := by
  unfold guarded
  split
  · exact h
  · exact answersAlike_pure _

theorem answerPrincipal_alike (p : Principal) (route : Option Route) :
    AnswersAlike (answerPrincipal s r p route) := by
  have hbare : ∀ status, AnswersAlike (pure (.bare status)) := fun _ => answersAlike_pure _
  unfold answerPrincipal
  split
  · split
    · exact guarded_alike _ p
        (answersAlike_answer _ (Session.profile_hides _) response_ofAuth_bare)
    · split
      · exact guarded_alike _ p
          (answersAlike_answer _ (Session.deleteAccount_hides _) response_ofAuth_bare)
      · exact hbare 405
  · rename_i segment
    split
    · refine guarded_alike _ p ?_
      cases userIdOf segment with
      | error text => exact answersAlike_pure _
      | ok userId =>
        exact answersAlike_answer _ (Session.revokeAll_hides _) response_ofAuth_bare
    · exact hbare 405
  · exact hbare 404

theorem answerProtected_alike (route : Option Route) :
    AnswersAlike (answerProtected s r route) := by
  unfold answerProtected
  refine (authenticate_hides r).alike.bind fun x y hxy => ?_
  match x, y, hxy with
  | .ok p, .ok q, hxy =>
    obtain rfl := Except.ok.inj hxy
    exact answerPrincipal_alike p route
  | .error refusal, .error refusal', hxy =>
    obtain rfl : refusal = refusal' := Except.error.inj hxy
    exact answersAlike_pure _

theorem answerRoute_alike (route : Option Route) : AnswersAlike (answerRoute s r route) := by
  unfold answerRoute
  split
  · exact answersAlike_pure _
  · split
    · exact answerProtected_alike none
    · split
      · split
        · exact answerPublic_alike _
        · exact answersAlike_pure _
      · exact answerProtected_alike _

/-- Every request is answered the same, whatever is said of failures on the way. -/
theorem respond_alike (s : Settings) (r : Request) : AnswersAlike (respond s r) := by
  unfold respond
  refine (answerRoute_alike _).bind fun response response' h => ?_
  exact .done (congrArg (finish r _) h)

/-- **Details stay inside.** Two failures of one kind, neither of which is about the texts that a
client has sent, are answered by the same response, if both or neither come of the caller's giving
up, and both or neither are a conflict. A failure about such a text is answered 400, and what it
says is the message and nothing else. So are two runs of a request answered the same if the answers
of store, cache and delivery are the same but for what their failures say. -/
theorem details_stay_inside :
    (∀ e e' : AuthError, e.kind = e'.kind →
      (∀ text, e ≠ .validation text ∧ e ≠ .parse text) →
      (∀ text, e' ≠ .validation text ∧ e' ≠ .parse text) →
      e.isCancelled = e'.isCancelled → e.isConflict = e'.isConflict →
        (ApiError.ofAuth e).response = (ApiError.ofAuth e').response ∧
        (loginError e).response = (loginError e').response) ∧
    (∀ text, (ApiError.ofAuth (.validation text)).response =
      .json 400 (.object [("error", .string "validation_error"), ("message", .string text)])) ∧
    (∀ text, (ApiError.ofAuth (.parse text)).response =
      .json 400 (.object [("error", .string "parse_error"), ("message", .string text)])) ∧
    ∀ (s : Settings) (r : Request) (σ τ : Type) (answer : σ → (q : Ask) → q.Answer × σ)
      (answer' : τ → (q : Ask) → q.Answer × τ) (R : σ → τ → Prop),
      (∀ t t' q, R t t' → q.SameBut (answer t q).1 (answer' t' q).1 ∧
        R (answer t q).2 (answer' t' q).2) →
      ∀ t t', R t t' →
        (Dialog.run answer t (respond s r)).1 = (Dialog.run answer' t' (respond s r)).1 := by
  refine ⟨fun e e' hkind he he' hcancelled hconflict => ?_, fun text => rfl, fun text => rfl,
    fun s r σ τ answer answer' R hanswer t t' hR => ((respond_alike s r).run hanswer hR).1⟩
  have hbare : e.bare = e'.bare := AuthError.bare_eq_of_kind_eq hkind hcancelled hconflict
    (AuthError.bare_mem_bares (fun text => (he text).1) fun text => (he text).2)
    (AuthError.bare_mem_bares (fun text => (he' text).1) fun text => (he' text).2)
  constructor
  · rw [← response_ofAuth_bare e, ← response_ofAuth_bare e', hbare]
  · rw [← response_loginError_bare e, ← response_loginError_bare e', hbare]

/-- Neither store nor cache answers, nor is anything delivered, for a reason that is always told. -/
def failing (reason : String) (_ : Unit) : (q : Ask) → q.Answer × Unit
  | .clock => (Time.Instant.epoch, ())
  | .store _ => (.error (.database reason), ())
  | .cache _ => (.error (.client reason), ())
  | .deliver _ _ => (.error (.delivery reason), ())
  | .freshId | .freshCode => ("0", ())
  | .freshSalt => ([], ())

/-- A request to have a code sent. -/
def sampleSending : Request where
  method := "POST"
  target := "/api/v1/auth/otp/send"
  headers := [("content-type", "application/json")]
  body := Text.utf8 (Json.text (.object [("identifier", .string "1")]))

/-- A code cannot be stored, and the client is not told where; nor is one who looks up a user told
which host does not answer. -/
theorem failing_stays_inside :
    let told := fun reason => (Dialog.run (failing reason) ()
      (respond (Settings.withSecrets "access secret" "refresh secret") sampleSending)).1
    let refused := fun reason => (ApiError.ofAuth (.repository (.database reason))).response
    told "no route to 10.0.0.3" = told "out of memory" ∧ (told "out of memory").status = 500 ∧
      refused "no route to 10.0.0.4" = refused "relation users does not exist" := by
  intro told refused
  have hinside : ∀ reason text, AuthError.repository (.database reason) ≠ .validation text ∧
      AuthError.repository (.database reason) ≠ .parse text := fun _ _ => ⟨nofun, nofun⟩
  refine ⟨?_, by decide +kernel, ?_⟩
  · refine details_stay_inside.2.2.2 _ _ _ _ _ _ (fun _ _ => True) (fun _ _ q _ => ⟨?_, trivial⟩)
      () () trivial
    cases q <;> rfl
  · exact (details_stay_inside.1 _ _ rfl (hinside _) (hinside _) rfl rfl).1

end SignIn.Http
