-- Failed logins look alike. Whether nobody has registered the email, its
-- account has been deleted, or the password is another one, a login that signs
-- nobody in is answered with the same refusal and leaves everything as it is.
import SignIn.Http.Service
import SignIn.Proofs.Session.Returning

namespace SignIn.Http

open Dialog (run_bind_of_ok run_bind_of_error)
open Session (Happening IsFresh StoresDrawn after checkPassword login sampleRegistration
  sampleSettings saltedWorld)
open Text (normalize)

variable {s : Settings} {w₀ w : World} {r r' : Request} {body body' : LoginBody}

/-! ## Logins -/

/-- The request is a login with this body. -/
structure IsLogin (r : Request) (body : LoginBody) : Prop where
  method : r.method = "POST"
  route : Route.ofPath? (pathOf r.target) = some .login
  body : readBody LoginBody.read r = .ok body

/-- The body names an account that is there, with a password that is accepted for it. -/
def LoginBody.Fits (w : World) (body : LoginBody) : Prop :=
  ∃ row ∈ w.store.liveRows, row.user.email = normalize body.email ∧
    Password.verify body.password row.passwordHash = .ok true

/-- The answer to a login that is refused for its email or its password. -/
def refusedLogin : Response := openToAll ApiError.invalidCredentials.response

/-- A login is answered with what comes of signing in. -/
theorem respond_login (h : IsLogin r body) : respond s r = (do
    return openToAll (← answer (login s body.email body.password) loginError
      fun pair => .json 200 (pairJson pair))) := by
  have hroute : answerRoute s r (some .login) = answer (login s body.email body.password)
      loginError fun pair => .json 200 (pairJson pair) := by
    unfold answerRoute answerPublic withBody
    simp only [h.method, h.body, Route.isPublic, if_true, String.reduceEq, if_false]
  have hfinish : ∀ response, finish r (some .login) response = openToAll response := by
    intro response
    unfold finish withAllow allows
    simp [h.method]
  unfold respond
  dsimp only
  rw [h.route, hroute]
  simp only [hfinish]

/-- An operation that fails is answered with its failure. -/
theorem run_answer_of_error {α : Type} {op : Operation α} {onError : AuthError → ApiError}
    {onOk : α → Response} {e : AuthError} {w' : World}
    (h : w.run false op.run = (.error e, w')) :
    w.run false (answer op onError onOk) = ((onError e).response, w') := by
  unfold World.run at h ⊢
  unfold answer
  rw [Dialog.run_bind, h]
  rfl

/-! ## Refusals -/

/-- Where salts are of sixteen bytes, any password can be compared with any that is stored. -/
theorem checkPassword_of_stored (hstores : StoresDrawn s w)
    (hsalts : ∀ n, (w.salts.item n).length = 16) {row : Store.Row} (hrow : row ∈ w.store.rows)
    (password : String) : ∃ isRight, checkPassword password row.passwordHash = .ok isRight ∧
      Password.verify password row.passwordHash = .ok isRight := by
  obtain ⟨_, original, ⟨n, _, rfl⟩, hhash⟩ := hstores.hashes row hrow
  have hverify := Password.verify_hash (hsalts n) password original
  rw [← hhash] at hverify
  refine ⟨_, ?_, hverify⟩
  unfold checkPassword
  rw [hverify]

/-- Nobody signs in by an email or a password that does not fit, and nothing changes. The failure
tells which of the two it was; its answer does not. -/
theorem run_login_refused (hf : w.faults = []) (hstores : StoresDrawn s w)
    (hsalts : ∀ n, (w.salts.item n).length = 16) (hunfit : ¬ body.Fits w) :
    ∃ e, loginError e = .invalidCredentials ∧
      w.run false (login s body.email body.password).run = (.error e, w) := by
  have hfind : Dialog.run (World.answer false) w
      (Operation.store (.findCredentials (normalize body.email))).run =
      (.ok (w.store.findCredentials (normalize body.email)), w) := World.run_lookup hf rfl
  unfold login World.run
  rw [run_bind_of_ok _ hfind]
  cases hfound : w.store.findCredentials (normalize body.email) with
  | none => exact ⟨.userNotFound, rfl, rfl⟩
  | some credentials =>
    obtain ⟨row, hrow, rfl⟩ := Option.map_eq_some_iff.1 hfound
    have hlive : row ∈ w.store.liveRows := List.mem_of_find?_eq_some hrow
    have hemail : row.user.email = normalize body.email := by simpa using List.find?_some hrow
    obtain ⟨isRight, hcheck, hverify⟩ := checkPassword_of_stored hstores hsalts
      (Store.Memory.mem_liveRows.1 hlive).1 body.password
    obtain rfl : isRight = false := by
      cases isRight with
      | false => rfl
      | true => exact absurd ⟨row, hlive, hemail, hverify⟩ hunfit
    refine ⟨.invalidCredentials, rfl, ?_⟩
    rw [run_bind_of_ok (r := w) _ rfl, hcheck, run_bind_of_ok (a := false) (r := w) _ rfl]
    exact run_bind_of_error _ rfl

/-- A login that does not fit is refused, and leaves everything as it is. -/
theorem run_respond_refused (hf : w.faults = []) (hstores : StoresDrawn s w)
    (hsalts : ∀ n, (w.salts.item n).length = 16) (h : IsLogin r body) (hunfit : ¬ body.Fits w) :
    w.run false (respond s r) = (refusedLogin, w) := by
  obtain ⟨e, he, hlogin⟩ := run_login_refused (s := s) hf hstores hsalts hunfit
  have hanswer : w.run false (answer (login s body.email body.password) loginError
      fun pair => .json 200 (pairJson pair)) = (ApiError.invalidCredentials.response, w) := by
    rw [← he]
    exact run_answer_of_error hlogin
  rw [respond_login h]
  unfold World.run at hanswer ⊢
  rw [Dialog.run_bind, hanswer]
  rfl

/-- **Failed logins look alike.** Whatever has happened to the service, any two logins that name no
account that is there together with a password that is accepted for it are answered in the same way,
and neither changes anything: nobody has registered the email, its account has been deleted, or it
exists with another password. Salts are of sixteen bytes. -/
theorem failed_logins_look_alike (hw : IsFresh w₀) (hf : w₀.faults = [])
    (hsalts : ∀ n, (w₀.salts.item n).length = 16) (history : List Happening) (h : IsLogin r body)
    (h' : IsLogin r' body') :
    let w := after s w₀ history
    ¬ body.Fits w → ¬ body'.Fits w →
      w.run false (respond s r) = (refusedLogin, w) ∧
        w.run false (respond s r') = (refusedLogin, w) := by
  intro w hunfit hunfit'
  have hfw : w.faults = [] := Session.faults_after hf history
  have hstores : StoresDrawn s w := Session.storesDrawn_after hw hf history
  have hsalted := Session.length_salts_after (s := s) hf hsalts history
  exact ⟨run_respond_refused hfw hstores hsalted h hunfit,
    run_respond_refused hfw hstores hsalted h' hunfit'⟩

/-- A login with an email and a password. -/
def sampleLogin (email password : String) : Request where
  method := "POST"
  target := "/api/v1/auth/login"
  headers := [("content-type", "application/json")]
  body := Text.utf8 (Json.text (.object [("email", .string email), ("password", .string password)]))

/-- Whoever asks with the right password of an account that has been deleted is told the same as who
asks for nobody's. -/
theorem sampleLogin_refused :
    let w := after sampleSettings saltedWorld
      [.act false (.call (.register (sampleRegistration "1"))),
        .act false (.call (.deleteAccount 1))]
    w.store.rows.length = 1 ∧
      w.run false (respond sampleSettings (sampleLogin "user@example.com" "secret")) =
        w.run false (respond sampleSettings (sampleLogin "other@example.com" "guess")) := by
  intro w
  have hnobody : w.store.liveRows = [] := List.length_eq_zero_iff.1 (by decide +kernel)
  have hunfit : ∀ body : LoginBody, ¬ body.Fits w := by
    rintro body ⟨row, hrow, _⟩
    rw [hnobody] at hrow
    cases hrow
  have huser : IsLogin (sampleLogin "user@example.com" "secret") ⟨"user@example.com", "secret"⟩ :=
    ⟨rfl, by decide +kernel, by with_unfolding_all rfl⟩
  have hother : IsLogin (sampleLogin "other@example.com" "guess") ⟨"other@example.com", "guess"⟩ :=
    ⟨rfl, by decide +kernel, by with_unfolding_all rfl⟩
  obtain ⟨h, h'⟩ := failed_logins_look_alike (s := sampleSettings) Session.saltedWorld_isFresh rfl
    (fun _ => rfl) _ huser hother (hunfit _) (hunfit _)
  exact ⟨by decide +kernel, h.trans h'.symm⟩

end SignIn.Http
