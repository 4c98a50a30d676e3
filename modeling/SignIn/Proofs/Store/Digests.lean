-- Refresh tokens in the tables of a database. Whatever is sent there and
-- whatever comes back depends on a token only through its SHA-256 digest, and
-- all statements have the digest, as 64 hexadecimal digits, in the one column
-- that stands for the token.
import Mathlib.Data.List.Forall2
import SignIn.Proofs.Store.Records
import SignIn.Proofs.Store.Transactions

namespace SignIn.Codec.Hex

/-! ## Digests in hexadecimal -/

/-- Texts of so many lower-case hexadecimal digits. -/
def Spells (count : Nat) (text : String) : Prop :=
  text.length = count ∧ ∀ c ∈ text.toList, c ∈ "0123456789abcdef".toList

theorem digit_mem (n : Nat) : digit n ∈ "0123456789abcdef".toList := by
  have h : ∀ k < 16, Nat.digitChar k ∈ "0123456789abcdef".toList := by decide
  exact h (n % 16) (Nat.mod_lt n (by decide))

theorem spells_encode (bytes : List UInt8) : Spells (2 * bytes.length) (encode bytes) := by
  constructor
  · rw [encode, String.length_ofList]
    induction bytes with
    | nil => rfl
    | cons b bytes ih =>
      rw [List.map_cons, List.flatten_cons, List.length_append, ih, List.length_cons]
      simp only [ofByte, List.length_cons, List.length_nil]
      omega
  · intro c hc
    rw [encode, String.toList_ofList, List.mem_flatten] at hc
    obtain ⟨digits, hdigits, hc⟩ := hc
    obtain ⟨b, -, rfl⟩ := List.mem_map.1 hdigits
    rcases List.mem_cons.1 hc with rfl | hc
    · exact digit_mem _
    · exact List.mem_singleton.1 hc ▸ digit_mem _

end SignIn.Codec.Hex

namespace SignIn.Digest

theorem Variant.length_toBytes (width n : Nat) : (toBytes width n).length = width := by
  simp only [toBytes, List.length_reverse, List.length_map, List.length_range]

theorem Variant.length_stateBytes {W : Type} (v : Variant W) (s : State W) :
    (v.stateBytes s).length = 8 * v.width := by
  simp only [stateBytes, List.length_flatMap, length_toBytes, List.map_cons, List.map_nil,
    List.sum_cons, List.sum_nil]
  omega

theorem length_sha256 (message : List UInt8) : (sha256 message).length = 32 :=
  Variant.length_stateBytes variant32 _

theorem spells_sha256 (message : List UInt8) :
    Codec.Hex.Spells 64 (Codec.Hex.encode (sha256 message)) := by
  have h := Codec.Hex.spells_encode (sha256 message)
  rwa [length_sha256] at h

example : Codec.Hex.encode (sha256 (Text.utf8 "abc")) =
    "ba7816bf8f01cfea414140de5dae2223b00361a396177a9cb410ff61f20015ad" := by decide +kernel

end SignIn.Digest

namespace SignIn.Sql

/-! ## Columns in the text of a statement -/

/-- The characters of a text in ASCII, as which all statements are written. -/
def letters (text : String) : List Char := (Text.utf8 text).map fun b => Char.ofNat b.toNat

/-- What follows the first place at which a text has the mark. -/
def after? (mark : List Char) : List Char → Option (List Char)
  | [] => none
  | c :: cs =>
    if mark.isPrefixOf (c :: cs) then some ((c :: cs).drop mark.length) else after? mark cs

/-- The place among the parameters, counted from 0, of the one that a text begins with. -/
def place? : List Char → Option Nat
  | '$' :: cs => (Text.Decimal.ofDigits? (cs.takeWhile Char.isDigit)).map (· - 1)
  | _ => none

/-- The items of a list with commas. -/
def items (cs : List Char) : List (List Char) := (cs.splitOn ',').map (·.dropWhile (· == ' '))

/-- The place of the parameter that a text compares with the column. -/
def soughtPlace? (column text : String) : Option Nat := do
  place? (← after? (letters (column ++ " = ")) (letters text))

/-- The place of the parameter that a text stores in the column. It is that item of the values which
the column is of the columns. -/
def storedPlace? (column text : String) : Option Nat := do
  let rest ← after? (letters "INSERT INTO refresh_tokens (") (letters text)
  let values ← (after? (letters ") VALUES (") rest).or (after? (letters ") SELECT ") rest)
  let i ← (items (rest.takeWhile (· != ')'))).idxOf? (letters column)
  place? (← (items values)[i]?)

/-- The value of the column by which a statement seeks rows. -/
def Statement.seeks (column : String) (s : Statement) : Option Value := do
  s.params[← soughtPlace? column s.text]?

/-- The value of the column in the row that a statement stores. -/
def Statement.stores (column : String) (s : Statement) : Option Value := do
  s.params[← storedPlace? column s.text]?

/-- The columns of a statement are found in its text, which another statement may have as well. -/
theorem Statement.columns_of_text (s₀ : Statement) {s : Statement} {column : String}
    {i j : Option Nat} (htext : s.text = s₀.text) (hstored : storedPlace? column s₀.text = i)
    (hsought : soughtPlace? column s₀.text = j) :
    s.stores column = i.bind (s.params[·]?) ∧ s.seeks column = j.bind (s.params[·]?) := by
  constructor
  · rw [stores, htext, hstored]
    rfl
  · rw [seeks, htext, hsought]
    rfl

end SignIn.Sql

namespace SignIn.Store.Tables

open Sql
open Codec.Hex (encode)
open Digest (sha256)
open Text (utf8)

variable {t t' old old' new new' : String} {q q' : Request} {s s' : Statement} {p : Pool}
  {cancelled : Bool}

/-! ## Statements about a token -/

/-- The token that a question asks to find. -/
def sought : Request → Option String
  | .findToken token => some token
  | .rotateToken _ old _ _ => some old
  | .revokeToken token => some token
  | _ => none

/-- The token that a question asks to store. -/
def stored (q : Request) : Option String := q.stores.map Prod.snd

/-- The statement for a question about tokens. -/
def statement? : Request → Option Statement
  | .createToken userId token expiresAt => some (insertToken userId token expiresAt)
  | .findToken token => some (selectToken token)
  | .rotateToken userId old new expiresAt => some (replaceToken userId old new expiresAt)
  | .revokeToken token => some (markRevoked token)
  | _ => none

/-- The statement of a question stores and seeks the digests of its tokens. The text of a statement
is the same whatever the token, so it is read with an empty one. -/
theorem columns_of_statement? (h : statement? q = some s) :
    s.stores "token_hash" = (stored q).map (fun t => .text (encode (sha256 (utf8 t)))) ∧
      s.seeks "token_hash" = (sought q).map (fun t => .text (encode (sha256 (utf8 t)))) := by
  cases q with
  | createToken u t expiresAt =>
    cases h
    exact Statement.columns_of_text (insertToken 0 "" .epoch) (i := some 1) (j := none) rfl
      (by decide +kernel) (by decide +kernel)
  | findToken t =>
    cases h
    exact Statement.columns_of_text (selectToken "") (i := none) (j := some 0) rfl
      (by decide +kernel) (by decide +kernel)
  | rotateToken u old new expiresAt =>
    cases h
    exact Statement.columns_of_text (replaceToken 0 "" "" .epoch) (i := some 2)
      (j := some 1) rfl (by decide +kernel) (by decide +kernel)
  | revokeToken t =>
    cases h
    exact Statement.columns_of_text (markRevoked "") (i := none) (j := some 0) rfl
      (by decide +kernel) (by decide +kernel)
  | createUser | findUser | findCredentials | findByPhone | emailExists | softDelete
  | permissionsOf | revokeAll | purge => cases h

/-! ## What is sent -/

/-- A question that sends one statement, and makes of the outcome what it will. -/
theorem snd_run_send {α : Type} {onFailure : String → String → StoreError} (c : Connection)
    (s : Statement) (f : Outcome → Exchange α) (hf : ∀ o, ∃ a, (f o).run = .done a) :
    (c.run (send onFailure s >>= f).run).2 = c.after s := by
  cases h : (c.reply 0).outcome onFailure with
  | ok o =>
    obtain ⟨a, ha⟩ := hf o
    rw [run_send_of_ok h, ha]
    rfl
  | error e => rw [run_send_of_error h]

/-- What a question sends, where it concerns tokens. -/
structure Sends (p : Pool) (cancelled : Bool) (q : Request) (s : Statement)
    (sent : List Statement) : Prop where
  added : (p.answer cancelled q).2.connection.sent = p.connection.sent ++ sent
  /-- The rest is about the transaction, and has no parameters. -/
  rest : ∀ s' ∈ sent, s' = s ∨ s'.params = []
  /-- A rotation first begins a transaction. -/
  mem : cancelled = false → p.isClosed = false →
    (∀ u old new expiresAt, q = .rotateToken u old new expiresAt → p.connection.Acks 0) → s ∈ sent

theorem sends_of_cancelled (h : cancelled = true ∨ p.isClosed = true) (q : Request)
    (s : Statement) : Sends p cancelled q s [] := by
  have hsame : (p.answer cancelled q).2 = p := by
    unfold Pool.answer
    rcases h with rfl | hclosed
    · rfl
    · cases cancelled
      · rw [if_neg Bool.false_ne_true, if_pos hclosed]
      · rfl
  refine ⟨?_, nofun, fun hcancelled hopen => ?_⟩
  · rw [hsame, List.append_nil]
  · simp [hcancelled, hopen] at h

/-- A question that sends just its statement. -/
theorem sends_of_after {c : Connection}
    (h : (c.run (exchange q).run).2 = c.after s) : Sends ⟨c, false⟩ false q s [s] where
  added := congrArg Connection.sent h
  rest _ hs := Or.inl (List.mem_singleton.1 hs)
  mem _ _ _ := List.mem_singleton_self s

theorem sends_rotateToken (c : Connection) (u : Int) (old new : String)
    (expiresAt : Time.Instant) : ∃ sent, Sends ⟨c, false⟩ false (.rotateToken u old new expiresAt)
      (replaceToken u old new expiresAt) sent := by
  obtain ⟨result, sent, hrun, h⟩ := rotation_cases c u old new expiresAt
  refine ⟨sent, ?_, h.eq_or_params_eq_nil, fun _ _ hacks => ?_⟩
  · change (c.run (rotate u old new expiresAt).run).2.sent = _
    rw [hrun, Connection.foldl_after]
  · exact (h.asks_iff (List.cons_ne_nil _ _)).2 (hacks u old new expiresAt rfl)

theorem exists_sends (p : Pool) (cancelled : Bool) (h : statement? q = some s) :
    ∃ sent, Sends p cancelled q s sent := by
  obtain ⟨c, isClosed⟩ := p
  cases cancelled with
  | true => exact ⟨[], sends_of_cancelled (Or.inl rfl) q s⟩
  | false =>
    cases isClosed with
    | true => exact ⟨[], sends_of_cancelled (Or.inr rfl) q s⟩
    | false =>
      cases q with
      | createToken u t expiresAt =>
        cases h
        exact ⟨_, sends_of_after (snd_run_send c _ _ fun o => ⟨_, rfl⟩)⟩
      | findToken t =>
        cases h
        refine ⟨_, sends_of_after (snd_run_send c _ _ fun o => ?_)⟩
        cases readFirst? readRecord o <;> exact ⟨_, rfl⟩
      | rotateToken u old new expiresAt =>
        cases h
        exact sends_rotateToken c u old new expiresAt
      | revokeToken t =>
        cases h
        exact ⟨_, sends_of_after (snd_run_send c _ _ fun o => ⟨_, rfl⟩)⟩
      | createUser | findUser | findCredentials | findByPhone | emailExists | softDelete
      | permissionsOf | revokeAll | purge => cases h

/-! ## Tokens with the same digest -/

/-- Questions that are the same but for tokens, of which only the digests are the same. -/
inductive SameDigests : Request → Request → Prop
  | refl (q : Request) : SameDigests q q
  | createToken (u : Int) {t t' : String} (expiresAt : Time.Instant)
      (h : encode (sha256 (utf8 t)) = encode (sha256 (utf8 t'))) :
      SameDigests (.createToken u t expiresAt) (.createToken u t' expiresAt)
  | findToken {t t' : String} (h : encode (sha256 (utf8 t)) = encode (sha256 (utf8 t'))) :
      SameDigests (.findToken t) (.findToken t')
  | rotateToken (u : Int) {old old' new new' : String} (expiresAt : Time.Instant)
      (hold : encode (sha256 (utf8 old)) = encode (sha256 (utf8 old')))
      (hnew : encode (sha256 (utf8 new)) = encode (sha256 (utf8 new'))) :
      SameDigests (.rotateToken u old new expiresAt) (.rotateToken u old' new' expiresAt)
  | revokeToken {t t' : String} (h : encode (sha256 (utf8 t)) = encode (sha256 (utf8 t'))) :
      SameDigests (.revokeToken t) (.revokeToken t')

theorem tokenParam_inj :
    tokenParam t = tokenParam t' ↔ encode (sha256 (utf8 t)) = encode (sha256 (utf8 t')) :=
  ⟨Value.text.inj, congrArg Value.text⟩

/-- Questions about tokens with the same digests are led in the same way. -/
theorem SameDigests.exchange (h : SameDigests q q') : q.Answer = q'.Answer ∧
    HEq (Tables.exchange q) (Tables.exchange q') := by
  cases h with
  | refl => exact ⟨rfl, HEq.rfl⟩
  | @createToken u t t' expiresAt h =>
    have hs : insertToken u t expiresAt = insertToken u t' expiresAt := by
      unfold insertToken
      rw [tokenParam_inj.2 h]
    exact ⟨rfl, heq_of_eq (congrArg (fun s => do let _ ← send failedOrConflict s) hs)⟩
  | @findToken t t' h =>
    have hs : selectToken t = selectToken t' := by
      unfold selectToken
      rw [tokenParam_inj.2 h]
    exact ⟨rfl, heq_of_eq (congrArg
      (fun s => do ofExcept (readFirst? readRecord (← send failed s))) hs)⟩
  | @rotateToken u old old' new new' expiresAt hold hnew =>
    have hs : replaceToken u old new expiresAt = replaceToken u old' new' expiresAt := by
      unfold replaceToken
      rw [tokenParam_inj.2 hold, tokenParam_inj.2 hnew]
    refine ⟨rfl, heq_of_eq (?_ : rotate u old new expiresAt = rotate u old' new' expiresAt)⟩
    rw [rotate_eq, rotate_eq, hs]
  | @revokeToken t t' h =>
    have hs : markRevoked t = markRevoked t' := by
      unfold markRevoked
      rw [tokenParam_inj.2 h]
    exact ⟨rfl, heq_of_eq (congrArg
      (fun s => do return decide (0 < (← send failed s).affected)) hs)⟩

/-- How a pool goes about an exchange. -/
def Pool.lead {α : Type} (cancelled : Bool) (p : Pool) (x : Exchange α) :
    Except NoAnswer α × Pool :=
  if cancelled then (.error (.failure .cancelled), p)
  else if p.isClosed then (.error (.failure closedPool), p)
  else
    let (a, c) := p.connection.run x.run
    (a, { p with connection := c })

theorem Pool.lead_congr {α β : Type} {x : Exchange α} {y : Exchange β} (hAnswer : α = β)
    (h : HEq x y) (cancelled : Bool) (p : Pool) :
    (p.lead cancelled x).2 = (p.lead cancelled y).2 ∧
      HEq (p.lead cancelled x).1 (p.lead cancelled y).1 := by
  subst hAnswer
  rw [eq_of_heq h]
  exact ⟨rfl, HEq.rfl⟩

theorem SameDigests.answer (h : SameDigests q q') (cancelled : Bool) (p : Pool) :
    (p.answer cancelled q).2 = (p.answer cancelled q').2 ∧
      HEq (p.answer cancelled q).1 (p.answer cancelled q').1 :=
  Pool.lead_congr h.exchange.1 h.exchange.2 cancelled p

/-! ## Questions one after the other -/

/-- A question; its caller may have given up. -/
structure Call where
  cancelled : Bool
  question : Request

/-- Answers questions one after the other. -/
def Pool.answers (p : Pool) : List Call → List ((q : Request) × Except NoAnswer q.Answer) × Pool
  | [] => ([], p)
  | call :: calls =>
    let (a, p) := p.answer call.cancelled call.question
    let (as, p) := answers p calls
    (⟨call.question, a⟩ :: as, p)

theorem answers_cons (p : Pool) (cancelled : Bool) (q : Request) (calls : List Call) :
    p.answers (⟨cancelled, q⟩ :: calls) =
      (⟨q, (p.answer cancelled q).1⟩ :: ((p.answer cancelled q).2.answers calls).1,
        ((p.answer cancelled q).2.answers calls).2) := rfl

/-- Calls that are the same but for tokens, of which only the digests are the same. -/
def SameCall (x y : Call) : Prop :=
  x.cancelled = y.cancelled ∧ SameDigests x.question y.question

/-- Answers that are the same, to questions that may differ. -/
def SameAnswer (x y : (q : Request) × Except NoAnswer q.Answer) : Prop := HEq x.2 y.2

theorem answers_congr {calls calls' : List Call} (h : List.Forall₂ SameCall calls calls')
    (p : Pool) : (p.answers calls).2 = (p.answers calls').2 ∧
      List.Forall₂ SameAnswer (p.answers calls).1 (p.answers calls').1 := by
  induction h generalizing p with
  | nil => exact ⟨rfl, .nil⟩
  | @cons x y calls calls' hcall _ ih =>
    obtain ⟨cancelled, q⟩ := x
    obtain ⟨cancelled', q'⟩ := y
    obtain ⟨hcancelled : cancelled = cancelled', hq : SameDigests q q'⟩ := hcall
    subst hcancelled
    obtain ⟨hpool, hanswer⟩ := hq.answer cancelled p
    obtain ⟨hpool', hanswers⟩ := ih (p.answer cancelled q).2
    rw [answers_cons, answers_cons, ← hpool]
    exact ⟨hpool', .cons hanswer hanswers⟩

/-! ## Digests only -/

/-- **A database knows refresh tokens by their digests only.** Questions that differ in tokens with
the same digests have the same sent and are answered the same. What is sent for a token has its
digest in the one column, 64 lower-case hexadecimal digits, so a row that is stored for a token is
sought for a token exactly if the digests are the same. -/
theorem tokens_by_digest :
    (∀ p calls calls', List.Forall₂ SameCall calls calls' →
      (Pool.answers p calls).2 = (p.answers calls').2 ∧
        List.Forall₂ SameAnswer (p.answers calls).1 (p.answers calls').1) ∧
    (∀ p cancelled q s, statement? q = some s → (∃ sent, Sends p cancelled q s sent) ∧
      s.stores "token_hash" = (stored q).map (fun t => .text (encode (sha256 (utf8 t)))) ∧
        s.seeks "token_hash" = (sought q).map (fun t => .text (encode (sha256 (utf8 t))))) ∧
    (∀ t, Codec.Hex.Spells 64 (encode (sha256 (utf8 t)))) ∧
    ∀ q q' s s' t t', statement? q = some s → statement? q' = some s' → stored q = some t →
      sought q' = some t' → (s.stores "token_hash" = s'.seeks "token_hash" ↔
        encode (sha256 (utf8 t)) = encode (sha256 (utf8 t'))) := by
  refine ⟨fun p calls calls' h => answers_congr h p,
    fun p cancelled q s h => ⟨exists_sends p cancelled h, columns_of_statement? h⟩,
    fun t => Digest.spells_sha256 (utf8 t), fun q q' s s' t t' h h' ht ht' => ?_⟩
  rw [(columns_of_statement? h).1, (columns_of_statement? h').2, ht, ht', Option.map_some,
    Option.map_some, Option.some_inj, Value.text.injEq]

/-- A token that is stored is the one that a rotation seeks, and what the rotation stores for
another is its digest. -/
theorem tokens_by_digest_rotated :
    (insertToken 1 "a" .epoch).stores "token_hash" =
        (replaceToken 1 "a" "b" .epoch).seeks "token_hash" ∧
      (replaceToken 1 "a" "b" .epoch).stores "token_hash" =
        some (.text "3e23e8160039594a33894f6564e1b1348bbd7a0088d42c4acb73eeaed59c009d") := by
  have hdigest : encode (sha256 (utf8 "b")) =
      "3e23e8160039594a33894f6564e1b1348bbd7a0088d42c4acb73eeaed59c009d" := by decide +kernel
  refine ⟨(tokens_by_digest.2.2.2 (.createToken 1 "a" .epoch) (.rotateToken 1 "a" "b" .epoch)
    _ _ "a" "a" rfl rfl rfl rfl).2 rfl, ?_⟩
  rw [(tokens_by_digest.2.1 ⟨⟨[], []⟩, false⟩ false (.rotateToken 1 "a" "b" .epoch) _ rfl).2.1,
    ← hdigest]
  rfl

end SignIn.Store.Tables
