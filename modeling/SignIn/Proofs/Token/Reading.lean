-- A token says what it was issued to say: what is signed is taken apart into
-- the same parts, and the claims that are read are those that were written.
import SignIn.Token.Issuer
import SignIn.Proofs.Codec.Base64
import SignIn.Proofs.Json.Skipping

namespace SignIn

open Text (utf8)
open Json (Bytes Yields Reader ReadBack ReadsMembers Codec Ends)
open Text.Decimal (int64Low int64High)

/-! ## Claims as JSON -/

/-- All numbers of the claims are of 64 bits. -/
structure Claims.Fits (c : Claims) : Prop where
  userId : int64Low ≤ c.userId ∧ c.userId ≤ int64High
  expiresAt : int64Low ≤ c.expiresAt ∧ c.expiresAt ≤ int64High
  issuedAt : int64Low ≤ c.issuedAt ∧ c.issuedAt ≤ int64High
  notBefore : int64Low ≤ c.notBefore ∧ c.notBefore ≤ int64High

theorem Claims.readBack (c : Claims) : ∃ ok, (ok ↔ c.Fits) ∧ ReadBack record c.toValues ok := by
  refine ⟨_, ?_, .cons (by decide) rfl (Codec.int64_readsBack c.userId) <|
    .cons (by decide) rfl (Codec.text_readsBack c.email) <|
    .cons (by decide) rfl (Codec.texts_readsBack c.permissions) <|
    .cons (by decide) rfl (Codec.text_readsBack c.subject) <|
    .cons (by decide) rfl (Codec.int64_readsBack c.expiresAt) <|
    .cons (by decide) rfl (Codec.int64_readsBack c.issuedAt) <|
    .cons (by decide) rfl (Codec.int64_readsBack c.notBefore) <|
    .cons (by decide) rfl (Codec.text_readsBack c.id) .nil⟩
  constructor
  · rintro ⟨h1, -, -, -, h2, h3, h4, -⟩
    exact ⟨h1, h2, h3, h4⟩
  · rintro ⟨h1, h2, h3, h4⟩
    exact ⟨h1, trivial, trivial, trivial, h2, h3, h4, trivial, trivial⟩

/-- Claims are read as they were written where their numbers fit, and not at all elsewhere. -/
theorem Claims.readWhole_json (c : Claims) :
    (c.Fits → Json.readWhole read (utf8 c.json.text) = .ok c) ∧
      (¬ c.Fits → ∃ f, Json.readWhole read (utf8 c.json.text) = .error f) := by
  obtain ⟨ok, hok, h⟩ := c.readBack
  exact h.readWhole_cases hok fun _ => rfl

namespace Token

/-! ## The registered claims -/

/-- A claim without a meaning of its own is passed over. -/
theorem readRegistered_skip {name : String} (r : Registered) {j : Json} {rest : Bytes}
    (hn : name ∉ ["exp", "nbf", "sub", "iss", "aud"])
    (hs : Json.skipValue (utf8 j.text ++ rest) = .value () rest) :
    Yields True (readRegistered name r (Json.valueBytes j ++ rest)) r rest := by
  refine .of_eq trivial ?_
  unfold readRegistered
  rw [if_neg hn, Json.valueBytes, List.cons_append, Reader.bind_of_value _ (Json.readColon_colon _),
    Reader.bind_of_value _ hs]
  rfl

/-- The registered claims with one that has been met. -/
def Registered.met (r : Registered) (name : String) (value : Option Json) : Registered :=
  let r := { r with seen := name :: r.seen }
  if name = "exp" then { r with expiresAt := secondsOf value }
  else if name = "nbf" then { r with notBefore := secondsOf value }
  else if name = "aud" then { r with hasAudience := isAudience value }
  else r

theorem Registered.seen_met (r : Registered) (name : String) (value : Option Json) :
    (r.met name value).seen = name :: r.seen := by
  unfold met
  split <;> try rfl
  split <;> try rfl
  split <;> rfl

/-- A registered claim that is met for the first time is read. -/
theorem readRegistered_read {name : String} {r : Registered} {j : Json} {rest : Bytes}
    (hn : name ∈ ["exp", "nbf", "sub", "iss", "aud"]) (hs : name ∉ r.seen)
    (hj : Json.readAny depth (utf8 j.text ++ rest) = .value j rest) :
    Yields True (readRegistered name r (Json.valueBytes j ++ rest)) (r.met name (some j)) rest := by
  refine .of_eq trivial ?_
  have ha : attempt (Json.readAny depth) (utf8 j.text ++ rest) = .value (some j) rest := by
    unfold attempt
    rw [hj]
  unfold readRegistered
  rw [if_pos hn, if_neg hs, Json.valueBytes, List.cons_append,
    Reader.bind_of_value _ (Json.readColon_colon _), Reader.bind_of_value _ ha]
  rfl

/-- The registered claims among claims that are not from before 1970. -/
def registeredOf (c : Claims) : Registered :=
  ⟨some c.expiresAt.toNat, some c.notBefore.toNat, false, ["nbf", "exp", "sub"]⟩

theorem readAny_seconds {n : Int} (h0 : 0 ≤ n) (hn : n ≤ int64High) {rest : Bytes}
    (hr : Ends rest) :
    Json.readAny depth (utf8 (Json.number n).text ++ rest) = .value (.number n) rest := by
  obtain ⟨m, rfl⟩ := Int.eq_ofNat_of_zero_le h0
  refine Json.readAny_number 125 ?_ hr
  unfold Json.maxWhole
  unfold int64High at hn
  omega

theorem secondsOf_number {n : Int} (h : 0 ≤ n) : secondsOf (some (.number n)) = some n.toNat :=
  if_pos h

theorem readsMembers_registered {c : Claims} (h : c.Fits) (he : 0 ≤ c.expiresAt)
    (hb : 0 ≤ c.notBefore) :
    ∃ ok, ok ∧ ReadsMembers readRegistered ⟨none, none, false, []⟩
      (Json.writeMembers Claims.record c.toValues) (registeredOf c) ok := by
  let start : Registered := ⟨none, none, false, []⟩
  let r1 := start.met "sub" (some (.string c.subject))
  let r2 := r1.met "exp" (some (.number c.expiresAt))
  let r3 := r2.met "nbf" (some (.number c.notBefore))
  have h3 : r3 = registeredOf c := by
    simp only [r3, r2, r1, start, Registered.met, secondsOf_number he, secondsOf_number hb]
    rfl
  have hsub : ∀ rest, Ends rest → Yields True (readRegistered "sub" start
      (Json.valueBytes (.string c.subject) ++ rest)) r1 rest := fun rest _ =>
    readRegistered_read (by decide) List.not_mem_nil (Json.readAny_text 125 c.subject rest)
  have hexp : ∀ rest, Ends rest → Yields True (readRegistered "exp" r1
      (Json.valueBytes (.number c.expiresAt) ++ rest)) r2 rest := fun rest hr =>
    readRegistered_read (by decide) (by rw [Registered.seen_met]; decide)
      (readAny_seconds he h.expiresAt.2 hr)
  have hnbf : ∀ rest, Ends rest → Yields True (readRegistered "nbf" r2
      (Json.valueBytes (.number c.notBefore) ++ rest)) r3 rest := fun rest hr =>
    readRegistered_read (by decide) (by rw [Registered.seen_met, Registered.seen_met]; decide)
      (readAny_seconds hb h.notBefore.2 hr)
  have hskip : ∀ (name : String) (r : Registered) (j : Json),
      name ∉ ["exp", "nbf", "sub", "iss", "aud"] →
      (∀ rest, Ends rest → Json.skipValue (utf8 j.text ++ rest) = .value () rest) →
      ∀ rest, Ends rest → Yields True (readRegistered name r (Json.valueBytes j ++ rest)) r rest :=
    fun name r j hn hj rest hr => readRegistered_skip r hn (hj rest hr)
  have hnumber : ∀ n rest, Ends rest →
      Json.skipValue (utf8 (Json.number n).text ++ rest) = .value () rest :=
    fun n _ hr => Json.skipValue_number n hr
  have htext : ∀ t rest, Ends rest →
      Json.skipValue (utf8 (Json.string t).text ++ rest) = .value () rest :=
    fun t rest _ => Json.skipValue_text t rest
  have hw : Json.writeMembers Claims.record c.toValues =
      [("user_id", .number c.userId), ("email", .string c.email),
        ("permissions", .array (c.permissions.map .string)), ("sub", .string c.subject),
        ("exp", .number c.expiresAt), ("iat", .number c.issuedAt), ("nbf", .number c.notBefore),
        ("jti", .string c.id)] := rfl
  rw [← h3, hw]
  refine ⟨_, ?_, .cons (hskip "user_id" start _ (by decide) (hnumber c.userId)) <|
    .cons (hskip "email" start _ (by decide) (htext c.email)) <|
    .cons (hskip "permissions" start _ (by decide)
      fun rest _ => Json.skipValue_texts c.permissions rest) <|
    .cons hsub <| .cons hexp <|
    .cons (hskip "iat" r2 _ (by decide) (hnumber c.issuedAt)) <| .cons hnbf <|
    .cons (hskip "jti" r3 _ (by decide) (htext c.id)) <| .nil r3⟩
  simp only [and_self]

/-- The registered claims are read where the numbers fit and are not from before 1970. -/
theorem readWhole_registered {c : Claims} (h : c.Fits) (he : 0 ≤ c.expiresAt)
    (hb : 0 ≤ c.notBefore) :
    Json.readWhole registered (utf8 c.json.text) = .ok (registeredOf c) := by
  obtain ⟨ok, hok, hm⟩ := readsMembers_registered h he hb
  have hread : ∀ bytes, registered (0x7B :: bytes) = (do
      let r ← Json.readMembers readRegistered ⟨none, none, false, []⟩
      Json.endMembers
      pure r : Reader Registered) bytes := by
    intro bytes
    unfold registered
    rw [Json.readBy_cons _ (by decide) (by rfl)]
    rfl
  unfold Json.readWhole Claims.json Json.write
  rw [Json.utf8_object, hread, Reader.bind_of_value _ ((hm.yields []).1 hok)]
  rfl

/-! ## The parts of a token -/

theorem splitLast_append {cs : List Char} (h : '.' ∉ cs) (behind before : List Char) :
    splitLast behind (cs ++ '.' :: before) = some (before, cs.reverse ++ behind) := by
  induction cs generalizing behind with
  | nil => rfl
  | cons c cs ih =>
    rw [List.mem_cons, not_or] at h
    rw [List.cons_append, splitLast, if_neg fun hc => h.1 hc.symm, ih h.2, List.reverse_cons,
      List.append_assoc, List.singleton_append]

/-- The text of a part of a token. -/
def partText (j : Json) : String := Codec.Base64.encode Codec.Base64.urlSafe (utf8 j.text)

/-- The parts of a token with these claims. -/
def partsOf (secret : List UInt8) (c : Claims) : Parts where
  header := (partText newHeader).toList
  claims := (partText c.json).toList
  signature := (signature secret (partText newHeader ++ "." ++ partText c.json)).toList

theorem dot_notMem_partText (j : Json) : '.' ∉ (partText j).toList := by
  unfold partText
  exact Codec.Base64.dot_notMem_encode _

theorem dot_notMem_signature (secret : List UInt8) (message : String) :
    '.' ∉ (signature secret message).toList := by
  unfold signature
  exact Codec.Base64.dot_notMem_encode _

theorem sign_eq (secret : List UInt8) (c : Claims) :
    sign secret c = partText newHeader ++ "." ++ partText c.json ++ "." ++
      signature secret (partText newHeader ++ "." ++ partText c.json) := rfl

theorem ofText?_sign (secret : List UInt8) (c : Claims) :
    Parts.ofText? (sign secret c) = some (partsOf secret c) := by
  have hdot : ".".toList = ['.'] := rfl
  have hs := dot_notMem_signature secret (partText newHeader ++ "." ++ partText c.json)
  have hc := dot_notMem_partText c.json
  rw [← List.mem_reverse] at hs hc
  unfold Parts.ofText?
  rw [sign_eq]
  simp only [String.toList_append, hdot, List.reverse_append, List.reverse_cons,
    List.append_assoc, List.nil_append, List.cons_append]
  rw [splitLast_append hs]
  simp only [Option.bind_eq_bind, Option.bind_some]
  rw [splitLast_append hc]
  simp only [Option.bind_some, List.reverse_reverse, List.append_nil, partsOf]

theorem claims_partsOf (secret : List UInt8) (c : Claims) :
    (partsOf secret c).claims = (partText c.json).toList := by
  simp only [partsOf]

theorem signature_partsOf (secret : List UInt8) (c : Claims) :
    String.ofList (partsOf secret c).signature =
      signature secret (partText newHeader ++ "." ++ partText c.json) := by
  simp only [partsOf, String.ofList_toList]

theorem message_partsOf (secret : List UInt8) (c : Claims) :
    (partsOf secret c).message = partText newHeader ++ "." ++ partText c.json := by
  apply String.toList_injective
  simp only [Parts.message, partsOf, String.toList_ofList, String.toList_append]
  simp

theorem algorithmOf_newHeader : algorithmOf (partText newHeader).toList = .ok .hs256 := by
  unfold algorithmOf partText
  rw [String.ofList_toList, Codec.Base64.decode?_encode]
  rfl

/-- A token is written in the alphabet that is safe in a URL, with dots between its parts. -/
theorem mem_sign {secret : List UInt8} {c : Claims} {ch : Char}
    (h : ch ∈ (sign secret c).toList) : ch ∈ '.' :: Codec.Base64.urlSafe.symbols := by
  have hpart : ∀ j, ch ∈ (partText j).toList → ch ∈ '.' :: Codec.Base64.urlSafe.symbols := by
    intro j hj
    unfold partText at hj
    exact List.mem_cons_of_mem _ (Codec.Base64.mem_symbols_of_mem_encode hj)
  rw [sign_eq] at h
  simp only [String.toList_append, List.mem_append] at h
  have hdot : ".".toList = ['.'] := rfl
  rcases h with (((h | h) | h) | h) | h
  · exact hpart _ h
  · rw [hdot, List.mem_singleton] at h
    exact h ▸ List.mem_cons_self
  · exact hpart _ h
  · rw [hdot, List.mem_singleton] at h
    exact h ▸ List.mem_cons_self
  · unfold signature at h
    exact List.mem_cons_of_mem _ (Codec.Base64.mem_symbols_of_mem_encode h)
theorem dot_mem_sign (secret : List UInt8) (c : Claims) : '.' ∈ (sign secret c).toList := by
  have hdot : ".".toList = ['.'] := rfl
  rw [sign_eq]
  simp only [String.toList_append, hdot, List.mem_append, List.mem_singleton, true_or, or_true]

/-! ## What a token says -/

/-- What a token with these claims says. -/
def signedOf (c : Claims) : Signed := ⟨c, c.expiresAt.toNat, c.notBefore.toNat, false⟩

/-- A token with the algorithm in use is checked for its signature, then its claims are read. -/
theorem ofToken_eq {token : String} {secret : List UInt8} {p : Parts}
    (hp : Parts.ofText? token = some p) (ha : algorithmOf p.header = .ok .hs256) :
    Signed.ofToken token secret =
      if String.ofList p.signature ≠ signature secret p.message then .error .wrongSignature
      else match claimsOf p.claims with
        | .ok (claims, r) => Signed.ofClaims claims r
        | .error r => .error r := by
  unfold Signed.ofToken
  rw [hp]
  change (do
    let algorithm ← algorithmOf p.header
    failIf (decide (algorithm ≠ Algorithm.hs256)) .wrongAlgorithm
    failIf (decide (String.ofList p.signature ≠ signature secret p.message)) .wrongSignature
    let both ← claimsOf p.claims
    Signed.ofClaims both.1 both.2 : Except Refusal Signed) = _
  rw [ha]
  by_cases h : String.ofList p.signature ≠ signature secret p.message
  · rw [if_pos h, decide_eq_true h]
    rfl
  · rw [if_neg h, decide_eq_false h]
    cases claimsOf p.claims <;> rfl

theorem claimsOf_json (c : Claims) :
    claimsOf (partText c.json).toList =
      match Json.readWhole Claims.read (utf8 c.json.text),
        Json.readWhole registered (utf8 c.json.text) with
      | .ok c, .ok r => .ok (c, r)
      | _, _ => .error .malformed := by
  have h : Codec.Base64.decode? Codec.Base64.urlSafe (String.ofList (partText c.json).toList) =
      some (utf8 c.json.text) := by
    rw [String.ofList_toList]
    exact Codec.Base64.decode?_encode _ _
  unfold claimsOf
  exact h ▸ rfl

theorem bind_eq_ok {ε α β : Type} {x : Except ε α} {f : α → Except ε β} {b : β}
    (h : (x >>= f) = .ok b) : ∃ a, x = .ok a ∧ f a = .ok b := by
  cases x with
  | error e => cases h
  | ok a => exact ⟨a, rfl, h⟩

theorem orFail_eq_ok {ε α : Type} {e : ε} {x : Option α} {a : α}
    (h : (orFail e x : Except ε α) = .ok a) : x = some a := by
  cases x with
  | none => cases h
  | some a' =>
    cases h
    rfl

theorem ofClaims_eq_ok {c : Claims} {r : Registered} {signed : Signed}
    (h : Signed.ofClaims c r = .ok signed) : signed.claims = c ∧
      r.expiresAt = some signed.expiresAt ∧ r.notBefore = some signed.notBefore := by
  obtain ⟨expiresAt, he, h⟩ := bind_eq_ok h
  obtain ⟨notBefore, hn, h⟩ := bind_eq_ok h
  cases h
  exact ⟨rfl, orFail_eq_ok he, orFail_eq_ok hn⟩

/-- Whatever a token is checked with, it says nothing but its claims. -/
theorem claims_of_ofToken_sign {secret secret' : List UInt8} {c : Claims} {signed : Signed}
    (h : Signed.ofToken (sign secret c) secret' = .ok signed) : signed.claims = c ∧ c.Fits := by
  rw [ofToken_eq (ofText?_sign secret c) algorithmOf_newHeader] at h
  rw [claims_partsOf, claimsOf_json] at h
  split at h
  · cases h
  · by_cases hf : c.Fits
    · rw [c.readWhole_json.1 hf] at h
      cases hr : Json.readWhole registered (utf8 c.json.text) with
      | error f =>
        rw [hr] at h
        cases h
      | ok r =>
        rw [hr] at h
        exact ⟨(ofClaims_eq_ok h).1, hf⟩
    · obtain ⟨f, he⟩ := c.readWhole_json.2 hf
      rw [he] at h
      cases h

/-- A token says what it was issued to say. -/
theorem ofToken_sign {c : Claims} (secret : List UInt8) (h : c.Fits) (he : 0 ≤ c.expiresAt)
    (hb : 0 ≤ c.notBefore) : Signed.ofToken (sign secret c) secret = .ok (signedOf c) := by
  rw [ofToken_eq (ofText?_sign secret c) algorithmOf_newHeader, message_partsOf]
  rw [if_neg (Decidable.not_not.2 (signature_partsOf secret c)), claims_partsOf, claimsOf_json,
    c.readWhole_json.1 h, readWhole_registered h he hb]
  rfl

/-- Tokens that are the same say the same. -/
theorem sign_injective {secret secret' : List UInt8} {c c' : Claims} (hf : c.Fits)
    (h : sign secret c = sign secret' c') : c' = c := by
  have hp : some (partsOf secret c) = some (partsOf secret' c') := by
    rw [← ofText?_sign, ← ofText?_sign, h]
  have ht := congrArg Parts.claims (Option.some.inj hp)
  rw [claims_partsOf, claims_partsOf] at ht
  have hd : Codec.Base64.decode? Codec.Base64.urlSafe (partText c.json) =
      Codec.Base64.decode? Codec.Base64.urlSafe (partText c'.json) := by
    rw [String.toList_injective ht]
  unfold partText at hd
  rw [Codec.Base64.decode?_encode, Codec.Base64.decode?_encode] at hd
  have hread := c.readWhole_json.1 hf
  rw [Option.some.inj hd] at hread
  by_cases hf' : c'.Fits
  · rw [c'.readWhole_json.1 hf'] at hread
    exact Except.ok.inj hread
  · obtain ⟨f, he⟩ := c'.readWhole_json.2 hf'
    rw [he] at hread
    cases hread

theorem failIf_ok {ε β : Type} {c : Bool} {e : ε} {f : Unit → Except ε β} {b : β}
    (h : (failIf c e >>= f) = .ok b) : c = false ∧ f () = .ok b := by
  cases c with
  | true => cases h
  | false => exact ⟨rfl, h⟩

/-- What is accepted are the claims, of a token of the wanted kind. -/
theorem claims_of_accept {signed : Signed} {kind : TokenKind} {now : Int} {c : Claims}
    (h : signed.accept kind now = .ok c) : signed.claims = c ∧ c.subject = kind.subject := by
  unfold Signed.accept at h
  have hs := failIf_ok (failIf_ok (failIf_ok (failIf_ok h).2).2).2
  have hc : signed.claims = c := Except.ok.inj hs.2
  have hk : signed.claims.subject = kind.subject := by simpa using hs.1
  exact ⟨hc, hc ▸ hk⟩

/-- A token's claims hold from its beginning to its end, for its kind. -/
theorem verify_sign {c : Claims} {kind : TokenKind} (secret : List UInt8) (h : c.Fits)
    (hk : c.subject = kind.subject) {now : Int} (h0 : 0 ≤ c.notBefore) (hb : c.notBefore ≤ now)
    (he : now ≤ c.expiresAt) : verify (sign secret c) kind secret now = .ok c := by
  unfold verify
  rw [ofToken_sign secret h (by omega) h0]
  have h1 : ¬ ((c.expiresAt.toNat : Int) < now) := by omega
  have h2 : ¬ (now < (c.notBefore.toNat : Int)) := by omega
  have h3 : ¬ (c.subject ≠ kind.subject) := Decidable.not_not.2 hk
  change (signedOf c).accept kind now = .ok c
  unfold Signed.accept signedOf
  rw [decide_eq_false h1, decide_eq_false h2, decide_eq_false h3]
  rfl

/-! ## Tokens as they are issued -/

/-- The claims of a token that is issued. -/
def claimsUntil (kind : TokenKind) (userId : Int) (email : String) (permissions : List String)
    (now expiresAt : Time.Instant) (id : String) : Claims :=
  { userId, email, permissions, subject := kind.subject, expiresAt := expiresAt.unixSeconds
    issuedAt := now.unixSeconds, notBefore := now.unixSeconds, id }

theorem token_issueUntil (s : Settings) (kind : TokenKind) (userId : Int) (email : String)
    (permissions : List String) (now expiresAt : Time.Instant) (id : String) :
    (issueUntil s kind userId email permissions now expiresAt id).token =
      sign (secretOf s kind) (claimsUntil kind userId email permissions now expiresAt id) := rfl

theorem unixSeconds_bounds (t : Time.Instant) :
    int64Low ≤ t.unixSeconds ∧ t.unixSeconds ≤ int64High := by
  obtain ⟨n, hlow, hhigh⟩ := t
  have hl : (-8334601228800 * 1000000000 : Int) ≤ n := hlow
  have hh : n ≤ (8210266876799 * 1000000000 + (1000000000 - 1) : Int) := hhigh
  change int64Low ≤ n / 1000000000 ∧ n / 1000000000 ≤ int64High
  unfold int64Low int64High
  omega

theorem fits_claimsUntil {userId : Int} (h : int64Low ≤ userId ∧ userId ≤ int64High)
    (kind : TokenKind) (email : String) (permissions : List String) (now expiresAt : Time.Instant)
    (id : String) : (claimsUntil kind userId email permissions now expiresAt id).Fits :=
  ⟨h, unixSeconds_bounds expiresAt, unixSeconds_bounds now, unixSeconds_bounds now⟩

end Token

end SignIn
