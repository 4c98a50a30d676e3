-- Whatever text is accepted as a token, whoever made it up, is one: three parts,
-- the algorithm in use, the one signature of the secret, claims of the wanted
-- kind, and a time at which they hold.
import SignIn.Proofs.Token.Agreement

namespace SignIn.Token

open Codec.Base64 (decode? urlSafe)

/-! ## Parts -/

theorem splitLast_eq_some {behind cs before after : List Char}
    (h : splitLast behind cs = some (before, after)) :
    ∃ part, '.' ∉ part ∧ cs = part ++ '.' :: before ∧ after = part.reverse ++ behind := by
  induction cs generalizing behind with
  | nil => cases h
  | cons c cs ih =>
    rw [splitLast] at h
    split at h
    · rename_i hc
      cases h
      exact ⟨[], List.not_mem_nil, by rw [hc]; rfl, rfl⟩
    · rename_i hc
      obtain ⟨part, hdot, rfl, rfl⟩ := ih h
      refine ⟨c :: part, ?_, rfl, ?_⟩
      · rw [List.mem_cons, not_or]
        exact ⟨fun h => hc h.symm, hdot⟩
      · rw [List.reverse_cons, List.append_assoc, List.singleton_append]

/-- Only a header can have dots of its own. -/
theorem ofText?_eq_some {token : String} {p : Parts} (h : Parts.ofText? token = some p) :
    token.toList = p.header ++ '.' :: (p.claims ++ '.' :: p.signature) ∧ '.' ∉ p.claims ∧
      '.' ∉ p.signature := by
  obtain ⟨⟨before, signature⟩, h₁, h⟩ := Option.bind_eq_some_iff.1 h
  obtain ⟨⟨before', claims⟩, h₂, h⟩ := Option.bind_eq_some_iff.1 h
  cases h
  obtain ⟨part, hdot, htoken, rfl⟩ := splitLast_eq_some h₁
  obtain ⟨part', hdot', rfl, rfl⟩ := splitLast_eq_some h₂
  refine ⟨?_, by simpa using hdot', by simpa using hdot⟩
  rw [← List.reverse_reverse token.toList, htoken]
  simp

theorem splitOn_of_parts {token : String} {p : Parts} (h : Parts.ofText? token = some p)
    (hheader : '.' ∉ p.header) : token.toList.splitOn '.' = [p.header, p.claims, p.signature] := by
  obtain ⟨htoken, hclaims, hsignature⟩ := ofText?_eq_some h
  rw [htoken, List.splitOn_append_cons_self_of_not_mem hheader,
    List.splitOn_append_cons_self_of_not_mem hclaims, List.splitOn_eq_singleton hsignature]

/-! ## What a part spells -/

/-- The part spells what the reader makes of all its bytes. -/
def Spells {α : Type} (read : Json.Reader α) (part : List Char) (a : α) : Prop :=
  ∃ bytes, decode? urlSafe (String.ofList part) = some bytes ∧ Json.readWhole read bytes = .ok a

theorem Spells.unique {α : Type} {read : Json.Reader α} {part : List Char} {a b : α}
    (h : Spells read part a) (h' : Spells read part b) : a = b := by
  obtain ⟨bytes, hd, ha⟩ := h
  obtain ⟨bytes', hd', hb⟩ := h'
  rw [hd] at hd'
  cases hd'
  rw [ha] at hb
  exact Except.ok.inj hb

theorem Spells.dot_notMem {α : Type} {read : Json.Reader α} {part : List Char} {a : α}
    (h : Spells read part a) : '.' ∉ part := by
  obtain ⟨bytes, hd, _⟩ := h
  have hdot := Codec.Base64.dot_notMem_of_decode? hd
  rwa [String.toList_ofList] at hdot

/-- The header names the algorithm. -/
def Names (header : List Char) (algorithm : Algorithm) : Prop :=
  ∃ values, Spells (Json.readRecord headerRecord) header values ∧ headerAlgorithm values = algorithm

theorem names_of_algorithmOf {header : List Char} {algorithm : Algorithm}
    (h : algorithmOf header = .ok algorithm) : Names header algorithm := by
  unfold algorithmOf at h
  split at h
  · cases h
  · rename_i bytes hd
    split at h
    · rename_i values hr
      exact ⟨values, ⟨bytes, hd, hr⟩, Except.ok.inj h⟩
    · cases h

theorem Names.dot_notMem {header : List Char} {algorithm : Algorithm}
    (h : Names header algorithm) : '.' ∉ header := by
  obtain ⟨_, hs, _⟩ := h
  exact hs.dot_notMem

/-- Claims that are read agree with what is registered of them. -/
theorem spells_of_claimsOf {part : List Char} {c : Claims} {reg : Registered}
    (h : claimsOf part = .ok (c, reg)) :
    Spells Claims.read part c ∧ (∀ m, reg.expiresAt = some m → c.expiresAt = m) ∧
      ∀ m, reg.notBefore = some m → c.notBefore = m := by
  unfold claimsOf at h
  split at h
  · cases h
  · rename_i bytes hd
    split at h
    · rename_i c' reg' hc hreg
      cases h
      exact ⟨⟨bytes, hd, hc⟩, registered_agrees hc hreg⟩
    · cases h

/-! ## Tokens -/

/-- The text consists of three parts, of which the first names the algorithm in use and the last is
the signature of the others. -/
structure IsSigned (token : String) (secret : List UInt8) (header payload sig : List Char) :
    Prop where
  parts : token.toList.splitOn '.' = [header, payload, sig]
  algorithm : Names header .hs256
  signature : String.ofList sig = Codec.Base64.encode urlSafe
    (Digest.hmacSha256 secret (Text.utf8 (String.ofList (header ++ '.' :: payload))))

/-- The part spells these claims, they are of the kind, and they hold at the instant. -/
structure Holds (payload : List Char) (kind : TokenKind) (now : Time.Instant) (c : Claims) :
    Prop where
  claims : Spells Claims.read payload c
  notBefore : c.notBefore ≤ now.unixSeconds
  expiresAt : now.unixSeconds ≤ c.expiresAt
  subject : c.subject = kind.subject

/-- What a token says is what its second part spells, signed with the secret. -/
theorem ofToken_eq_ok {token : String} {secret : List UInt8} {signed : Signed}
    (h : Signed.ofToken token secret = .ok signed) : ∃ header payload sig,
      IsSigned token secret header payload sig ∧ Spells Claims.read payload signed.claims ∧
      signed.claims.expiresAt = signed.expiresAt ∧ signed.claims.notBefore = signed.notBefore := by
  unfold Signed.ofToken at h
  obtain ⟨p, hp, h⟩ := bind_eq_ok h
  obtain ⟨algorithm, halg, h⟩ := bind_eq_ok h
  obtain ⟨hne, h⟩ := failIf_ok h
  obtain ⟨hsig, h⟩ := failIf_ok h
  obtain ⟨⟨c, reg⟩, hclaims, h⟩ := bind_eq_ok h
  have hnames : Names p.header .hs256 := by
    rw [← Decidable.not_not.1 (of_decide_eq_false hne)]
    exact names_of_algorithmOf halg
  obtain ⟨hspells, hexp, hnbf⟩ := spells_of_claimsOf hclaims
  obtain ⟨rfl, he, hn⟩ := ofClaims_eq_ok h
  exact ⟨p.header, p.claims, p.signature,
    ⟨splitOn_of_parts (orFail_eq_ok hp) hnames.dot_notMem, hnames,
      Decidable.not_not.1 (of_decide_eq_false hsig)⟩,
    hspells, hexp _ he, hnbf _ hn⟩

/-- What is accepted holds at the time. -/
theorem accept_eq_ok {signed : Signed} {kind : TokenKind} {now : Int} {c : Claims}
    (h : signed.accept kind now = .ok c) :
    now ≤ signed.expiresAt ∧ (signed.notBefore : Int) ≤ now := by
  unfold Signed.accept at h
  obtain ⟨hexp, h⟩ := failIf_ok h
  obtain ⟨hnbf, _⟩ := failIf_ok h
  exact ⟨Int.not_lt.1 (of_decide_eq_false hexp), Int.not_lt.1 (of_decide_eq_false hnbf)⟩

/-- A text that is accepted as a token is one. -/
theorem isSigned_of_verify {token : String} {kind : TokenKind} {secret : List UInt8}
    {now : Time.Instant} {c : Claims} (h : verify token kind secret now.unixSeconds = .ok c) :
    ∃ header payload sig, IsSigned token secret header payload sig ∧ Holds payload kind now c := by
  unfold verify at h
  obtain ⟨signed, hs, h⟩ := bind_eq_ok h
  obtain ⟨header, payload, sig, hsigned, hspells, hexp, hnbf⟩ := ofToken_eq_ok hs
  obtain ⟨rfl, hsubject⟩ := claims_of_accept h
  obtain ⟨hend, hbegin⟩ := accept_eq_ok h
  refine ⟨header, payload, sig, hsigned, hspells, ?_, ?_, hsubject⟩
  · rw [hnbf]
    exact hbegin
  · rw [hexp]
    exact hend

/-- Of texts with the same first two parts only the one with the signature is accepted. -/
theorem IsSigned.unique {token token' : String} {secret : List UInt8}
    {header payload sig sig' : List Char} (h : IsSigned token secret header payload sig)
    (h' : IsSigned token' secret header payload sig') : sig' = sig := by
  have he := h'.signature.trans h.signature.symm
  exact String.ofList_injective he

theorem subject_injective {kind kind' : TokenKind} (h : kind.subject = kind'.subject) :
    kind = kind' := by
  cases kind <;> cases kind' <;> first | rfl | exact absurd h (by decide)

/-- A text is accepted for one kind of token only, whatever the secrets are and whenever it is. -/
theorem kind_unique {token : String} {kind kind' : TokenKind} {secret secret' : List UInt8}
    {now now' : Time.Instant} {c c' : Claims}
    (h : verify token kind secret now.unixSeconds = .ok c)
    (h' : verify token kind' secret' now'.unixSeconds = .ok c') : kind' = kind := by
  obtain ⟨header, payload, sig, hsigned, hholds⟩ := isSigned_of_verify h
  obtain ⟨header', payload', sig', hsigned', hholds'⟩ := isSigned_of_verify h'
  have hparts := hsigned.parts
  rw [hsigned'.parts] at hparts
  cases hparts
  have hc := hholds'.claims.unique hholds.claims
  refine subject_injective ?_
  rw [← hholds.subject, ← hholds'.subject, hc]

/-- Whatever text is accepted as a token has three parts: a header that names the algorithm in use,
what spells the claims, and the one signature that the secret gives to both. The claims are of the
wanted kind and hold at the time. No text is accepted for both kinds of token. -/
theorem verified_is_genuine (token : String) (kind : TokenKind) (secret : List UInt8)
    (now : Time.Instant) (c : Claims)
    (h : verify token kind secret now.unixSeconds = .ok c) :
    (∃ header payload sig, IsSigned token secret header payload sig ∧ Holds payload kind now c ∧
      ∀ token' kind' now' c' sig',
        verify token' kind' secret (Time.Instant.unixSeconds now') = .ok c' →
        token'.toList.splitOn '.' = [header, payload, sig'] → sig' = sig) ∧
    ∀ kind' secret' now' c',
      verify token kind' secret' (Time.Instant.unixSeconds now') = .ok c' → kind' = kind := by
  refine ⟨?_, fun kind' secret' now' c' h' => kind_unique h h'⟩
  obtain ⟨header, payload, sig, hsigned, hholds⟩ := isSigned_of_verify h
  refine ⟨header, payload, sig, hsigned, hholds, fun token' kind' now' c' sig' h' hparts' => ?_⟩
  obtain ⟨header', payload', sig₂, hsigned', _⟩ := isSigned_of_verify h'
  have he := hsigned'.parts
  rw [hparts'] at he
  cases he
  exact hsigned.unique hsigned'

/-- A token that is accepted at the epoch. -/
theorem epoch_token_is_genuine :
    let c : Claims := ⟨1, "user@example.com", [], "access", 10, 0, 0, "0"⟩
    let secret := Text.utf8 "secret"
    verify (sign secret c) .access secret Time.Instant.epoch.unixSeconds = .ok c ∧
    ∃ header payload sig, IsSigned (sign secret c) secret header payload sig ∧
      Holds payload .access Time.Instant.epoch c := by
  intro c secret
  have hfits : c.Fits := ⟨by decide, by decide, by decide, by decide⟩
  have hv : verify (sign secret c) .access secret Time.Instant.epoch.unixSeconds = .ok c :=
    verify_sign secret hfits rfl (by decide) (by decide) (by decide)
  obtain ⟨⟨header, payload, sig, hsigned, hholds, _⟩, _⟩ := verified_is_genuine _ _ _ _ _ hv
  exact ⟨hv, header, payload, sig, hsigned, hholds⟩

end SignIn.Token
