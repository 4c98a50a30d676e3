-- The numbers of claims that have been read, from an object or from an array,
-- are of 64 bits.
import SignIn.Proofs.Token.Soundness

namespace SignIn.Json

variable {f : Field} {fs : Record} {P : f.Value → Prop} {v r : Bytes}

/-! ## What a field's codec reads -/

theorem Members.holds_of_slot (p : At fs f) (hP : ∀ w a r, f.codec.read w = .value a r → P a)
    {s s' : Slots fs} (h : Members (readMember fs) s v s' r) (hs : ∀ a, p.slot s = some a → P a) :
    ∀ a, p.slot s' = some a → P a := by
  induction h with
  | done => exact hs
  | @more s s₁ _ _ _ _ _ _ _ name _ _ _ hm _ ih =>
    refine ih fun a ha => ?_
    by_cases hn : name = f.name
    · subst hn
      obtain ⟨_, w, a', _, hread, hslot⟩ := p.readMember_name hm
      rw [hslot] at ha
      cases ha
      exact hP w a _ hread
    · rw [p.readMember_ne hn hm] at ha
      exact hs a ha

theorem At.slot_empty (p : At fs f) : p.slot (Slots.empty fs) = none := by
  induction p with
  | here => rfl
  | there _ p ih => exact ih

theorem At.holds_of_readPositions (p : At fs f)
    (hP : ∀ w a r, f.codec.read w = .value a r → P a) (hshort : f.short = none) {first : Bool}
    {vs : Values fs} (h : readPositions first fs v = .value vs r) : P (p.value vs) := by
  induction p generalizing first v with
  | here =>
    unfold readPositions at h
    obtain ⟨more, w, _, h⟩ := Reader.bind_eq_value h
    cases more with
    | true =>
      obtain ⟨a, w', hread, h⟩ := Reader.bind_eq_value h
      obtain ⟨vs', w'', _, h⟩ := Reader.bind_eq_value h
      obtain ⟨rfl, rfl⟩ := Reader.pure_eq_value h
      exact hP w a w' hread
    | false =>
      rw [hshort] at h
      cases h
  | @there f g fs _ p ih =>
    unfold readPositions at h
    obtain ⟨more, w, _, h⟩ := Reader.bind_eq_value h
    cases more with
    | true =>
      obtain ⟨a, w', _, h⟩ := Reader.bind_eq_value h
      obtain ⟨vs', w'', hrest, h⟩ := Reader.bind_eq_value h
      obtain ⟨rfl, rfl⟩ := Reader.pure_eq_value h
      exact ih hP hshort hrest
    | false =>
      cases hg : g.short with
      | none =>
        rw [hg] at h
        cases h
      | some a =>
        rw [hg] at h
        obtain ⟨vs', w', hrest, h⟩ := Reader.bind_eq_value (v := w) h
        obtain ⟨rfl, rfl⟩ := Reader.pure_eq_value h
        exact ih hP hshort hrest

/-- What holds of all that a field's codec reads holds of the field of a record that is read, if the
field must be there. -/
theorem At.holds_of_readRecord (p : At fs f) (hP : ∀ w a r, f.codec.read w = .value a r → P a)
    (habsent : f.absent = none) (hshort : f.short = none) {vs : Values fs}
    (h : readRecord fs v = .value vs r) : P (p.value vs) := by
  obtain ⟨b, w, m, hv, hm, hread⟩ := readBy_eq_value h
  split at hm
  · rename_i hb
    subst hb
    obtain ⟨slots, r', hfill, hmembers, _⟩ := readRecord_object hv h
    have hvalue := p.value_of_fill? hfill
    rw [habsent, Option.or_none] at hvalue
    rcases members_of_readMembers hmembers with rfl | hmembers
    · rw [p.slot_empty] at hvalue
      cases hvalue
    · refine hmembers.holds_of_slot p hP (fun a ha => ?_) _ hvalue
      rw [p.slot_empty] at ha
      cases ha
  · split at hm
    · cases hm
      obtain ⟨vs', w', hpositions, h⟩ := Reader.bind_eq_value (v := w) hread
      obtain ⟨_, w'', _, h⟩ := Reader.bind_eq_value h
      obtain ⟨rfl, rfl⟩ := Reader.pure_eq_value h
      exact p.holds_of_readPositions hP hshort hpositions
    · cases hm

theorem wholeWithin_bounds {low high n : Int} {number : Number}
    (h : wholeWithin low high number v = .value n r) : low ≤ n ∧ n ≤ high := by
  unfold wholeWithin at h
  split at h
  · split at h
    · rename_i hn
      cases h
      exact hn
    · cases h
  · cases h

/-- A whole number that is read is within the bounds. -/
theorem readInt_bounds {low high n : Int} (h : readInt low high v = .value n r) :
    low ≤ n ∧ n ≤ high := by
  obtain ⟨b, w, m, hv, hm, h⟩ := readBy_eq_value h
  split at hm
  · cases hm
    obtain ⟨number, r', _, h⟩ := Reader.bind_eq_value (v := w) h
    exact wholeWithin_bounds h
  · split at hm
    · cases hm
      obtain ⟨number, r', _, h⟩ := Reader.bind_eq_value h
      exact wholeWithin_bounds h
    · cases hm

end SignIn.Json

namespace SignIn.Token

open Json (At Field Codec)
open Text.Decimal (int64Low int64High)

/-! ## The numbers of claims -/

/-- A number is one of 64 bits with a sign. -/
def IsInt64 (n : Int) : Prop := int64Low ≤ n ∧ n ≤ int64High

theorem isInt64_of_readRecord {name : String}
    (p : At Claims.record (Field.required name Codec.int64)) {vs : Json.Values Claims.record}
    {v r : Json.Bytes} (h : Json.readRecord Claims.record v = .value vs r) :
    IsInt64 (p.value vs) :=
  p.holds_of_readRecord (P := IsInt64) (fun _ _ _ hread => Json.readInt_bounds hread) rfl rfl h

/-- The place of the time of issue among the claims. -/
def atIssuedAt : At Claims.record (Field.required "iat" Codec.int64) :=
  .there (by decide) <| .there (by decide) <| .there (by decide) <| .there (by decide) <|
    .there (by decide) .here

/-- Claims that are read fit. -/
theorem fits_of_read {bytes : Json.Bytes} {c : Claims}
    (h : Json.readWhole Claims.read bytes = .ok c) : c.Fits := by
  obtain ⟨r, h, _⟩ := Json.readWhole_eq_ok h
  obtain ⟨vs, r', hrecord, h⟩ := Json.Reader.bind_eq_value h
  obtain ⟨rfl, rfl⟩ := Json.Reader.pure_eq_value h
  exact ⟨isInt64_of_readRecord .here hrecord, isInt64_of_readRecord atExpiresAt hrecord,
    isInt64_of_readRecord atIssuedAt hrecord, isInt64_of_readRecord atNotBefore hrecord⟩

/-- The claims of a token that is verified fit. -/
theorem fits_of_verify {token : String} {kind : TokenKind} {secret : List UInt8} {now : Int}
    {c : Claims} (h : verify token kind secret now = .ok c) : c.Fits := by
  obtain ⟨signed, hsigned, haccept⟩ := bind_eq_ok h
  obtain ⟨_, payload, _, _, ⟨bytes, _, hread⟩, _⟩ := ofToken_eq_ok hsigned
  rw [(claims_of_accept haccept).1] at hread
  exact fits_of_read hread

/-- A token that is verified is one of 1970 or later. -/
theorem nonneg_of_verify {token : String} {kind : TokenKind} {secret : List UInt8} {now : Int}
    {c : Claims} (h : verify token kind secret now = .ok c) : 0 ≤ now := by
  obtain ⟨signed, _, haccept⟩ := bind_eq_ok h
  unfold Signed.accept at haccept
  have himmature := (failIf_ok (failIf_ok haccept).2).1
  have hbegun := of_decide_eq_false himmature
  omega

end SignIn.Token
