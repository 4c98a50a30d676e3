-- What goes over the wire is read back: accounts, pairs of tokens and the bodies
-- of responses are read from their JSON as they were written, and the body of an
-- account's profile is read as the account.
import SignIn.Http.ApiError
import SignIn.Http.Bodies
import SignIn.Proofs.Json.Codecs
import SignIn.Proofs.Token.Bounds

namespace SignIn

open Text (utf8)
open Text.Decimal (int32Low int32High nat64High)
open Json (Codec ReadBack)
open Token (IsInt64)

/-! ## Accounts -/

/-- A number is one of 32 bits with a sign. -/
def IsInt32 (n : Int) : Prop := int32Low ≤ n ∧ n ≤ int32High

/-- All numbers of the account have the width of their field. -/
structure User.Fits (u : User) : Prop where
  id : IsInt64 u.id
  heightCm : ∀ n ∈ u.person.heightCm, IsInt32 n
  weightKg : ∀ n ∈ u.person.weightKg, IsInt32 n
  activityLevel : ∀ n ∈ u.person.activityLevel, IsInt64 n
  town : ∀ n ∈ u.person.town, IsInt64 n
  role : ∀ n ∈ u.role, IsInt64 n

theorem readsBack_height (o : Option Int) :
    Codec.int32.nullable.ReadsBack o (∀ n ∈ o, IsInt32 n) :=
  Codec.nullable_readsBack Codec.int32_readsBack (Codec.int_begins _ _) o

theorem readsBack_reference (o : Option Int) :
    Codec.int64.nullable.ReadsBack o (∀ n ∈ o, IsInt64 n) :=
  Codec.nullable_readsBack Codec.int64_readsBack (Codec.int_begins _ _) o

theorem readsBack_remark (o : Option String) :
    Codec.text.nullable.ReadsBack o (∀ s ∈ o, True) :=
  Codec.nullable_readsBack Codec.text_readsBack Codec.text_begins o

theorem User.readBack (u : User) : ∃ ok, (ok ↔ u.Fits) ∧ ReadBack record u.toValues ok := by
  refine ⟨_, ?_, .cons (by decide) rfl (Codec.int64_readsBack u.id) <|
    .cons (by decide) rfl (Codec.text_readsBack u.person.name) <|
    .cons (by decide) rfl (Codec.text_readsBack u.person.surname) <|
    .cons (by decide) rfl (Codec.text_readsBack u.person.gender) <|
    .cons (by decide) rfl (Codec.date_readsBack u.birthDate) <|
    .cons (by decide) rfl (readsBack_height u.person.heightCm) <|
    .cons (by decide) rfl (readsBack_height u.person.weightKg) <|
    .cons (by decide) rfl (readsBack_reference u.person.activityLevel) <|
    .cons (by decide) rfl (readsBack_reference u.person.town) <|
    .cons (by decide) rfl (readsBack_reference u.role) <|
    .cons (by decide) rfl (Codec.text_readsBack u.phone) <|
    .cons (by decide) rfl (Codec.bool_readsBack u.phoneVerified) <|
    .cons (by decide) rfl (Codec.text_readsBack u.email) <|
    .cons (by decide) rfl (Codec.bool_readsBack u.emailVerified) <|
    .cons (by decide) rfl (Codec.bool_readsBack u.person.injured) <|
    .cons (by decide) rfl (readsBack_remark u.person.injury) <|
    .cons (by decide) rfl (readsBack_remark u.person.photo) <|
    .cons (by decide) rfl (Codec.timestamp_readsBack u.createdAt) <|
    .cons (by decide) rfl (Codec.timestamp_readsBack u.updatedAt) .nil⟩
  constructor
  · rintro ⟨hid, -, -, -, -, hheight, hweight, hactivity, htown, hrole, -⟩
    exact ⟨hid, hheight, hweight, hactivity, htown, hrole⟩
  · rintro ⟨hid, hheight, hweight, hactivity, htown, hrole⟩
    simp only [implies_true, and_true, true_and]
    exact ⟨hid, hheight, hweight, hactivity, htown, hrole⟩

/-- An account is read as it was written where its numbers fit, and only there. -/
theorem User.readWhole_json_iff (u : User) :
    Json.readWhole read (utf8 u.json.text) = .ok u ↔ u.Fits := by
  obtain ⟨ok, hok, h⟩ := u.readBack
  exact h.readWhole_iff hok fun _ => rfl

/-! ## Pairs of tokens -/

theorem TokenPair.readWhole_json (p : TokenPair) :
    Json.readWhole read (utf8 p.json.text) = .ok p := by
  have h : ReadBack record (p.access, p.refresh, ()) (True ∧ True ∧ True) :=
    .cons (by decide) rfl (Codec.text_readsBack p.access) <|
      .cons (by decide) rfl (Codec.text_readsBack p.refresh) .nil
  exact h.readWhole_eq (by simp) fun _ => rfl

namespace Http

theorem TokenBody.readWhole_json (b : TokenBody) :
    Json.readWhole read (utf8 b.json.text) = .ok b := by
  have h : ReadBack record (b.access, b.refresh, ()) (True ∧ True ∧ True) :=
    .cons (by decide) rfl (Codec.text_readsBack b.access) <|
      .cons (by decide) rfl (Codec.text_readsBack b.refresh) .nil
  exact h.readWhole_eq (by simp) fun _ => rfl

/-! ## Failures and confirmations -/

theorem ErrorBody.readWhole_json (b : ErrorBody) :
    Json.readWhole read (utf8 b.json.text) = .ok b := by
  obtain ⟨ok, hok, hmissing⟩ := ReadBack.sparse "missing" (by decide)
    Codec.texts_readsBack Codec.texts_begins b.missing .nil
  have h : ReadBack record b.toValues (True ∧ True ∧ ok) :=
    .cons (by decide) rfl (Codec.text_readsBack b.code) <|
      .cons (by decide) rfl (Codec.text_readsBack b.text) hmissing
  exact h.readWhole_eq ⟨trivial, trivial, hok.2 trivial⟩ fun _ => rfl

theorem ConfirmationBody.readWhole_json (b : ConfirmationBody) :
    Json.readWhole read (utf8 b.json.text) = .ok b := by
  obtain ⟨_, hrefreshOk, hrefresh⟩ := ReadBack.sparse "refresh_token" (by decide)
    Codec.text_readsBack Codec.text_begins b.refresh .nil
  obtain ⟨ok, hok, haccess⟩ := ReadBack.sparse "access_token" (by decide)
    Codec.text_readsBack Codec.text_begins b.access hrefresh
  have h : ReadBack record b.toValues (True ∧ True ∧ True ∧ ok) :=
    .cons (by decide) rfl (Codec.bool_readsBack b.confirmed) <|
      .cons (by decide) rfl (Codec.bool_readsBack b.registered) <|
      .cons (by decide) rfl (Codec.text_readsBack b.text) haccess
  exact h.readWhole_eq ⟨trivial, trivial, trivial, hok.2 (hrefreshOk.2 trivial)⟩ fun _ => rfl

/-! ## Profiles -/

/-- The account that a profile shows. -/
def ProfileBody.user (b : ProfileBody) : User where
  id := b.id
  birthDate := b.birthDate
  role := b.role
  phone := b.phone
  phoneVerified := b.phoneVerified
  email := b.email
  emailVerified := b.emailVerified
  createdAt := b.createdAt
  updatedAt := b.updatedAt
  person := ⟨b.name, b.surname, b.gender, b.heightCm, b.weightKg, b.activityLevel, b.town,
    b.injured, b.injury, b.photo⟩

/-- A profile and the account that it shows have the same fields. -/
theorem ProfileBody.json_user (b : ProfileBody) : b.user.json = b.json := rfl

theorem ProfileBody.user_ofUser (u : User) : (ofUser u).user = u := rfl

/-- All numbers of the profile have the width of their field. -/
def ProfileBody.Fits (b : ProfileBody) : Prop := b.user.Fits

theorem ProfileBody.readWhole_json_iff (b : ProfileBody) :
    Json.readWhole read (utf8 b.json.text) = .ok b ↔ b.Fits := by
  obtain ⟨ok, hok, h⟩ := b.user.readBack
  have h : ReadBack record b.toValues ok := h
  exact h.readWhole_iff hok fun _ => rfl

/-! ## Revocations -/

theorem readWhole_revokedJson_iff (userId : Int) (revoked : Nat) :
    Json.readWhole readRevoked (utf8 (revokedJson userId revoked).text) = .ok (userId, revoked) ↔
      IsInt64 userId ∧ revoked ≤ nat64High := by
  have h : ReadBack revokedRecord (userId, revoked, ())
      (IsInt64 userId ∧ revoked ≤ nat64High ∧ True) :=
    .cons (by decide) rfl (Codec.int64_readsBack userId) <|
      .cons (by decide) rfl (Codec.nat64_readsBack revoked) .nil
  exact h.readWhole_iff (by simp) fun _ => rfl

/-- Whatever goes over the wire is read from its JSON as it was written, whatever its texts, its
dates and its clock readings are and whichever optional values are missing, as long as its numbers
have the widths of their fields; and the profile of an account is read as that account. -/
theorem wire_reads_back (u : User) (pair : TokenPair) (token : TokenBody) (failure : ErrorBody)
    (confirmation : ConfirmationBody) (profile : ProfileBody) (userId : Int) (revoked : Nat) :
    (Json.readWhole User.read (utf8 u.json.text) = .ok u ↔ u.Fits) ∧
      (Json.readWhole ProfileBody.read (utf8 profile.json.text) = .ok profile ↔ profile.Fits) ∧
      Json.readWhole TokenPair.read (utf8 pair.json.text) = .ok pair ∧
      Json.readWhole TokenBody.read (utf8 token.json.text) = .ok token ∧
      Json.readWhole ErrorBody.read (utf8 failure.json.text) = .ok failure ∧
      Json.readWhole ConfirmationBody.read (utf8 confirmation.json.text) = .ok confirmation ∧
      (Json.readWhole readRevoked (utf8 (revokedJson userId revoked).text) = .ok (userId, revoked) ↔
        IsInt64 userId ∧ revoked ≤ nat64High) ∧
      (Json.readWhole User.read (utf8 (ProfileBody.ofUser u).json.text) = .ok u ↔ u.Fits) := by
  refine ⟨u.readWhole_json_iff, profile.readWhole_json_iff, pair.readWhole_json,
    token.readWhole_json, failure.readWhole_json, confirmation.readWhole_json,
    readWhole_revokedJson_iff userId revoked, ?_⟩
  rw [← ProfileBody.json_user, ProfileBody.user_ofUser]
  exact u.readWhole_json_iff

end Http

end SignIn
