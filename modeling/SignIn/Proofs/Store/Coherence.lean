-- The accounts of the store, whatever it is asked. An account stands in the
-- place that its id names and no id is given twice; emails and phones are
-- unique only among the accounts that are there, and that is enough for all
-- ways of looking an account up to agree.
import Mathlib.Data.List.Nodup
import SignIn.Proofs.Store.Owners

namespace SignIn.Store

/-- The id that is given with an answer, if it is the one to a registration. -/
def Request.gives : (q : Request) → Except StoreError q.Answer → Option Int
  | .createUser _, a =>
    match (a : Except StoreError Int) with
    | .ok id => some id
    | .error _ => none
  | _, _ => none

/-- A question to the store with the time of asking; its caller may have given up. -/
structure Inquiry where
  question : Request
  now : Time.Instant
  cancelled : Bool

namespace Memory

/-- How an inquiry is answered, and the store afterwards. -/
def respond (m : Memory) (i : Inquiry) : Except StoreError i.question.Answer × Memory :=
  if i.cancelled then (.error .cancelled, m) else m.answer i.now i.question

/-- The store after inquiries. -/
def afterAll (m : Memory) (inquiries : List Inquiry) : Memory :=
  inquiries.foldl (fun m i => (m.respond i).2) m

/-- The ids that are given in the course of inquiries, oldest first. -/
def given (m : Memory) : List Inquiry → List Int
  | [] => []
  | i :: later => (i.question.gives (m.respond i).1).toList ++ given (m.respond i).2 later

variable {m : Memory} {now : Time.Instant}

theorem afterAll_append (m : Memory) (inquiries later : List Inquiry) :
    m.afterAll (inquiries ++ later) = (m.afterAll inquiries).afterAll later :=
  List.foldl_append

/-- What every question keeps, inquiries keep. -/
theorem afterAll_keeps {P : Memory → Prop} (hP : ∀ m now q, P m → P (answer m now q).2)
    (inquiries : List Inquiry) (hm : P m) : P (m.afterAll inquiries) := by
  induction inquiries generalizing m with
  | nil => exact hm
  | cons i later ih =>
    refine ih (?_ : P (m.respond i).2)
    unfold respond
    split
    · exact hm
    · exact hP m i.now i.question hm

/-! ## Places -/

/-- Every account stands in the place that its id names, the first one under 1, and the latest id is
that of the last place. -/
structure Placed (m : Memory) : Prop where
  place : ∀ (i : Nat) r, m.rows[i]? = some r → r.user.id = i + 1
  last : m.lastUserId = m.rows.length

theorem placed_empty (roles : List (Int × List String)) (defaultRole : Option Int) :
    (empty roles defaultRole).Placed where
  place _ _ h := absurd (List.mem_of_getElem? h) List.not_mem_nil
  last := rfl

theorem Placed.answer (h : m.Placed) (now : Time.Instant) (q : Request) :
    (m.answer now q).2.Placed := by
  by_cases hs : SparesAccounts q
  · have hsame := hs.same m now
    refine ⟨?_, ?_⟩
    · rw [hsame.rows]
      exact h.place
    · rw [hsame.rows, hsame.last]
      exact h.last
  · cases q with
    | createUser new =>
      change (m.createUser now new).2.Placed
      unfold createUser
      split
      · exact h
      · refine ⟨fun i r hr => ?_, ?_⟩
        · dsimp only at hr
          rw [List.getElem?_append] at hr
          split at hr
          · exact h.place i r hr
          · -- Behind the others there is one place only.
            rw [List.getElem?_singleton] at hr
            split at hr
            · cases hr
              have hlast := h.last
              change m.lastUserId + 1 = i + 1
              omega
            · cases hr
        · dsimp only
          rw [List.length_append, List.length_singleton, h.last]
          rfl
    | softDelete id =>
      rcases softDelete_eq m now id with he | he
      · change (m.softDelete now id).2.Placed
        rw [he]
        refine ⟨fun i r hr => ?_, ?_⟩
        · dsimp only at hr
          rw [List.getElem?_map] at hr
          obtain ⟨t, ht, rfl⟩ := Option.map_eq_some_iff.1 hr
          rw [(markedRow_user now id t).1]
          exact h.place i t ht
        · dsimp only
          rw [List.length_map]
          exact h.last
      · change (m.softDelete now id).2.Placed
        rw [he]
        exact h
    | _ => exact absurd trivial hs

/-! ## Ids -/

/-- The ids of the accounts, deleted or not. -/
def ids (m : Memory) : List Int := m.rows.map fun r => r.user.id

/-- An id is given exactly when an account is added. -/
theorem ids_answer (m : Memory) (now : Time.Instant) (q : Request) :
    (m.answer now q).2.ids = m.ids ++ (q.gives (m.answer now q).1).toList := by
  by_cases hs : SparesAccounts q
  · have hnone : q.gives (m.answer now q).1 = none := by
      cases q with
      | createUser new => exact hs.elim
      | _ => rfl
    unfold ids
    rw [(hs.same m now).rows, hnone, Option.toList_none, List.append_nil]
  · cases q with
    | createUser new =>
      change (m.createUser now new).2.ids =
        m.ids ++ ((Request.createUser new).gives (m.createUser now new).1).toList
      unfold createUser
      split
      · exact (List.append_nil _).symm
      · exact List.map_append
    | softDelete id =>
      change (m.softDelete now id).2.ids = m.ids ++ []
      rw [List.append_nil]
      unfold ids
      rcases softDelete_eq m now id with he | he
      · rw [he]
        dsimp only
        rw [List.map_map]
        exact List.map_congr_left fun r _ => (markedRow_user now id r).1
      · rw [he]
    | _ => exact absurd trivial hs

/-- The ids that are given are those of the accounts that are added, in order. -/
theorem ids_afterAll (m : Memory) (inquiries : List Inquiry) :
    (m.afterAll inquiries).ids = m.ids ++ m.given inquiries := by
  induction inquiries generalizing m with
  | nil => exact (List.append_nil _).symm
  | cons i later ih =>
    have hstep : (m.respond i).2.ids =
        m.ids ++ (i.question.gives (m.respond i).1).toList := by
      unfold respond
      split
      · have hnone : i.question.gives (.error .cancelled) = none := by
          cases i.question <;> rfl
        rw [hnone, Option.toList_none, List.append_nil]
      · exact ids_answer m i.now i.question
    refine (ih (m.respond i).2).trans ?_
    rw [hstep, List.append_assoc]
    rfl

/-! ## Looking accounts up -/

/-- Where at most one element passes, it is found in every order. -/
theorem find?_perm {α : Type} {l l' : List α} {p : α → Bool} (hp : l'.Perm l)
    (hone : ∀ a ∈ l, ∀ b ∈ l, p a = true → p b = true → a = b) : l'.find? p = l.find? p := by
  cases hf : l.find? p with
  | none =>
    rw [List.find?_eq_none] at hf ⊢
    exact fun a ha => hf a (hp.subset ha)
  | some a =>
    have hmem := List.mem_of_find?_eq_some hf
    have hpass := List.find?_some hf
    cases hf' : l'.find? p with
    | none => exact absurd hpass (List.find?_eq_none.1 hf' a (hp.symm.subset hmem))
    | some b =>
      have hmem' := hp.subset (List.mem_of_find?_eq_some hf')
      rw [hone b hmem' a hmem (List.find?_some hf') hpass]

/-- Where at most one element passes, there is at most one candidate. -/
theorem length_filter_le_one {α : Type} {l : List α} {p : α → Bool} (hn : l.Nodup)
    (hone : ∀ a ∈ l, ∀ b ∈ l, p a = true → p b = true → a = b) : (l.filter p).length ≤ 1 := by
  cases hf : l.filter p with
  | nil => exact Nat.zero_le _
  | cons a rest =>
    have hall : l.filter p ⊆ [a] := by
      intro b hb
      have ha : a ∈ l.filter p := by rw [hf]; exact .head _
      rw [List.mem_filter] at ha hb
      exact List.mem_singleton.2 (hone b hb.1 a ha.1 hb.2 ha.2)
    have hle := (hn.filter p).length_le_of_subset hall
    rw [hf] at hle
    exact hle

theorem Numbered.nodup_liveRows (h : m.Numbered) : m.liveRows.Nodup := by
  refine List.Nodup.filter _ (h.sorted.imp fun {r t} hrt => ?_)
  rintro rfl
  exact absurd hrt (Int.lt_irrefl _)

/-- How the ways of looking an account up agree. -/
structure LookupsAgree (m : Memory) : Prop where
  /-- At most one account can be meant by an email, and by a phone. -/
  oneEmail : ∀ email, (m.liveRows.filter fun r => r.user.email == email).length ≤ 1
  onePhone : ∀ phone, (m.liveRows.filter fun r => r.user.phone == phone).length ≤ 1
  /-- The order that the accounts are gone through in does not matter. -/
  anyOrder : ∀ rows, rows.Perm m.rows →
    (∀ email, findCredentials { m with rows } email = m.findCredentials email) ∧
    ∀ phone, findByPhone { m with rows } phone = m.findByPhone phone
  /-- An email is reported as known exactly if somebody is found by it. -/
  known : ∀ email, m.emailExists email = (m.findCredentials email).isSome
  /-- Who is found by email or phone has it, and is found by id with the same data. -/
  byEmail : ∀ email c, m.findCredentials email = some c → ∃ r ∈ m.liveRows,
    c = ⟨r.user.id, r.user.email, r.passwordHash⟩ ∧ c.email = email ∧ m.findUser c.id = some r.user
  byPhone : ∀ phone user, m.findByPhone phone = some user →
    user.phone = phone ∧ m.findUser user.id = some user

theorem emailExists_eq_isSome (m : Memory) (email : String) :
    m.emailExists email = (m.findCredentials email).isSome := by
  unfold findCredentials
  rw [Option.isSome_map, List.isSome_find?]
  rfl

theorem Apart.one_email (h : m.Apart) (email : String) :
    ∀ r ∈ m.liveRows, ∀ t ∈ m.liveRows, (r.user.email == email) = true →
      (t.user.email == email) = true → r = t :=
  fun r hr t ht her het => h r hr t ht (Or.inl ((eq_of_beq her).trans (eq_of_beq het).symm))

theorem Apart.one_phone (h : m.Apart) (phone : String) :
    ∀ r ∈ m.liveRows, ∀ t ∈ m.liveRows, (r.user.phone == phone) = true →
      (t.user.phone == phone) = true → r = t :=
  fun r hr t ht her het => h r hr t ht (Or.inr ((eq_of_beq her).trans (eq_of_beq het).symm))

/-- Who is there is found by the email. -/
theorem Apart.findCredentials_of_mem (h : m.Apart) {r : Row} (hr : r ∈ m.liveRows) :
    m.findCredentials r.user.email = some ⟨r.user.id, r.user.email, r.passwordHash⟩ := by
  unfold findCredentials
  cases hf : m.liveRows.find? fun t => t.user.email == r.user.email with
  | none => exact absurd (List.find?_eq_none.1 hf r hr) (not_not.2 (beq_self_eq_true _))
  | some t =>
    have he : (t.user.email == r.user.email) = true := by simpa using List.find?_some hf
    rw [h.one_email r.user.email t (List.mem_of_find?_eq_some hf) r hr he (beq_self_eq_true _)]
    rfl

/-- Where no two accounts that are there share an email or a phone, the lookups agree. -/
theorem Apart.lookupsAgree (h : m.Apart) (hn : m.Numbered) : m.LookupsAgree where
  oneEmail email := length_filter_le_one hn.nodup_liveRows (h.one_email email)
  onePhone phone := length_filter_le_one hn.nodup_liveRows (h.one_phone phone)
  anyOrder rows hp := by
    have hlive : (liveRows { m with rows }).Perm m.liveRows := hp.filter _
    refine ⟨fun email => ?_, fun phone => ?_⟩
    · exact congrArg (Option.map _) (find?_perm hlive (h.one_email email))
    · exact congrArg (Option.map _) (find?_perm hlive (h.one_phone phone))
  known email := m.emailExists_eq_isSome email
  byEmail email c hc := by
    obtain ⟨r, hr, rfl⟩ := Option.map_eq_some_iff.1 hc
    have hmem := List.mem_of_find?_eq_some hr
    exact ⟨r, hmem, rfl, by simpa using List.find?_some hr, hn.findUser_of_mem hmem⟩
  byPhone phone user hu := by
    obtain ⟨r, hr, rfl, hphone⟩ := owns_of_findByPhone hu
    exact ⟨hphone, hn.findUser_of_mem hr⟩

/-! ## Stores that begin empty -/

section

variable (roles : List (Int × List String)) (defaultRole : Option Int) (inquiries : List Inquiry)

theorem numbered_afterAll : ((empty roles defaultRole).afterAll inquiries).Numbered :=
  afterAll_keeps (P := Numbered) (fun _ now q h => h.answer now q) inquiries
    (numbered_empty roles defaultRole)

theorem placed_afterAll : ((empty roles defaultRole).afterAll inquiries).Placed :=
  afterAll_keeps (P := Placed) (fun _ now q h => h.answer now q) inquiries
    (placed_empty roles defaultRole)

theorem apart_afterAll : ((empty roles defaultRole).afterAll inquiries).Apart :=
  afterAll_keeps (P := Apart) (fun _ now q h => h.answer now q) inquiries
    (apart_empty roles defaultRole)

theorem lookupsAgree_afterAll : ((empty roles defaultRole).afterAll inquiries).LookupsAgree :=
  (apart_afterAll roles defaultRole inquiries).lookupsAgree
    (numbered_afterAll roles defaultRole inquiries)

end

/-- **The store of accounts is coherent**, whatever it is asked. Every account stands under its own
id; the ids that have been given grow up to the latest one, so none is given again; no two accounts
that are there share an email or a phone; and so all ways of looking an account up agree. -/
theorem accounts_are_coherent (roles : List (Int × List String)) (defaultRole : Option Int)
    (inquiries : List Inquiry) :
    let m := (empty roles defaultRole).afterAll inquiries
    let given := (empty roles defaultRole).given inquiries
    (∀ (i : Nat) r, m.rows[i]? = some r → r.user.id = i + 1) ∧
    m.ids = given ∧ given.Pairwise (· < ·) ∧ (∀ id ∈ given, id ≤ m.lastUserId) ∧
    m.Apart ∧ m.LookupsAgree := by
  intro m given
  have hnumbered : m.Numbered := numbered_afterAll roles defaultRole inquiries
  have hids : m.ids = given := ids_afterAll (empty roles defaultRole) inquiries
  refine ⟨(placed_afterAll roles defaultRole inquiries).place, hids, ?_, fun id hid => ?_,
    apart_afterAll roles defaultRole inquiries, lookupsAgree_afterAll roles defaultRole inquiries⟩
  · rw [← hids]
    exact List.pairwise_map.2 hnumbered.sorted
  · rw [← hids] at hid
    obtain ⟨r, hr, rfl⟩ := List.mem_map.1 hid
    exact hnumbered.le_last r hr

end Memory

end SignIn.Store
