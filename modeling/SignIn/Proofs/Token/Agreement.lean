-- The claims that a token states are those by which it is checked: although the
-- end and the beginning are read a second time, by a reader that goes on behind
-- faults, they are the same.
import SignIn.Proofs.Json.Members
import SignIn.Proofs.Token.Reading

namespace SignIn.Token

open Json (Bytes Reader Members Named Lexer skipSpace readStringBody readColon readAny skipValue)
open Json.Lexer (Passes Falls scan Opposite IsBare passes_quote passes_comma passes_to passes_end
  plain_or_quoted)
open Text (utf8)

variable {d : Nat} {x : Lexer} {v w r : Bytes} {heads : List Bytes}

/-! ## Single members -/

/-- The claims that have a meaning of their own. -/
def registeredNames : List String := ["exp", "nbf", "sub", "iss", "aud"]

theorem attempt_value {α : Type} {read : Reader α} {value : Option α}
    (h : attempt read v = .value value r) :
    (∃ a, value = some a ∧ read v = .value a r) ∨ (value = none ∧ ∃ f, read v = .fault f r) := by
  unfold attempt at h
  cases hr : read v with
  | value a w =>
    rw [hr] at h
    cases h
    exact Or.inl ⟨a, rfl, rfl⟩
  | fault f w =>
    rw [hr] at h
    cases h
    exact Or.inr ⟨rfl, f, rfl⟩

/-- A registered claim is met as it is attempted, any other one is passed over. -/
theorem readRegistered_value {name : String} {s s' : Registered}
    (h : readRegistered name s v = .value s' r) : ∃ w, readColon v = .value () w ∧
      ((name ∈ registeredNames ∧ ∃ value, attempt (readAny depth) w = .value value r ∧
        s' = s.met name value) ∨
      (name ∉ registeredNames ∧ skipValue w = .value () r ∧ s' = s)) := by
  unfold readRegistered at h
  split at h
  · rename_i hname
    split at h
    · cases h
    · obtain ⟨_, w, hcolon, h⟩ := Reader.bind_eq_value h
      obtain ⟨value, w', hvalue, h⟩ := Reader.bind_eq_value h
      obtain ⟨rfl, rfl⟩ := Reader.pure_eq_value h
      exact ⟨w, hcolon, Or.inl ⟨hname, value, hvalue, rfl⟩⟩
  · rename_i hname
    obtain ⟨_, w, hcolon, h⟩ := Reader.bind_eq_value h
    obtain ⟨_, w', hskip, h⟩ := Reader.bind_eq_value h
    obtain ⟨rfl, rfl⟩ := Reader.pure_eq_value h
    exact ⟨w, hcolon, Or.inr ⟨hname, hskip, rfl⟩⟩

/-- Wherever a member's reader stops, it is no further out than the member. -/
theorem falls_readRegistered {name : String} {s s' : Registered}
    (h : readRegistered name s v = .value s' r) : Falls (d + 1) ⟨.plain, d + 1⟩ v r := by
  obtain ⟨w, hcolon, h⟩ := readRegistered_value h
  refine ((Json.tracks_readColon v).passes hcolon).falls ?_
  rcases h with ⟨_, value, hvalue, _⟩ | ⟨_, hskip, _⟩
  · have ht := Json.tracks_readAny (d := d) depth w
    rcases attempt_value hvalue with ⟨a, _, hr⟩ | ⟨_, f, hr⟩
    · exact (ht.passes hr).falls (.refl (Nat.le_refl _) r)
    · rw [hr] at ht
      exact ht
  · exact (Json.passes_skipValue hskip).falls (.refl (Nat.le_refl _) r)

/-! ## Names -/

/-- Letters that no JSON has outside of strings. -/
def isForeign (b : UInt8) : Bool := b == 0x78 || b == 0x62 || b == 0x69 || b == 0x64

theorem next_foreign (hx : x.IsBare) {b : UInt8} (hb : isForeign b = true) : x.next b = none := by
  simp only [isForeign, Bool.or_eq_true, beq_iff_eq] at hb
  obtain ⟨m, d⟩ := x
  cases m with
  | plain | sign => rcases hb with ((rfl | rfl) | rfl) | rfl <;> rfl
  | letters n => cases n <;> (rcases hb with ((rfl | rfl) | rfl) | rfl <;> rfl)
  | quoted | escaped | hex => exact hx.elim

/-- What is taken for a string where the lexer is outside of one has no foreign letters. -/
theorem not_foreign_of_readBytesFrom {done budget bs : Bytes} (hx : x.IsBare)
    (hs : scan x v = some heads) (hd : ∀ b ∈ done, isForeign b = false)
    (h : Json.readBytesFrom done budget v = .value bs r) : ∀ b ∈ bs, isForeign b = false := by
  induction budget generalizing done v x heads with
  | nil => cases h
  | cons _ budget ih =>
    cases v with
    | nil => cases h
    | cons b v =>
      obtain ⟨x', heads', hn, hs', _⟩ := Lexer.scan_cons_eq_some hs
      simp only [Json.readBytesFrom] at h
      by_cases hquote : b = 0x22
      · rw [if_pos hquote] at h
        cases h
        exact fun b hb => hd b (List.mem_reverse.1 hb)
      rw [if_neg hquote] at h
      by_cases hslash : b = 0x5C
      · rw [hslash, hx.next_backslash] at hn
        cases hn
      rw [if_neg hslash] at h
      split at h
      · cases h
      · refine ih (hx.next hquote hn) hs' (fun c hc => ?_) h
        rcases List.mem_cons.1 hc with rfl | hc
        · cases hf : isForeign c with
          | false => rfl
          | true =>
            rw [next_foreign hx hf] at hn
            cases hn
        · exact hd c hc

/-- The names of all registered claims have foreign letters. -/
theorem foreign_of_registered {name : String} (h : name ∈ registeredNames) :
    ∃ b ∈ utf8 name, isForeign b = true := by
  simp only [registeredNames, List.mem_cons, List.not_mem_nil, or_false] at h
  rcases h with rfl | rfl | rfl | rfl | rfl
  · exact ⟨0x78, by decide, rfl⟩
  · exact ⟨0x62, by decide, rfl⟩
  · exact ⟨0x62, by decide, rfl⟩
  · exact ⟨0x69, by decide, rfl⟩
  · exact ⟨0x64, by decide, rfl⟩

/-- A name that is read where the lexer is outside of strings is none of a registered claim. -/
theorem not_registered_of_isBare {name : String} (hx : x.IsBare) (hs : scan x v = some heads)
    (h : readStringBody v = .value name r) : name ∉ registeredNames := by
  intro hname
  obtain ⟨b, hb, hforeign⟩ := foreign_of_registered hname
  unfold readStringBody at h
  split at h
  · cases h
  · rename_i bs w hbytes
    split at h
    · rename_i s hs'
      cases h
      rw [Text.utf8_of_ofUtf8? hs'] at hb
      have hno := not_foreign_of_readBytesFrom hx hs (by simp) hbytes b hb
      rw [hforeign] at hno
      cases hno
    · cases h

/-! ## Staying in step -/

/-- A reader that is outside of strings where the lexer is inside of one, or the other way round,
never comes to the end. -/
theorem not_quoted_of_members {s s' : Registered} (h : Members readRegistered s v s' r)
    (hr : skipSpace r.tail = []) (hx : x.mode = .quoted) (hs : scan x v = some heads) : False := by
  induction h generalizing x heads with
  | @done s v w hv =>
    have hop : Opposite ⟨.plain, 2⟩ x := Or.inl ⟨trivial, hx⟩
    obtain ⟨y, heads', ⟨_, hy⟩ | ⟨hy, _⟩, hs'⟩ := hop.passes (passes_end hv hr) hs
    · rw [Lexer.eq_of_scan_nil hs'] at hy
      cases hy
    · cases hy
  | @more s s₁ s' v h q q' v₁ r name hv hh hname hm _ ih =>
    have hpass : Passes ⟨.plain, 2⟩ v ⟨.quoted, 2⟩ q := by
      refine (passes_to hv).trans ((passes_comma (by decide) h).trans ?_)
      exact (passes_to hh).trans (passes_quote q)
    have hop : Opposite ⟨.plain, 2⟩ x := Or.inl ⟨trivial, hx⟩
    obtain ⟨y, heads₁, ⟨hy, _⟩ | ⟨_, hy⟩, hs₁⟩ := hop.passes hpass hs
    · exact hy
    -- The name is read outside of strings, so that it is passed over with its value.
    have hnot := not_registered_of_isBare hy hs₁ hname
    obtain ⟨w, hcolon, ⟨hin, _⟩ | ⟨_, hskip, _⟩⟩ := readRegistered_value hm
    · exact absurd hin hnot
    have hpass₁ : Passes ⟨.quoted, 2⟩ q ⟨.plain, 2⟩ v₁ :=
      ((Json.tracks_readStringBody q).passes hname).trans
        (((Json.tracks_readColon q').passes hcolon).trans (Json.passes_skipValue hskip))
    have hop₁ : Opposite ⟨.quoted, 2⟩ y := Or.inr ⟨rfl, hy⟩
    obtain ⟨z, heads₂, ⟨_, hz⟩ | ⟨hz, _⟩, hs₂⟩ := hop₁.passes hpass₁ hs₁
    · exact ih hr hz hs₂
    · cases hz

/-- Where the reader of the registered claims stands between members that it reads to the end, the
lexer is inside the outermost bracket and nothing else. -/
theorem in_step_of_members {s s' : Registered} (h : Members readRegistered s v s' r)
    (hr : skipSpace r.tail = []) (hs : scan x v = some heads) : x = ⟨.plain, 1⟩ := by
  induction h generalizing x heads with
  | @done s v w hv =>
    rcases plain_or_quoted hv (Or.inr rfl) hs with hp | hq
    · obtain ⟨m, d⟩ := x
      obtain rfl : m = .plain := hp
      cases d with
      | zero =>
        rw [(passes_to hv).scan_eq] at hs
        cases hs
      | succ d =>
        rw [(passes_end hv hr).scan_eq] at hs
        cases Lexer.eq_of_scan_nil hs
        rfl
    · have hdone : Members readRegistered s v s (0x7D :: w) := .done hv
      exact (not_quoted_of_members hdone hr hq hs).elim
  | @more s s₁ s' v h q q' v₁ r name hv hh hname hm hrest ih =>
    rcases plain_or_quoted hv (Or.inl rfl) hs with hp | hq
    · obtain ⟨m, d⟩ := x
      obtain rfl : m = .plain := hp
      rw [(passes_to hv).scan_eq] at hs
      cases d with
      | zero => cases hs
      | succ d =>
        obtain ⟨x₁, heads₁, hn, hs₁, _⟩ := Lexer.scan_cons_eq_some hs
        cases hn
        rw [(Json.passes_name hh hname).scan_eq] at hs₁
        -- The member may end further in than it began, but then it would have to end right here.
        obtain ⟨y, heads₂, hd, hs₂, _⟩ := falls_readRegistered hm heads₁ hs₁
        have hd' : d = 0 := by
          rw [ih hr hs₂] at hd
          exact Nat.le_zero.1 (Nat.le_of_succ_le_succ hd)
        rw [hd']
    · exact (not_quoted_of_members (.more hv hh hname hm hrest) hr hq hs).elim

/-! ## What has been read -/

/-- At one of the heads a member has the name, and this number of seconds for its value. -/
def Found (heads : List Bytes) (name : String) (m : Nat) : Prop :=
  ∃ head ∈ heads, ∃ w n r, Named head name w ∧ readAny depth w = .value (.number n) r ∧
    0 ≤ n ∧ n.toNat = m

theorem secondsOf_eq_some {value : Option Json} {m : Nat} (h : secondsOf value = some m) :
    ∃ n, value = some (.number n) ∧ 0 ≤ n ∧ n.toNat = m := by
  unfold secondsOf at h
  split at h
  · rename_i n
    split at h
    · rename_i hn
      cases h
      exact ⟨n, rfl, hn, rfl⟩
    · cases h
  · cases h

/-- A number of seconds that is kept of the claim with the name. -/
def Keeps (name : String) (get : Registered → Option Nat) : Prop :=
  ∀ s met value, get (Registered.met s met value) = if met = name then secondsOf value else get s

theorem keeps_expiresAt : Keeps "exp" Registered.expiresAt := by
  intro s name value
  unfold Registered.met
  split
  · rfl
  · split
    · rfl
    · split <;> rfl

theorem keeps_notBefore : Keeps "nbf" Registered.notBefore := by
  intro s name value
  unfold Registered.met
  split
  · rename_i h
    subst h
    rfl
  · split
    · rfl
    · split <;> rfl

/-- What the registered claims say in seconds stands at a head. -/
theorem found_of_members {name : String} {get : Registered → Option Nat} (hget : Keeps name get)
    {s s' : Registered} (h : Members readRegistered s v s' r) (hr : skipSpace r.tail = [])
    (hs : scan ⟨.plain, 1⟩ v = some heads) {m : Nat} (hm : get s' = some m) :
    get s = some m ∨ Found heads name m := by
  induction h generalizing heads with
  | done => exact Or.inl hm
  | @more s s₁ s' v h q q' v₁ r met hv hh hname hread hrest ih =>
    rw [(passes_to hv).scan_eq, Lexer.scan_comma] at hs
    obtain ⟨heads₁, hs₁, rfl⟩ := Option.map_eq_some_iff.1 hs
    rw [(Json.passes_name hh hname).scan_eq] at hs₁
    obtain ⟨y, heads₂, _, hs₂, hsub⟩ := falls_readRegistered hread heads₁ hs₁
    obtain rfl := in_step_of_members hrest hr hs₂
    rcases ih hr hs₂ hm with hkept | ⟨head, hhead, hfound⟩
    · obtain ⟨w, hcolon, ⟨_, value, hvalue, rfl⟩ | ⟨_, _, rfl⟩⟩ := readRegistered_value hread
      · rw [hget] at hkept
        split at hkept
        · rename_i hmet
          obtain ⟨n, rfl, hn, hnm⟩ := secondsOf_eq_some hkept
          rcases attempt_value hvalue with ⟨a, ha, hr⟩ | ⟨ha, _⟩
          · cases ha
            rw [← hmet]
            exact Or.inr ⟨h, List.mem_cons_self, w, n, v₁, ⟨q, q', hh, hname, hcolon⟩, hr, hn, hnm⟩
          · cases ha
        · exact Or.inl hkept
      · exact Or.inl hkept
    · exact Or.inr ⟨head, List.mem_cons_of_mem h (hsub hhead), hfound⟩

/-! ## Two readings of one number -/

theorem readAnyNumber_eq_value {n : Int} (h : Json.readAnyNumber v = .value (.number n) r) :
    (∃ w, v = 0x2D :: w ∧ Json.readNumber false w = .value (.whole n) r) ∨
      ((∀ w, v ≠ 0x2D :: w) ∧ Json.readNumber true v = .value (.whole n) r) := by
  unfold Json.readAnyNumber at h
  dsimp only at h
  split at h
  · cases h
  · rename_i k w he
    cases h
    split at he
    · rename_i w'
      exact Or.inl ⟨w', rfl, he⟩
    · rename_i hne
      exact Or.inr ⟨hne, he⟩
  · cases h

/-- A number that is read as any value is read as a number. -/
theorem readAny_eq_number {n : Int} (h : readAny depth v = .value (.number n) r) :
    ∃ b w, skipSpace v = b :: w ∧ Json.readAnyNumber (b :: w) = .value (.number n) r := by
  obtain ⟨b, w, m, hv, hm, h⟩ := Json.readBy_eq_value h
  refine ⟨b, w, hv, ?_⟩
  split at hm
  · cases hm
    obtain ⟨s, w', _, h⟩ := Reader.bind_eq_value (v := w) h
    cases (Reader.pure_eq_value h).1
  iterate 3
    split at hm
    · cases hm
      obtain ⟨_, w', _, h⟩ := Reader.bind_eq_value (v := w) h
      cases (Reader.pure_eq_value h).1
  split at hm
  · cases hm
    exact h
  split at hm
  · cases hm
    obtain ⟨items, w', _, h⟩ := Reader.bind_eq_value (Reader.afterFault_eq_value (v := w) h)
    cases (Reader.pure_eq_value h).1
  split at hm
  · cases hm
    obtain ⟨members, w', _, h⟩ := Reader.bind_eq_value (Reader.afterFault_eq_value (v := w) h)
    obtain ⟨_, w'', _, h⟩ := Reader.bind_eq_value h
    cases (Reader.pure_eq_value h).1
  · cases hm

/-- A whole number that is read as such is the number that is read as any value. -/
theorem readInt_eq_readAny {low high n m : Int} {r' : Bytes}
    (h : Json.readInt low high v = .value n r) (h' : readAny depth v = .value (.number m) r') :
    n = m := by
  obtain ⟨b, w, hv, h⟩ := Json.readInt_eq_value h
  obtain ⟨b', w', hv', h'⟩ := readAny_eq_number h'
  rw [hv] at hv'
  cases hv'
  rcases readAnyNumber_eq_value h' with ⟨w', hw, hn⟩ | ⟨hne, hn⟩
  · cases hw
    rcases h with ⟨_, h⟩ | ⟨hb, _⟩
    · rw [h] at hn
      cases hn
      rfl
    · cases hb
  · rcases h with ⟨rfl, _⟩ | ⟨_, h⟩
    · exact absurd rfl (hne w)
    · rw [h] at hn
      cases hn
      rfl

/-! ## The end and the beginning -/

theorem claims_isWhole : ∀ f ∈ Claims.record, f.codec.IsWhole := by
  intro f hf
  simp only [Claims.record, List.mem_cons, List.not_mem_nil, or_false] at hf
  rcases hf with rfl | rfl | rfl | rfl | rfl | rfl | rfl | rfl
  · exact Json.Codec.int_isWhole _ _
  · exact Json.Codec.text_isWhole
  · exact Json.Codec.text_isWhole.list
  · exact Json.Codec.text_isWhole
  · exact Json.Codec.int_isWhole _ _
  · exact Json.Codec.int_isWhole _ _
  · exact Json.Codec.int_isWhole _ _
  · exact Json.Codec.text_isWhole

/-- The places of the end and of the beginning among the claims. -/
def atExpiresAt : Json.At Claims.record (Json.Field.required "exp" Json.Codec.int64) :=
  .there (by decide) <| .there (by decide) <| .there (by decide) <| .there (by decide) .here

def atNotBefore : Json.At Claims.record (Json.Field.required "nbf" Json.Codec.int64) :=
  .there (by decide) <| .there (by decide) <| .there (by decide) <| .there (by decide) <|
    .there (by decide) <| .there (by decide) .here

/-- A number of seconds that the claims state is the one that is kept of the registered claim. -/
theorem value_of_keeps {name : String} {get : Registered → Option Nat} (hget : Keeps name get)
    (p : Json.At Claims.record (Json.Field.required name Json.Codec.int64))
    {slots : Json.Slots Claims.record} {vs : Json.Values Claims.record}
    (hfill : Json.fill? Claims.record slots = some vs) {reg s : Registered} {r' : Bytes}
    (h : Members (Json.readMember Claims.record) (Json.Slots.empty Claims.record) v slots r)
    (hr : skipSpace r.tail = []) (h' : Members readRegistered s v reg r')
    (hr' : skipSpace r'.tail = []) (hs : get s = none) {m : Nat} (hm : get reg = some m) :
    p.value vs = (m : Int) := by
  obtain ⟨heads, hscan, hheads⟩ := h.heads claims_isWhole p
  obtain ⟨w, rfl⟩ := h.closed
  have hend : scan ⟨.plain, 1⟩ (0x7D :: w) = some [] := (passes_end rfl hr).scan_eq
  rw [hend, Option.map_some, List.append_nil] at hscan
  rcases found_of_members hget h' hr' hscan hm with hkept | ⟨head, hhead, hfound⟩
  · rw [hs] at hkept
    cases hkept
  · obtain ⟨w', n, r₁, hnamed, hany, hn, rfl⟩ := hfound
    obtain ⟨a, r₂, hread, hslot⟩ := hheads head hhead w' hnamed
    have hvalue := p.value_of_fill? hfill
    rw [hslot] at hvalue
    have ha : a = p.value vs := Option.some.inj hvalue
    rw [← ha, readInt_eq_readAny hread hany]
    exact (Int.toNat_of_nonneg hn).symm

/-- The end and the beginning that a token is checked by are those that its claims state. -/
theorem registered_agrees {bytes : Bytes} {c : Claims} {reg : Registered}
    (hc : Json.readWhole Claims.read bytes = .ok c)
    (hreg : Json.readWhole registered bytes = .ok reg) :
    (∀ m, reg.expiresAt = some m → c.expiresAt = m) ∧
      ∀ m, reg.notBefore = some m → c.notBefore = m := by
  obtain ⟨r₁, hc, hr₁⟩ := Json.readWhole_eq_ok hc
  obtain ⟨r₂, hreg, hr₂⟩ := Json.readWhole_eq_ok hreg
  obtain ⟨b, w, m, hv, hm, hreg⟩ := Json.readBy_eq_value hreg
  split at hm
  · rename_i hb
    subst hb
    cases hm
    obtain ⟨reg', r', hmembers', hreg⟩ := Reader.bind_eq_value (v := w) hreg
    obtain ⟨_, r'', hend', hreg⟩ := Reader.bind_eq_value hreg
    obtain ⟨rfl, rfl⟩ := Reader.pure_eq_value hreg
    obtain ⟨vs, r, hrecord, hvs⟩ := Reader.bind_eq_value hc
    obtain ⟨rfl, rfl⟩ := Reader.pure_eq_value hvs
    obtain ⟨slots, r', hfill, hmembers, hend⟩ := Json.readRecord_object hv hrecord
    rcases Json.members_of_readMembers hmembers' with rfl | h'
    · exact ⟨nofun, nofun⟩
    rcases Json.members_of_readMembers hmembers with rfl | h
    · -- Without members the claims would lack what they must have.
      have hnone := atExpiresAt.value_of_fill? hfill
      cases hnone
    obtain ⟨w₁, rfl⟩ := h.closed
    obtain ⟨w₂, rfl⟩ := h'.closed
    cases hend
    cases hend'
    exact ⟨fun m hm => value_of_keeps keeps_expiresAt atExpiresAt hfill h hr₁ h' hr₂ rfl hm,
      fun m hm => value_of_keeps keeps_notBefore atNotBefore hfill h hr₁ h' hr₂ rfl hm⟩
  · cases hm

end SignIn.Token
