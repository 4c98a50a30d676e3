-- Where the members of an object stand: a record is read from members that the
-- lexer finds behind its heads, and whatever stands at a head with the name of a
-- field is the value of the field.
import SignIn.Json.Record
import SignIn.Proofs.Json.Passing

namespace SignIn.Json

open Lexer (Passes scan passes_quote passes_minus passes_open passes_to)

variable {α β σ : Type} {d : Nat} {v w r : Bytes}

/-! ## Readers that yield a value -/

theorem Reader.bind_eq_value {m : Reader α} {f : α → Reader β} {b : β}
    (h : (m >>= f) v = .value b r) : ∃ a w, m v = .value a w ∧ f a w = .value b r := by
  cases hm : m v with
  | value a w =>
    rw [Reader.bind_of_value f hm] at h
    exact ⟨a, w, rfl, h⟩
  | fault e w =>
    rw [Reader.bind_of_fault f hm] at h
    cases h

theorem Reader.pure_eq_value {a b : α} (h : (pure a : Reader α) v = .value b r) :
    a = b ∧ v = r := by
  cases h
  exact ⟨rfl, rfl⟩

theorem Reader.afterFault_eq_value {skip : Bytes → Bytes} {m : Reader α} {a : α}
    (h : Reader.afterFault skip m v = .value a r) : m v = .value a r := by
  unfold Reader.afterFault at h
  split at h
  · rename_i hm
    cases h
    exact hm
  · cases h

/-- A value is read by the reader for its first byte. -/
theorem readBy_eq_value {reader : UInt8 → Option (Reader α)} {a : α}
    (h : readBy reader v = .value a r) :
    ∃ b w m, skipSpace v = b :: w ∧ reader b = some m ∧ m (b :: w) = .value a r := by
  unfold readBy at h
  rw [peek_bind] at h
  generalize hw : skipSpace v = w at h
  cases w with
  | nil => cases h
  | cons b w =>
    dsimp only [List.head?_cons] at h
    cases hb : reader b with
    | some m =>
      rw [hb] at h
      exact ⟨b, w, m, rfl, hb, h⟩
    | none =>
      rw [hb] at h
      obtain ⟨impossible, _⟩ := Reader.bind_eq_value h
      cases impossible

theorem readWhole_eq_ok {read : Reader α} {bytes : Bytes} {a : α}
    (h : readWhole read bytes = .ok a) :
    ∃ r, read bytes = .value a r ∧ skipSpace r = [] := by
  unfold readWhole at h
  split at h
  · cases h
  · rename_i b r hr
    split at h
    · rename_i he
      cases h
      exact ⟨r, hr, List.isEmpty_iff.1 he⟩
    · cases h

/-! ## Members -/

/-- Members are read one after the other, each behind a comma, up to the bracket. -/
inductive Members (member : String → σ → Reader σ) : σ → Bytes → σ → Bytes → Prop
  | done {s : σ} {v w : Bytes} (hv : skipSpace v = 0x7D :: w) : Members member s v s (0x7D :: w)
  | more {s s₁ s' : σ} {v h q q' v₁ r : Bytes} {name : String} (hv : skipSpace v = 0x2C :: h)
    (hh : skipSpace h = 0x22 :: q) (hname : readStringBody q = .value name q')
    (hm : member name s q' = .value s₁ v₁) (hrest : Members member s₁ v₁ s' r) :
    Members member s v s' r

theorem members_of_readMembersFrom {member : String → σ → Reader σ} {s s' : σ} {budget : Bytes}
    (h : readMembersFrom member false s budget v = .value s' r) : Members member s v s' r := by
  induction budget generalizing s v with
  | nil => cases h
  | cons _ budget ih =>
    unfold readMembersFrom at h
    obtain ⟨more, w, hnext, h⟩ := Reader.bind_eq_value h
    obtain ⟨rfl, rfl, w', hw⟩ | ⟨rfl, ⟨w', rfl⟩, w, hcomma, hq⟩ := nextMember_value hnext
    · cases h
      rw [hw]
      exact .done hw
    · obtain ⟨name, q', hname, h⟩ := Reader.bind_eq_value (v := w') h
      obtain ⟨s₁, v₁, hm, h⟩ := Reader.bind_eq_value h
      exact .more hcomma hq.symm hname hm (ih h)

/-- The members of an object are read as if a comma stood before the first one. -/
theorem members_of_readMembers {member : String → σ → Reader σ} {s s' : σ}
    (h : readMembers member s v = .value s' r) :
    s' = s ∨ Members member s (0x2C :: v) s' r := by
  unfold readMembers readMembersFrom at h
  obtain ⟨more, w, hnext, h⟩ := Reader.bind_eq_value h
  obtain ⟨rfl, rfl, w', hw⟩ | ⟨rfl, ⟨w', rfl⟩, hq⟩ := nextMember_value hnext
  · exact Or.inl (Reader.pure_eq_value h).1.symm
  · obtain ⟨name, q', hname, h⟩ := Reader.bind_eq_value (v := w') h
    obtain ⟨s₁, v₁, hm, h⟩ := Reader.bind_eq_value h
    exact Or.inr (.more (h := v) rfl hq.symm hname hm (members_of_readMembersFrom h))

/-- Behind a head stands a member with the name, and its value there. -/
def Named (head : Bytes) (name : String) (v : Bytes) : Prop :=
  ∃ q q', skipSpace head = 0x22 :: q ∧ readStringBody q = .value name q' ∧
    readColon q' = .value () v

theorem Members.closed {member : String → σ → Reader σ} {s s' : σ}
    (h : Members member s v s' r) : ∃ w, r = 0x7D :: w := by
  induction h with
  | done => exact ⟨_, rfl⟩
  | more _ _ _ _ _ ih => exact ih

/-! ## Codecs -/

/-- What is read is one whole token or bracket. -/
def Codec.IsWhole (c : Codec α) : Prop :=
  ∀ d v a r, c.read v = .value a r → Passes ⟨.plain, d + 1⟩ v ⟨.plain, d + 1⟩ r

theorem Codec.text_isWhole : Codec.text.IsWhole := by
  intro d v a r h
  obtain ⟨b, w, m, hv, hm, h⟩ := readBy_eq_value h
  refine (passes_to hv).trans ?_
  split at hm
  · rename_i hb
    cases hm
    subst hb
    exact (passes_quote w).trans ((tracks_readStringBody w).passes h)
  · cases hm

theorem wholeWithin_eq_value {low high n : Int} {number : Number}
    (h : wholeWithin low high number v = .value n r) : number = .whole n ∧ v = r := by
  unfold wholeWithin at h
  split at h
  · split at h
    · cases h
      exact ⟨rfl, rfl⟩
    · cases h
  · cases h

/-- A whole number is read behind its sign, or with its first digit. -/
theorem readInt_eq_value {low high n : Int} (h : readInt low high v = .value n r) :
    ∃ b w, skipSpace v = b :: w ∧
      (b = 0x2D ∧ readNumber false w = .value (.whole n) r ∨
        isDigit b = true ∧ readNumber true (b :: w) = .value (.whole n) r) := by
  obtain ⟨b, w, m, hv, hm, h⟩ := readBy_eq_value h
  refine ⟨b, w, hv, ?_⟩
  split at hm
  · rename_i hb
    cases hm
    obtain ⟨number, r', hnumber, h⟩ := Reader.bind_eq_value (v := w) h
    obtain ⟨rfl, rfl⟩ := wholeWithin_eq_value h
    exact Or.inl ⟨hb, hnumber⟩
  split at hm
  · rename_i hb
    cases hm
    obtain ⟨number, r', hnumber, h⟩ := Reader.bind_eq_value h
    obtain ⟨rfl, rfl⟩ := wholeWithin_eq_value h
    exact Or.inr ⟨hb, hnumber⟩
  · cases hm

theorem Codec.int_isWhole (low high : Int) : (Codec.int low high).IsWhole := by
  intro d v a r h
  obtain ⟨b, w, hv, ⟨rfl, h⟩ | ⟨hb, h⟩⟩ := readInt_eq_value h
  · exact (passes_to hv).trans ((passes_minus w).trans ((tracks_readNumber_sign w).passes h))
  · exact (passes_to hv).trans ((tracks_readNumber true hb w).passes h)

theorem Codec.IsWhole.readItemsFrom {c : Codec α} (hc : c.IsWhole) {first : Bool} {done as : List α}
    {budget : Bytes} (h : Json.readItemsFrom c.read first done budget v = .value as r) :
    Passes ⟨.plain, d + 2⟩ v ⟨.plain, d + 1⟩ r := by
  induction budget generalizing first done v with
  | nil => cases h
  | cons _ budget ih =>
    unfold Json.readItemsFrom at h
    obtain ⟨more, w, hnext, h⟩ := Reader.bind_eq_value h
    refine ((tracks_nextItem first v).passes hnext).trans ?_
    cases more with
    | true =>
      obtain ⟨a, w', ha, h⟩ := Reader.bind_eq_value h
      exact (hc (d + 1) w a w' ha).trans (ih h)
    | false =>
      obtain ⟨_, w', hend, h⟩ := Reader.bind_eq_value h
      obtain ⟨_, rfl⟩ := Reader.pure_eq_value h
      exact (tracks_endItems w).passes hend

theorem Codec.IsWhole.list {c : Codec α} (hc : c.IsWhole) : c.list.IsWhole := by
  intro d v as r h
  obtain ⟨b, w, m, hv, hm, h⟩ := readBy_eq_value h
  refine (passes_to hv).trans ?_
  split at hm
  · rename_i hb
    cases hm
    subst hb
    exact (passes_open (Or.inl rfl) w).trans (hc.readItemsFrom h)
  · cases hm

/-! ## Fields -/

/-- A field of a record, found by its name. -/
inductive At : Record → Field → Type 1
  | here {f : Field} {fs : Record} : At (f :: fs) f
  | there {f g : Field} {fs : Record} (hne : f.name ≠ g.name) (p : At fs f) : At (g :: fs) f

/-- What has been read for the field. -/
def At.slot {f : Field} : {fs : Record} → At fs f → Slots fs → Option f.Value
  | _, .here, (slot, _) => slot
  | _, .there _ p, (_, slots) => p.slot slots

/-- The value of the field. -/
def At.value {f : Field} : {fs : Record} → At fs f → Values fs → f.Value
  | _, .here, (v, _) => v
  | _, .there _ p, (_, vs) => p.value vs

variable {f : Field} {fs : Record}

theorem At.value_of_fill? (p : At fs f) {s : Slots fs} {vs : Values fs}
    (h : fill? fs s = some vs) : (p.slot s).or f.absent = some (p.value vs) := by
  induction p with
  | here =>
    obtain ⟨slot, slots⟩ := s
    obtain ⟨v, hv, h⟩ := Option.bind_eq_some_iff.1 h
    obtain ⟨vs', _, h⟩ := Option.bind_eq_some_iff.1 h
    cases h
    exact hv
  | there hne p ih =>
    obtain ⟨slot, slots⟩ := s
    obtain ⟨v, _, h⟩ := Option.bind_eq_some_iff.1 h
    obtain ⟨vs', hvs, h⟩ := Option.bind_eq_some_iff.1 h
    cases h
    exact ih hvs

theorem readMember_passes (hfs : ∀ g ∈ fs, g.codec.IsWhole) {name : String} {s s' : Slots fs}
    (h : readMember fs name s v = .value s' r) : Passes ⟨.plain, 1⟩ v ⟨.plain, 1⟩ r := by
  induction fs with
  | nil =>
    obtain ⟨_, w, hcolon, h⟩ := Reader.bind_eq_value h
    obtain ⟨_, w', hskip, h⟩ := Reader.bind_eq_value h
    obtain ⟨_, rfl⟩ := Reader.pure_eq_value h
    exact ((tracks_readColon v).passes hcolon).trans (passes_skipValue hskip)
  | cons f fs ih =>
    obtain ⟨slot, slots⟩ := s
    rw [readMember] at h
    split at h
    · split at h
      · cases h
      · obtain ⟨_, w, hcolon, h⟩ := Reader.bind_eq_value h
        obtain ⟨a, w', hread, h⟩ := Reader.bind_eq_value h
        obtain ⟨_, rfl⟩ := Reader.pure_eq_value h
        exact ((tracks_readColon v).passes hcolon).trans (hfs f List.mem_cons_self 0 _ _ _ hread)
    · obtain ⟨slots', w, hread, h⟩ := Reader.bind_eq_value h
      obtain ⟨_, rfl⟩ := Reader.pure_eq_value h
      exact ih (fun g hg => hfs g (List.mem_cons_of_mem f hg)) hread

/-- A member with the name of a field fills its slot, which has been empty. -/
theorem At.readMember_name (p : At fs f) {s s' : Slots fs}
    (h : readMember fs f.name s v = .value s' r) :
    p.slot s = none ∧ ∃ w a, readColon v = .value () w ∧ f.codec.read w = .value a r ∧
      p.slot s' = some a := by
  induction p with
  | here =>
    obtain ⟨slot, slots⟩ := s
    rw [readMember] at h
    rw [if_pos rfl] at h
    split at h
    · cases h
    · rename_i hslot
      obtain ⟨_, w, hcolon, h⟩ := Reader.bind_eq_value h
      obtain ⟨a, w', hread, h⟩ := Reader.bind_eq_value h
      obtain ⟨rfl, rfl⟩ := Reader.pure_eq_value h
      exact ⟨Option.not_isSome_iff_eq_none.1 hslot, w, a, hcolon, hread, rfl⟩
  | there hne p ih =>
    obtain ⟨slot, slots⟩ := s
    rw [readMember] at h
    rw [if_neg hne] at h
    obtain ⟨slots', w, hread, h⟩ := Reader.bind_eq_value h
    obtain ⟨rfl, rfl⟩ := Reader.pure_eq_value h
    exact ih hread

/-- A member with another name leaves the slot as it is. -/
theorem At.readMember_ne (p : At fs f) {name : String} (hn : name ≠ f.name) {s s' : Slots fs}
    (h : readMember fs name s v = .value s' r) : p.slot s' = p.slot s := by
  induction p with
  | here =>
    obtain ⟨slot, slots⟩ := s
    rw [readMember] at h
    rw [if_neg hn] at h
    obtain ⟨slots', w, _, h⟩ := Reader.bind_eq_value h
    obtain ⟨rfl, rfl⟩ := Reader.pure_eq_value h
    rfl
  | there hne p ih =>
    obtain ⟨slot, slots⟩ := s
    rw [readMember] at h
    split at h
    · split at h
      · cases h
      · obtain ⟨_, w, _, h⟩ := Reader.bind_eq_value h
        obtain ⟨a, w', _, h⟩ := Reader.bind_eq_value h
        obtain ⟨rfl, rfl⟩ := Reader.pure_eq_value h
        rfl
    · obtain ⟨slots', w, hread, h⟩ := Reader.bind_eq_value h
      obtain ⟨rfl, rfl⟩ := Reader.pure_eq_value h
      exact ih hn hread

/-! ## Records -/

/-- A slot that is filled stays so. -/
theorem Members.slot_of_some (p : At fs f) {s s' : Slots fs} (h : Members (readMember fs) s v s' r)
    {a : f.Value} (ha : p.slot s = some a) : p.slot s' = some a := by
  induction h with
  | done => exact ha
  | @more s s₁ _ _ _ _ _ _ _ name _ _ _ hm _ ih =>
    refine ih ?_
    by_cases hn : name = f.name
    · subst hn
      have hnone := (p.readMember_name hm).1
      rw [ha] at hnone
      cases hnone
    · rw [p.readMember_ne hn hm, ha]

theorem passes_name {h q q' : Bytes} {name : String} (hh : skipSpace h = 0x22 :: q)
    (hname : readStringBody q = .value name q') : Passes ⟨.plain, d⟩ h ⟨.plain, d⟩ q' :=
  (passes_to hh).trans ((passes_quote q).trans ((tracks_readStringBody q).passes hname))

/-- Behind a comma stands a head, and behind the head's member the lexer is where it was. -/
theorem scan_member {h q q' v₁ : Bytes} {name : String} (hv : skipSpace v = 0x2C :: h)
    (hh : skipSpace h = 0x22 :: q) (hname : readStringBody q = .value name q')
    (hm : Passes ⟨.plain, 1⟩ q' ⟨.plain, 1⟩ v₁) :
    scan ⟨.plain, 1⟩ v = (scan ⟨.plain, 1⟩ v₁).map (h :: ·) := by
  have hpass : Passes ⟨.plain, 1⟩ h ⟨.plain, 1⟩ v₁ := (passes_name hh hname).trans hm
  rw [(passes_to hv).scan_eq, Lexer.scan_comma, hpass.scan_eq]

/-- The members of a record stand at the heads that the lexer finds, and a member with the name of a
field is the field's value. -/
theorem Members.heads (hfs : ∀ g ∈ fs, g.codec.IsWhole) (p : At fs f) {s s' : Slots fs}
    (h : Members (readMember fs) s v s' r) : ∃ heads : List Bytes,
      scan ⟨.plain, 1⟩ v = (scan ⟨.plain, 1⟩ r).map (heads ++ ·) ∧
      ∀ head ∈ heads, ∀ w, Named head f.name w → ∃ a r', f.codec.read w = .value a r' ∧
        p.slot s' = some a := by
  induction h with
  | @done s v w hv =>
    refine ⟨[], ?_, nofun⟩
    rw [(passes_to hv).scan_eq]
    simp
  | @more s s₁ s' v h q q' v₁ r name hv hh hname hm hrest ih =>
    obtain ⟨heads, hscan, hheads⟩ := ih
    refine ⟨h :: heads, ?_, fun head hhead w hnamed => ?_⟩
    · rw [scan_member hv hh hname (readMember_passes hfs hm), hscan, Option.map_map]
      rfl
    · rcases List.mem_cons.1 hhead with rfl | hhead
      · obtain ⟨p₁, p₂, hp₁, hp₂, hcolon⟩ := hnamed
        rw [hh] at hp₁
        cases hp₁
        rw [hname] at hp₂
        cases hp₂
        obtain ⟨_, w', a, hcolon', hread, hslot⟩ := p.readMember_name hm
        rw [hcolon] at hcolon'
        cases hcolon'
        exact ⟨a, v₁, hread, hrest.slot_of_some p hslot⟩
      · exact hheads head hhead w hnamed

/-- A record that is read from an object is read from its members. -/
theorem readRecord_object {vs : Values fs} (hv : skipSpace v = 0x7B :: w)
    (h : readRecord fs v = .value vs r) : ∃ slots r', fill? fs slots = some vs ∧
      readMembers (readMember fs) (Slots.empty fs) w = .value slots r' ∧
      endMembers r' = .value () r := by
  obtain ⟨b, w', m, hw, hm, h⟩ := readBy_eq_value h
  rw [hv] at hw
  cases hw
  rw [if_pos rfl] at hm
  cases hm
  obtain ⟨slots, r', hmembers, h⟩ := Reader.bind_eq_value (v := w) h
  cases hfill : fill? fs slots with
  | none =>
    rw [hfill] at h
    cases h
  | some vs' =>
    rw [hfill] at h
    obtain ⟨_, w'', hend, h⟩ := Reader.bind_eq_value h
    obtain ⟨rfl, rfl⟩ := Reader.pure_eq_value h
    exact ⟨slots, r', hfill, hmembers, hend⟩

end SignIn.Json
