-- Records read back: the members of an object that has been written are read
-- in their order, and a record is read as the values that it was written with.
import SignIn.Json.Record
import SignIn.Proofs.Json.Strings

namespace SignIn.Json

open Text (utf8)

/-! ## Punctuation -/

theorem skipByte_cons (b : UInt8) (rest : Bytes) : skipByte (b :: rest) = .value () rest := rfl

theorem readColon_colon (rest : Bytes) : readColon (0x3A :: rest) = .value () rest := rfl

theorem nextItem_bracket (first : Bool) (rest : Bytes) :
    nextItem first (0x5D :: rest) = .value false (0x5D :: rest) := rfl

theorem nextMember_brace (first : Bool) (rest : Bytes) :
    nextMember first (0x7D :: rest) = .value false (0x7D :: rest) := rfl

theorem ends_comma (rest : Bytes) : Ends (0x2C :: rest) := ⟨_, _, rfl, Or.inl rfl⟩

theorem ends_brace (rest : Bytes) : Ends (0x7D :: rest) := ⟨_, _, rfl, Or.inr (Or.inr rfl)⟩

/-! ## Lists of texts -/

/-- The bytes of texts that are items of an array, each behind a comma. -/
def moreTexts (xs : List String) : Bytes := xs.flatMap fun x => 0x2C :: utf8 (quote x)

theorem utf8_itemsText (x : String) (xs : List String) :
    utf8 (itemsText ((x :: xs).map .string)) = utf8 (quote x) ++ moreTexts xs := by
  induction xs generalizing x with
  | nil => simp [itemsText, text, moreTexts]
  | cons y ys ih =>
    rw [List.map_cons, List.map_cons, itemsText, ← List.map_cons, Text.utf8_append,
      Text.utf8_append, ih]
    simp only [moreTexts, List.flatMap_cons, text, List.append_assoc]
    rfl

theorem length_le_moreTexts (xs : List String) : xs.length ≤ (moreTexts xs).length := by
  induction xs with
  | nil => exact Nat.le_refl _
  | cons x xs ih =>
    unfold moreTexts at ih ⊢
    simp only [List.flatMap_cons, List.length_append, List.length_cons]
    omega

theorem nextItem_quote (x : String) (rest : Bytes) :
    nextItem true (utf8 (quote x) ++ rest) = .value true (utf8 (quote x) ++ rest) ∧
      nextItem false (0x2C :: (utf8 (quote x) ++ rest)) = .value true (utf8 (quote x) ++ rest) := by
  rw [utf8_quote]
  exact ⟨rfl, rfl⟩

theorem readItemsFrom_moreTexts (xs done : List String) (budget rest : Bytes)
    (hl : xs.length < budget.length) :
    readItemsFrom readText false done budget (moreTexts xs ++ 0x5D :: rest) =
      .value (done.reverse ++ xs) rest := by
  induction xs generalizing done budget with
  | nil =>
    cases budget with
    | nil => simp at hl
    | cons b budget =>
      rw [moreTexts, List.flatMap_nil, List.nil_append, List.append_nil, readItemsFrom,
        Reader.bind_of_value _ (nextItem_bracket false rest)]
      rfl
  | cons x xs ih =>
    cases budget with
    | nil => simp at hl
    | cons b budget =>
      have he : moreTexts (x :: xs) ++ 0x5D :: rest =
          0x2C :: (utf8 (quote x) ++ (moreTexts xs ++ 0x5D :: rest)) := by
        simp only [moreTexts, List.flatMap_cons, List.cons_append, List.append_assoc]
      rw [he, readItemsFrom, Reader.bind_of_value _ (nextItem_quote x _).2, if_pos rfl,
        Reader.bind_of_value _ (readText_quote x _),
        ih _ _ (by simp only [List.length_cons] at hl; omega)]
      simp only [List.reverse_cons, List.append_assoc, List.singleton_append]

theorem readItems_texts (xs : List String) (rest : Bytes) :
    readItems readText (utf8 (itemsText (xs.map .string)) ++ 0x5D :: rest) = .value xs rest := by
  unfold readItems
  cases xs with
  | nil => rfl
  | cons x xs =>
    have hlen := length_le_moreTexts xs
    rw [utf8_itemsText, List.append_assoc, readItemsFrom,
      Reader.bind_of_value _ (nextItem_quote x _).1, if_pos rfl,
      Reader.bind_of_value _ (readText_quote x _), readItemsFrom_moreTexts]
    · rfl
    · simp only [List.length_append, List.length_cons]
      omega

theorem utf8_array (items : List Json) :
    utf8 (text (.array items)) = 0x5B :: (utf8 (itemsText items) ++ [0x5D]) := by
  rw [text, Text.utf8_append, Text.utf8_append, List.append_assoc]
  rfl

/-- A list of texts is read back. -/
theorem readList_texts (xs : List String) (rest : Bytes) :
    readList readText (utf8 (text (.array (xs.map .string))) ++ rest) = .value xs rest := by
  have hread : ∀ bytes, readList readText (0x5B :: bytes) = readItems readText bytes := by
    intro bytes
    unfold readList
    rw [readBy_cons _ (by decide) (by rfl)]
    rfl
  rw [utf8_array, List.cons_append, hread, List.append_assoc, List.singleton_append,
    readItems_texts]

/-! ## Members -/

/-- The bytes of a member behind its name. -/
def valueBytes (j : Json) : Bytes := 0x3A :: utf8 j.text

/-- The bytes of a member behind the opening quote of its name. -/
def memberBytes (m : String × Json) : Bytes := bodyBytes m.1 ++ valueBytes m.2

/-- The bytes of members, each behind a comma. -/
def moreMembers (ms : List (String × Json)) : Bytes :=
  ms.flatMap fun m => 0x2C :: 0x22 :: memberBytes m

theorem utf8_membersText (m : String × Json) (ms : List (String × Json)) :
    utf8 (membersText (m :: ms)) = 0x22 :: memberBytes m ++ moreMembers ms := by
  have hm : ∀ n : String × Json, utf8 (quote n.1 ++ ":" ++ n.2.text) = 0x22 :: memberBytes n := by
    intro n
    rw [Text.utf8_append, Text.utf8_append, utf8_quote, List.cons_append, List.cons_append,
      List.append_assoc]
    rfl
  induction ms generalizing m with
  | nil =>
    rw [membersText, hm, moreMembers, List.flatMap_nil, List.append_nil]
  | cons n ms ih =>
    rw [membersText, Text.utf8_append, Text.utf8_append, hm, ih]
    simp only [moreMembers, List.flatMap_cons, List.append_assoc]
    rfl

theorem ends_moreMembers (ms : List (String × Json)) {rest : Bytes} (h : Ends rest) :
    Ends (moreMembers ms ++ rest) := by
  cases ms with
  | nil => exact h
  | cons m ms => exact ends_comma _

theorem length_le_moreMembers (ms : List (String × Json)) :
    ms.length ≤ (moreMembers ms).length := by
  induction ms with
  | nil => exact Nat.le_refl _
  | cons m ms ih =>
    unfold moreMembers at ih ⊢
    simp only [List.flatMap_cons, List.length_append, List.length_cons]
    omega

/-- `member` reads these members one after the other, from one state to another, where `ok`
holds. -/
inductive ReadsMembers {σ : Type} (member : String → σ → Reader σ) :
    σ → List (String × Json) → σ → Prop → Prop
  | nil (s : σ) : ReadsMembers member s [] s True
  | cons {s s' s'' : σ} {name : String} {j : Json} {ms : List (String × Json)} {p q : Prop}
      (hm : ∀ rest, Ends rest → Yields p (member name s (valueBytes j ++ rest)) s' rest)
      (h : ReadsMembers member s' ms s'' q) : ReadsMembers member s ((name, j) :: ms) s'' (p ∧ q)

variable {σ : Type} {member : String → σ → Reader σ}

/-- Reading on behind the opening quote of a member's name. -/
theorem yields_member {s s' s'' : σ} {m : String × Json} {p q : Prop} {budget rest rest' : Bytes}
    (hm : Yields p (member m.1 s (valueBytes m.2 ++ rest)) s' rest)
    (h : Yields q (readMembersFrom member false s' budget rest) s'' rest') :
    Yields (p ∧ q) ((do
      skipByte
      let name ← readStringBody
      let s ← member name s
      readMembersFrom member false s budget : Reader σ) (0x22 :: (memberBytes m ++ rest))) s''
      rest' := by
  have hskip : skipByte (0x22 :: (memberBytes m ++ rest)) = .value () (memberBytes m ++ rest) := rfl
  rw [Reader.bind_of_value _ hskip, memberBytes, List.append_assoc,
    Reader.bind_of_value _ (readStringBody_body m.1 _)]
  exact hm.bind h

theorem ReadsMembers.yields_more {s s' : σ} {ms : List (String × Json)} {ok : Prop}
    (h : ReadsMembers member s ms s' ok) (budget rest : Bytes) (hl : ms.length < budget.length) :
    Yields ok (readMembersFrom member false s budget (moreMembers ms ++ 0x7D :: rest)) s'
      (0x7D :: rest) := by
  induction h generalizing budget with
  | nil s =>
    cases budget with
    | nil => simp at hl
    | cons b budget =>
      refine .of_eq trivial ?_
      rw [moreMembers, List.flatMap_nil, List.nil_append, readMembersFrom,
        Reader.bind_of_value _ (nextMember_brace false rest)]
      rfl
  | @cons s s' s'' name j ms p q hm _ ih =>
    cases budget with
    | nil => simp at hl
    | cons b budget =>
      have he : moreMembers ((name, j) :: ms) ++ 0x7D :: rest =
          0x2C :: 0x22 :: (memberBytes (name, j) ++ (moreMembers ms ++ 0x7D :: rest)) := by
        simp only [moreMembers, List.flatMap_cons, List.cons_append, List.append_assoc]
      have hnext : ∀ r, nextMember false (0x2C :: 0x22 :: r) = .value true (0x22 :: r) :=
        fun _ => rfl
      rw [he, readMembersFrom, Reader.bind_of_value _ (hnext _), if_pos rfl]
      exact yields_member (hm _ (ends_moreMembers ms (ends_brace rest)))
        (ih budget (by simp only [List.length_cons] at hl; omega))

/-- The members of an object are read behind its opening bracket. -/
theorem ReadsMembers.yields {s s' : σ} {ms : List (String × Json)} {ok : Prop}
    (h : ReadsMembers member s ms s' ok) (rest : Bytes) :
    Yields ok (readMembers member s (utf8 (membersText ms) ++ 0x7D :: rest)) s' (0x7D :: rest) := by
  unfold readMembers
  cases h with
  | nil s => exact .of_eq trivial rfl
  | @cons s s' s'' name j ms p q hm h =>
    have hlen := length_le_moreMembers ms
    have hnext : ∀ r, nextMember true (0x22 :: r) = .value true (0x22 :: r) := fun _ => rfl
    rw [utf8_membersText, List.append_assoc, List.cons_append, readMembersFrom,
      Reader.bind_of_value _ (hnext _), if_pos rfl]
    exact yields_member (hm _ (ends_moreMembers ms (ends_brace rest)))
      (h.yields_more _ _ (by simp only [List.length_cons, List.length_append]; omega))

/-! ## Records -/

/-- What a codec writes for a value it reads back where `ok` holds, and refuses elsewhere. -/
def Codec.ReadsBack {α : Type} (c : Codec α) (a : α) (ok : Prop) : Prop :=
  ∀ rest, Ends rest → Yields ok (c.read (utf8 (c.write a).text ++ rest)) a rest

theorem Codec.text_readsBack (s : String) : Codec.text.ReadsBack s True :=
  fun rest _ => .of_eq trivial (readText_quote s rest)

theorem Codec.texts_readsBack (xs : List String) : Codec.text.list.ReadsBack xs True :=
  fun rest _ => .of_eq trivial (readList_texts xs rest)

theorem Codec.int64_readsBack (n : Int) :
    Codec.int64.ReadsBack n (Text.Decimal.int64Low ≤ n ∧ n ≤ Text.Decimal.int64High) :=
  fun _ hr => readInt_yields (by decide) (by decide) n hr

/-- Values of a record's fields of different names that are read back where `ok` holds: each is
written and read back, or it is left out and stands in for itself. -/
inductive ReadBack : (fs : Record) → Values fs → Prop → Prop
  | nil : ReadBack [] () True
  | cons {f : Field} {fs : Record} {v : f.Value} {vs : Values fs} {p q : Prop}
      (hn : f.name ∉ fs.map Field.name) (hs : f.skipped v = false) (hv : f.codec.ReadsBack v p)
      (h : ReadBack fs vs q) : ReadBack (f :: fs) (v, vs) (p ∧ q)
  | skip {f : Field} {fs : Record} {v : f.Value} {vs : Values fs} {q : Prop}
      (hn : f.name ∉ fs.map Field.name) (hs : f.skipped v = true) (ha : f.absent = some v)
      (h : ReadBack fs vs q) : ReadBack (f :: fs) (v, vs) q

/-- All values that are written have been read. -/
def Slots.full : (fs : Record) → Values fs → Slots fs
  | [], _ => ()
  | f :: fs, (v, vs) => (if f.skipped v then none else some v, Slots.full fs vs)

/-- The slots that are read give back all values. -/
theorem ReadBack.fill?_full {fs : Record} {vs : Values fs} {ok : Prop} (h : ReadBack fs vs ok) :
    fill? fs (Slots.full fs vs) = some vs := by
  induction h with
  | nil => rfl
  | cons hn hs hv _ ih =>
    simp only [Slots.full, hs, fill?, ih]
    rfl
  | skip hn hs ha _ ih =>
    simp only [Slots.full, hs, fill?, ha, ih]
    rfl

theorem mem_writeMembers {fs : Record} {vs : Values fs} {m : String × Json}
    (h : m ∈ writeMembers fs vs) : m.1 ∈ fs.map Field.name := by
  induction fs with
  | nil => simp [writeMembers] at h
  | cons f fs ih =>
    obtain ⟨v, vs⟩ := vs
    rw [List.map_cons, List.mem_cons]
    rw [writeMembers] at h
    split at h
    · exact Or.inr (ih h)
    · rcases List.mem_cons.1 h with rfl | h
      · exact Or.inl rfl
      · exact Or.inr (ih h)

/-- Members of other names are read past a field. -/
theorem ReadsMembers.cons_field {f : Field} {fs : Record} {s s' : Slots fs}
    {ms : List (String × Json)} {ok : Prop} (h : ReadsMembers (readMember fs) s ms s' ok)
    (slot : Option f.Value) (hn : ∀ m ∈ ms, m.1 ≠ f.name) :
    ReadsMembers (readMember (f :: fs)) (slot, s) ms (slot, s') ok := by
  induction h with
  | nil s => exact .nil _
  | @cons s s' s'' name j ms p q hm _ ih =>
    refine .cons (fun rest hr => ?_) (ih fun m hmem => hn m (List.mem_cons_of_mem _ hmem))
    have hne : name ≠ f.name := hn (name, j) List.mem_cons_self
    rw [readMember]
    simp only [hne, if_false]
    refine ((hm rest hr).bind (q := True) ?_).congr (iff_of_eq (and_true p))
    exact .of_eq trivial rfl

/-- The members that are written for values fill their slots. -/
theorem ReadBack.readsMembers {fs : Record} {vs : Values fs} {ok : Prop} (h : ReadBack fs vs ok) :
    ReadsMembers (readMember fs) (Slots.empty fs) (writeMembers fs vs) (Slots.full fs vs) ok := by
  induction h with
  | nil => exact .nil _
  | @cons f fs v vs p q hn hs hv _ ih =>
    have hw : writeMembers (f :: fs) (v, vs) =
        (f.name, f.codec.write v) :: writeMembers fs vs := by
      rw [writeMembers, hs]
      rfl
    have hfull : Slots.full (f :: fs) (v, vs) = (some v, Slots.full fs vs) := by
      rw [Slots.full, hs]
      rfl
    rw [hw, hfull]
    refine .cons (fun rest hr => ?_) (ih.cons_field (some v) fun m hm he =>
      hn (he ▸ mem_writeMembers hm))
    have he : readMember (f :: fs) f.name (Slots.empty (f :: fs)) = (do
        readColon
        pure (some (← f.codec.read), Slots.empty fs) : Reader (Slots (f :: fs))) := by
      simp only [Slots.empty, readMember, if_true, Option.isSome_none, Bool.false_eq_true, if_false]
    rw [he, valueBytes, List.cons_append, Reader.bind_of_value _ (readColon_colon _)]
    refine ((hv rest hr).bind (q := True) ?_).congr (iff_of_eq (and_true p))
    exact .of_eq trivial rfl
  | @skip f fs v vs q hn hs ha _ ih =>
    have hw : writeMembers (f :: fs) (v, vs) = writeMembers fs vs := by
      rw [writeMembers, hs]
      rfl
    have hfull : Slots.full (f :: fs) (v, vs) = (none, Slots.full fs vs) := by
      rw [Slots.full, hs]
      rfl
    rw [hw, hfull]
    exact ih.cons_field none fun m hm he => hn (he ▸ mem_writeMembers hm)

theorem utf8_object (ms : List (String × Json)) :
    utf8 (text (.object ms)) = 0x7B :: (utf8 (membersText ms) ++ [0x7D]) := by
  rw [text, Text.utf8_append, Text.utf8_append, List.append_assoc]
  rfl

/-- A record is read back. -/
theorem ReadBack.yields {fs : Record} {vs : Values fs} {ok : Prop} (h : ReadBack fs vs ok)
    (rest : Bytes) : Yields ok (readRecord fs (utf8 (write fs vs).text ++ rest)) vs rest := by
  unfold readRecord
  rw [write, utf8_object, List.cons_append, readBy_cons _ (by decide) (by rfl),
    Reader.bind_of_value _ (skipByte_cons _ _), List.append_assoc, List.singleton_append]
  refine ((h.readsMembers.yields rest).bind (q := True) (.of_eq trivial ?_)).congr
    (iff_of_eq (and_true ok))
  rw [h.fill?_full]
  rfl

variable {α : Type} {fs : Record} {vs : Values fs} {make : Values fs → Reader α} {a : α}
  {ok p : Prop}

/-- What is made of a record that stands alone is made again where it is read back, and nothing is
made elsewhere. -/
theorem ReadBack.readWhole_cases (h : ReadBack fs vs ok) (hok : ok ↔ p)
    (hmake : ∀ rest, make vs rest = .value a rest) :
    (p → readWhole (readRecord fs >>= make) (utf8 (write fs vs).text) = .ok a) ∧
      (¬ p → ∃ f, readWhole (readRecord fs >>= make) (utf8 (write fs vs).text) = .error f) := by
  have hy := (h.yields []).bind (q := True) (.of_eq trivial (hmake []))
  rw [List.append_nil] at hy
  unfold readWhole
  constructor
  · intro hp
    rw [hy.1 ⟨hok.2 hp, trivial⟩]
    rfl
  · intro hp
    obtain ⟨f, r, hf⟩ := hy.2 fun h => hp (hok.1 h.1)
    exact ⟨f, by rw [hf]⟩

theorem ReadBack.readWhole_iff (h : ReadBack fs vs ok) (hok : ok ↔ p)
    (hmake : ∀ rest, make vs rest = .value a rest) :
    readWhole (readRecord fs >>= make) (utf8 (write fs vs).text) = .ok a ↔ p := by
  obtain ⟨hfits, hfails⟩ := h.readWhole_cases hok hmake
  by_cases hp : p
  · exact iff_of_true (hfits hp) hp
  · obtain ⟨f, hf⟩ := hfails hp
    rw [hf]
    exact iff_of_false nofun hp

theorem ReadBack.readWhole_eq (h : ReadBack fs vs ok) (hok : ok)
    (hmake : ∀ rest, make vs rest = .value a rest) :
    readWhole (readRecord fs >>= make) (utf8 (write fs vs).text) = .ok a :=
  (h.readWhole_iff (iff_true_intro hok) hmake).2 trivial

end SignIn.Json
