-- Lists, objects and all other values are what the lexer sees: what is read as
-- one value ends where its own bracket is closed.
import SignIn.Proofs.Json.NumberTracking

namespace SignIn.Json

open Lexer (Passes Falls isLetter passes_inert passes_quote passes_first_letter passes_open
  passes_close passes_comma passes_space falls_closing falls_space)

variable {α β : Type} {d : Nat} {x y z : Lexer} {v w r : Bytes}

/-! ## Lists and objects -/

theorem peek_bind (f : Option UInt8 → Reader α) (v : Bytes) :
    (peek >>= f) v = f (skipSpace v).head? (skipSpace v) := rfl

theorem tracks_peek {e : Nat} {f : Option UInt8 → Reader α}
    (h : ∀ w, Tracks d ⟨.plain, e⟩ w z (f w.head? w)) :
    Tracks d ⟨.plain, e⟩ v z ((peek >>= f) v) := .of_passes (passes_space v) (h (skipSpace v))

theorem skipByte_bind (f : Unit → Reader α) (b : UInt8) (v : Bytes) :
    (skipByte >>= f) (b :: v) = f () v := rfl

theorem tracks_skipByte {b : UInt8} {f : Unit → Reader α} (hb : Passes x (b :: v) y v)
    (h : Tracks d y v z (f () v)) : Tracks d x (b :: v) z ((skipByte >>= f) (b :: v)) :=
  .of_passes hb h

/-- Behind an item comes the end of its array, or a comma and another item. -/
theorem tracks_nextItem (first : Bool) (v : Bytes) :
    Tracks (d + 2) ⟨.plain, d + 2⟩ v ⟨.plain, d + 2⟩ (nextItem first v) := by
  refine tracks_peek fun w => ?_
  cases w with
  | nil => exact tracks_fail (Nat.le_refl _) _ _
  | cons b w =>
    dsimp only [List.head?_cons]
    split
    · exact tracks_pure _ _
    split
    · exact tracks_pure _ _
    split
    · rename_i hb
      subst hb
      refine tracks_skipByte (passes_comma (by omega) w) (tracks_peek fun w' => ?_)
      cases w' with
      | nil => exact tracks_fail (Nat.le_refl _) _ _
      | cons c w' =>
        dsimp only [List.head?_cons]
        split
        · exact tracks_fail (Nat.le_refl _) _ _
        · exact tracks_pure _ _
    · exact tracks_fail (Nat.le_refl _) _ _

/-- A reader that takes one wanted byte. -/
theorem tracks_wanted {c : UInt8} (hc : ∀ w, Passes ⟨.plain, d⟩ (c :: w) y w) (v : Bytes) :
    Tracks d ⟨.plain, d⟩ v y ((do
      match ← peek with
      | none => Reader.fail .truncated
      | some b => if b = c then skipByte else Reader.fail .malformed : Reader Unit) v) := by
  refine tracks_peek fun w => ?_
  cases w with
  | nil => exact tracks_fail (Nat.le_refl _) _ _
  | cons b w =>
    dsimp only [List.head?_cons]
    split
    · rename_i hb
      subst hb
      exact hc w
    · exact tracks_fail (Nat.le_refl _) _ _

theorem tracks_endItems (v : Bytes) :
    Tracks (d + 1) ⟨.plain, d + 1⟩ v ⟨.plain, d⟩ (endItems v) :=
  tracks_wanted (passes_close (Or.inl rfl)) v

theorem tracks_readColon (v : Bytes) :
    Tracks d ⟨.plain, d⟩ v ⟨.plain, d⟩ (readColon v) :=
  tracks_wanted (fun _ => passes_inert rfl) v

theorem tracks_endMembers (v : Bytes) :
    Tracks (d + 1) ⟨.plain, d + 1⟩ v ⟨.plain, d⟩ (endMembers v) :=
  tracks_wanted (passes_close (Or.inr rfl)) v

theorem tracks_readItemsFrom {read : Reader α}
    (hread : ∀ v, Tracks (d + 2) ⟨.plain, d + 2⟩ v ⟨.plain, d + 2⟩ (read v)) (first : Bool)
    (done : List α) (budget v : Bytes) :
    Tracks (d + 2) ⟨.plain, d + 2⟩ v ⟨.plain, d + 1⟩ (readItemsFrom read first done budget v) := by
  induction budget generalizing first done v with
  | nil => exact tracks_fail (Nat.le_refl _) _ _
  | cons _ budget ih =>
    unfold readItemsFrom
    refine .bind (tracks_nextItem first v) fun more w _ => ?_
    cases more with
    | true => exact .bind (hread w) fun a w' _ => ih _ _ w'
    | false => exact .bind (tracks_endItems w) fun _ w' _ => tracks_pure _ w'

/-- Behind a member comes the end of its object, or a comma and the quote of another name. -/
theorem tracks_nextMember (first : Bool) (v : Bytes) :
    Tracks (d + 2) ⟨.plain, d + 2⟩ v ⟨.plain, d + 2⟩ (nextMember first v) := by
  refine tracks_peek fun w => ?_
  cases w with
  | nil => exact tracks_fail (Nat.le_refl _) _ _
  | cons b w =>
    dsimp only [List.head?_cons]
    split
    · exact tracks_pure _ _
    split
    · split
      · exact tracks_pure _ _
      · exact tracks_fail (Nat.le_refl _) _ _
    split
    · rename_i hb
      subst hb
      refine tracks_skipByte (passes_comma (by omega) w) (tracks_peek fun w' => ?_)
      cases w' with
      | nil => exact tracks_fail (Nat.le_refl _) _ _
      | cons c w' =>
        dsimp only [List.head?_cons]
        split
        · exact tracks_pure _ _
        · exact tracks_fail (Nat.le_refl _) _ _
    · exact tracks_fail (Nat.le_refl _) _ _

/-- Where the members end, the text stands at the bracket; where another one follows, at the quote
of its name, behind a comma unless it is the first one. -/
theorem nextMember_value {first more : Bool} (h : nextMember first v = .value more r) :
    (more = false ∧ r = skipSpace v ∧ ∃ w, r = 0x7D :: w) ∨
      (more = true ∧ (∃ w, r = 0x22 :: w) ∧
        if first then r = skipSpace v else ∃ w, skipSpace v = 0x2C :: w ∧ r = skipSpace w) := by
  unfold nextMember at h
  rw [peek_bind] at h
  generalize skipSpace v = w at h
  cases w with
  | nil => cases h
  | cons b w =>
    dsimp only [List.head?_cons] at h
    split at h
    · rename_i hb
      cases h
      exact Or.inl ⟨rfl, rfl, w, by rw [hb]⟩
    split at h
    · rename_i hfirst
      split at h
      · rename_i hb
        cases h
        exact Or.inr ⟨rfl, ⟨w, by rw [hb]⟩, by rw [if_pos hfirst]⟩
      · cases h
    rename_i hfirst
    split at h
    · rename_i hb
      rw [skipByte_bind, peek_bind] at h
      refine Or.inr ?_
      rw [if_neg hfirst]
      generalize hw : skipSpace w = w' at h
      cases w' with
      | nil => cases h
      | cons c w' =>
        dsimp only [List.head?_cons] at h
        split at h
        · rename_i hc
          cases h
          exact ⟨rfl, ⟨w', by rw [hc]⟩, w, by rw [hb], hw.symm⟩
        · cases h
    · cases h

theorem tracks_readMembersFrom {σ : Type} {member : String → σ → Reader σ}
    (hmember : ∀ name s v, Tracks (d + 2) ⟨.plain, d + 2⟩ v ⟨.plain, d + 2⟩ (member name s v))
    (first : Bool) (s : σ) (budget v : Bytes) :
    Tracks (d + 2) ⟨.plain, d + 2⟩ v ⟨.plain, d + 2⟩
      (readMembersFrom member first s budget v) := by
  induction budget generalizing first s v with
  | nil => exact tracks_fail (Nat.le_refl _) _ _
  | cons _ budget ih =>
    unfold readMembersFrom
    refine .bind (tracks_nextMember first v) fun more w hw => ?_
    cases more with
    | true =>
      obtain ⟨h, _⟩ | ⟨_, ⟨w, rfl⟩, _⟩ := nextMember_value hw
      · cases h
      refine tracks_skipByte (passes_quote w) ?_
      refine .bind (tracks_readStringBody w) fun name w' _ => ?_
      exact .bind (hmember name s w') fun s' w'' _ => ih false s' w''
    | false => exact tracks_pure s w

/-! ## Any value -/

theorem Tracks.afterFault {e : Nat} {m : Reader α} {skip : Bytes → Bytes}
    (hm : Tracks e x v y (m v)) (hs : ∀ x' w, e ≤ x'.depth → Falls d x' w (skip w)) :
    Tracks d x v y (Reader.afterFault skip m v) := by
  unfold Reader.afterFault
  cases h : m v with
  | value a r =>
    rw [h] at hm
    exact hm
  | fault f r =>
    rw [h] at hm
    exact Falls.trans hm fun x' hx' => hs x' r hx'

theorem falls_leaveItems (h : d + 1 ≤ x.depth) (v : Bytes) : Falls d x v (leaveItems v) := by
  refine .trans (falls_space h v) fun x' hx' => ?_
  unfold leaveItems
  generalize skipSpace v = w
  cases w with
  | nil => exact .refl (by omega) _
  | cons b w =>
    dsimp only
    split
    · exact falls_closing hx' b w
    · split
      · exact .trans (falls_closing hx' b w) fun x'' hx'' => falls_space hx'' w
      · exact .refl (by omega) _

theorem falls_leaveMembers (h : d + 1 ≤ x.depth) (v : Bytes) : Falls d x v (leaveMembers v) := by
  refine .trans (falls_space h v) fun x' hx' => ?_
  unfold leaveMembers
  generalize skipSpace v = w
  cases w with
  | nil => exact .refl (by omega) _
  | cons b w =>
    dsimp only
    split
    · exact falls_closing hx' b w
    · exact .refl (by omega) _

theorem tracks_readAnyItems {inner : Reader Json}
    (hi : ∀ v, Tracks (d + 2) ⟨.plain, d + 2⟩ v ⟨.plain, d + 2⟩ (inner v)) (v : Bytes) :
    Tracks (d + 1) ⟨.plain, d + 2⟩ v ⟨.plain, d + 1⟩ (readAnyItems inner v) := by
  refine .afterFault (e := d + 2) ?_ fun x' w h => falls_leaveItems h w
  exact .bind (tracks_readItemsFrom hi true [] _ v) fun items w _ => tracks_pure _ w

theorem tracks_readAnyMembers {inner : Reader Json}
    (hi : ∀ v, Tracks (d + 2) ⟨.plain, d + 2⟩ v ⟨.plain, d + 2⟩ (inner v)) (v : Bytes) :
    Tracks (d + 1) ⟨.plain, d + 2⟩ v ⟨.plain, d + 1⟩ (readAnyMembers inner v) := by
  refine .afterFault (e := d + 2) ?_ fun x' w h => falls_leaveMembers h w
  refine .bind (tracks_readMembersFrom (fun name done v => ?_) true [] _ v) fun members w _ => ?_
  · exact .bind (tracks_readColon v) fun _ w _ => .bind (hi w) fun j w' _ => tracks_pure _ w'
  · exact .bind (tracks_endMembers w) fun _ w' _ => tracks_pure _ w'

theorem tracks_readBy {reader : UInt8 → Option (Reader α)}
    (hsome : ∀ b m w, reader b = some m → Tracks d ⟨.plain, d⟩ (b :: w) y (m (b :: w)))
    (hnone : ∀ b w, reader b = none → refuse b (b :: w) = .fault .malformed (b :: w))
    (v : Bytes) : Tracks d ⟨.plain, d⟩ v y (readBy reader v) := by
  refine tracks_peek fun w => ?_
  cases w with
  | nil => exact tracks_fail (Nat.le_refl _) _ _
  | cons b w =>
    dsimp only [List.head?_cons]
    cases h : reader b with
    | some m => exact hsome b m w h
    | none =>
      dsimp only
      rw [Reader.bind_of_fault _ (hnone b w h)]
      exact tracks_fault (Nat.le_refl _) _ _

/-! ## Values that start with a certain byte -/

theorem tracks_string {f : String → Reader α} (hf : ∀ s w, Tracks d ⟨.plain, d⟩ w y (f s w))
    (v : Bytes) : Tracks d ⟨.plain, d⟩ (0x22 :: v) y
      ((do skipByte; let s ← readStringBody; f s : Reader α) (0x22 :: v)) :=
  tracks_skipByte (passes_quote v) (.bind (tracks_readStringBody v) fun s w _ => hf s w)

theorem tracks_word {b : UInt8} {word : List UInt8} {n : Nat} (a : α)
    (hn : Lexer.next ⟨.plain, d⟩ b = some ⟨.letters n, d⟩)
    (hw : word.length = n + 1) (hl : word.all isLetter = true) (v : Bytes) :
    Tracks d ⟨.plain, d⟩ (b :: v) ⟨.plain, d⟩
      ((do skipByte; expect word; pure a : Reader α) (b :: v)) :=
  tracks_skipByte (passes_first_letter hn v)
    (.bind (tracks_expect hw hl v) fun _ w _ => tracks_pure a w)

theorem tracks_readAnyWith {inner : Option (Reader Json)}
    (hi : ∀ m, inner = some m → ∀ d v, Tracks (d + 1) ⟨.plain, d + 1⟩ v ⟨.plain, d + 1⟩ (m v))
    (v : Bytes) : Tracks (d + 1) ⟨.plain, d + 1⟩ v ⟨.plain, d + 1⟩ (readAnyWith inner v) := by
  refine tracks_readBy (fun b m w h => ?_) (fun b w h => ?_) v
  · split at h
    · rename_i hb
      cases h
      subst hb
      exact tracks_string (fun s w => tracks_pure _ w) w
    split at h
    · rename_i hb
      cases h
      subst hb
      exact tracks_word _ rfl rfl rfl w
    split at h
    · rename_i hb
      cases h
      subst hb
      exact tracks_word _ rfl rfl rfl w
    split at h
    · rename_i hb
      cases h
      subst hb
      exact tracks_word _ rfl rfl rfl w
    split at h
    · rename_i hb
      cases h
      exact tracks_readAnyNumber (by simpa using hb) w
    split at h
    · rename_i hb
      cases h
      subst hb
      cases inner with
      | none => exact tracks_fail (Nat.le_refl _) _ _
      | some m =>
        exact tracks_skipByte (passes_open (Or.inl rfl) w)
          (tracks_readAnyItems (hi m rfl (d + 1)) w)
    split at h
    · rename_i hb
      cases h
      subst hb
      cases inner with
      | none => exact tracks_fail (Nat.le_refl _) _ _
      | some m =>
        exact tracks_skipByte (passes_open (Or.inr rfl) w)
          (tracks_readAnyMembers (hi m rfl (d + 1)) w)
    · cases h
  · -- No other byte starts a value.
    repeat (split at h; · cases h)
    simp_all [refuse]

theorem tracks_readAny (n : Nat) (v : Bytes) :
    Tracks (d + 1) ⟨.plain, d + 1⟩ v ⟨.plain, d + 1⟩ (readAny n v) := by
  induction n using readAny.induct generalizing d v with
  | case1 | case2 => exact tracks_readAnyWith (by nofun) v
  | case3 n ih =>
    refine tracks_readAnyWith (fun m hm d v => ?_) v
    cases hm
    exact ih v

end SignIn.Json
