-- What has been drawn from the supplies. An item is drawn once, and what has
-- been drawn stays drawn, whatever is asked.
import SignIn.Proofs.Asked

namespace SignIn

namespace Supply

variable {α : Type} {s s' s'' : Supply α} {a : α}

/-- The item has been drawn. -/
def Drawn (s : Supply α) (a : α) : Prop := ∃ n, n < s.used ∧ s.item n = a

/-- It is the same supply, from which more may have been drawn. -/
structure Later (s s' : Supply α) : Prop where
  item : s'.item = s.item
  used : s.used ≤ s'.used

theorem Later.refl (s : Supply α) : Later s s := ⟨rfl, Nat.le_refl _⟩

theorem Later.trans (h : Later s s') (h' : Later s' s'') : Later s s'' :=
  ⟨h'.item.trans h.item, Nat.le_trans h.used h'.used⟩

theorem Later.drawn (h : Later s s') (ha : s.Drawn a) : s'.Drawn a := by
  obtain ⟨n, hn, rfl⟩ := ha
  exact ⟨n, Nat.lt_of_lt_of_le hn h.used, by rw [h.item]⟩

theorem later_next (s : Supply α) : Later s s.next.2 := ⟨rfl, Nat.le_succ _⟩

theorem drawn_next (s : Supply α) : s.next.2.Drawn s.next.1 := ⟨s.used, Nat.lt_succ_self _, rfl⟩

/-- Where no item comes twice, what is drawn next has not been drawn. -/
theorem not_drawn_next (h : Function.Injective s.item) (hs : Later s s') :
    ¬ s'.Drawn s'.next.1 := by
  rintro ⟨n, hn, he⟩
  have hitem : s.item n = s.item s'.used := by
    rw [← hs.item]
    exact he
  exact absurd (h hitem) (Nat.ne_of_lt hn)

end Supply

namespace World

variable {mayFail : Prop} {w w' w'' : World}

/-- The supplies are the same, and more may have been drawn from them. -/
structure Drawing (w w' : World) : Prop where
  ids : w.ids.Later w'.ids
  salts : w.salts.Later w'.salts

theorem Drawing.refl (w : World) : Drawing w w := ⟨.refl _, .refl _⟩

theorem Drawing.trans (h : Drawing w w') (h' : Drawing w' w'') : Drawing w w'' :=
  ⟨h.ids.trans h'.ids, h.salts.trans h'.salts⟩

theorem drawing_nextFailure (w : World) (call : String) : Drawing w (w.nextFailure call).2 := by
  unfold nextFailure
  split
  · exact .refl w
  · split
    · exact .refl w
    · exact ⟨.refl _, .refl _⟩

/-- No question puts anything back. -/
theorem drawing_answer (cancelled : Bool) (w : World) (q : Ask) :
    Drawing w (w.answer cancelled q).2 := by
  cases q with
  | clock => exact .refl w
  | store q =>
    have hd := drawing_nextFailure w q.name
    change Drawing w (w.answerStore cancelled q).2
    unfold answerStore
    rcases hn : w.nextFailure q.name with ⟨failure, f⟩
    rw [hn] at hd
    rcases failure with _ | (e | e) <;> cases cancelled <;>
      exact ⟨hd.ids, hd.salts⟩
  | cache q =>
    have hd := drawing_nextFailure w q.name
    change Drawing w (w.answerCache cancelled q).2
    unfold answerCache
    rcases hn : w.nextFailure q.name with ⟨failure, f⟩
    rw [hn] at hd
    rcases failure with _ | (e | e) <;> cases cancelled <;>
      exact ⟨hd.ids, hd.salts⟩
  | deliver identifier code =>
    change Drawing w (w.answerDelivery identifier code).2
    unfold answerDelivery
    split
    · exact .refl w
    · dsimp only
      split <;> exact ⟨.refl _, .refl _⟩
  | freshId => exact ⟨Supply.later_next _, .refl _⟩
  | freshCode => exact ⟨.refl _, .refl _⟩
  | freshSalt => exact ⟨.refl _, Supply.later_next _⟩

theorem Turn.drawing {q : Ask} {a : q.Answer} (h : Turn mayFail w q a w') : Drawing w w' := by
  cases h with
  | answered => exact drawing_answer false w q
  | storeFails | cacheFails => exact .refl w

theorem Turn.drawn_id {a : String} (h : Turn mayFail w .freshId a w') : w'.ids.Drawn a := by
  cases h
  exact Supply.drawn_next w.ids

theorem Turn.drawn_salt {a : List UInt8} (h : Turn mayFail w .freshSalt a w') :
    w'.salts.Drawn a := by
  cases h
  exact Supply.drawn_next w.salts

end World

end SignIn
