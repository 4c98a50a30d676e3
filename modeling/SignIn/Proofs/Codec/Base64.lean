-- What is written in Base64 is read back as the same bytes, and no text that
-- is written over the alphabet of tokens has a dot in it. How many symbols
-- bytes are written in depends on their number alone.
import SignIn.Codec.Base64

namespace SignIn.Codec.Base64

/-! ## Symbols -/

theorem symbol_eq (a : Alphabet) {n : Nat} (h : n < 64) :
    ∃ hn : n < a.symbols.length, a.symbol n = a.symbols[n] := by
  have hn : n < a.symbols.length := by rw [a.size]; exact h
  refine ⟨hn, ?_⟩
  unfold Alphabet.symbol
  rw [List.getD_eq_getElem?_getD, List.getElem?_eq_getElem hn, Option.getD_some]

/-- A symbol has the value that it stands for. -/
theorem value?_symbol (a : Alphabet) {n : Nat} (h : n < 64) : a.value? (a.symbol n) = some n := by
  obtain ⟨hn, he⟩ := symbol_eq a h
  unfold Alphabet.value?
  rw [he, List.findIdx?_eq_some_iff_getElem]
  refine ⟨hn, by simp, fun j hj => ?_⟩
  have hne : a.symbols[j] ≠ a.symbols[n] :=
    List.pairwise_iff_getElem.1 a.distinct j n (by omega) hn hj
  simpa using hne

theorem valuesOnto_symbols (a : Alphabet) (done vs : List Nat) (h : ∀ v ∈ vs, v < 64) :
    valuesOnto a done (vs.map a.symbol) = some (done.reverse ++ vs) := by
  induction vs generalizing done with
  | nil => rw [List.map_nil, valuesOnto, List.append_nil]
  | cons v vs ih =>
    rw [List.map_cons, valuesOnto, value?_symbol a (h v List.mem_cons_self)]
    simp only
    rw [ih (v :: done) fun w hw => h w (List.mem_cons_of_mem v hw), List.reverse_cons,
      List.append_assoc, List.singleton_append]

/-! ## Values of six bits -/

theorem lt_of_mem_sextets (bytes : List UInt8) : ∀ v ∈ sextets bytes, v < 64 := by
  fun_induction sextets bytes with
  | case1 a b c r ih =>
    have := a.toNat_lt
    have := b.toNat_lt
    have := c.toNat_lt
    intro v hv
    simp only [List.mem_cons] at hv
    rcases hv with rfl | rfl | rfl | rfl | hv
    · omega
    · omega
    · omega
    · omega
    · exact ih v hv
  | case2 a b =>
    have := a.toNat_lt
    have := b.toNat_lt
    intro v hv
    simp only [List.mem_cons, List.not_mem_nil, or_false] at hv
    rcases hv with rfl | rfl | rfl <;> omega
  | case3 a =>
    have := a.toNat_lt
    intro v hv
    simp only [List.mem_cons, List.not_mem_nil, or_false] at hv
    rcases hv with rfl | rfl <;> omega
  | case4 => exact fun v hv => absurd hv List.not_mem_nil

theorem ofNat_eq {n : Nat} {b : UInt8} (h : n % 256 = b.toNat) : UInt8.ofNat n = b := by
  rw [← UInt8.toNat_inj, UInt8.toNat_ofNat']
  exact h

/-- The values of six bits spell the bytes that they come from. -/
theorem bytesOnto_sextets (done bytes : List UInt8) :
    bytesOnto done (sextets bytes) = some (done.reverse ++ bytes) := by
  fun_induction sextets bytes generalizing done with
  | case1 a b c r ih =>
    have := a.toNat_lt
    have := b.toNat_lt
    have := c.toNat_lt
    rw [bytesOnto, ih, ofNat_eq (b := c) (by omega), ofNat_eq (b := b) (by omega),
      ofNat_eq (b := a) (by omega)]
    simp
  | case2 a b =>
    have := a.toNat_lt
    have := b.toNat_lt
    rw [bytesOnto, if_pos (by omega), ofNat_eq (b := a) (by omega), ofNat_eq (b := b) (by omega)]
  | case3 a =>
    have := a.toNat_lt
    rw [bytesOnto, if_pos (by omega), ofNat_eq (b := a) (by omega)]
  | case4 => rw [bytesOnto, List.append_nil]

/-! ## Texts -/

/-- What is written is read back. -/
theorem decode?_encode (a : Alphabet) (bytes : List UInt8) :
    decode? a (encode a bytes) = some bytes := by
  unfold decode? encode
  rw [String.toList_ofList, sextetsOnto_eq, List.reverse_nil, List.nil_append,
    valuesOnto_symbols a [] _ (lt_of_mem_sextets bytes), Option.bind_some, List.reverse_nil,
    List.nil_append, bytesOnto_sextets, List.reverse_nil, List.nil_append]

theorem length_sextets (bytes : List UInt8) :
    (sextets bytes).length = (4 * bytes.length + 2) / 3 := by
  fun_induction sextets bytes with
  | case1 a b c r ih =>
    simp only [List.length_cons, ih]
    omega
  | case2 | case3 => simp
  | case4 => rfl

theorem length_encode (a : Alphabet) (bytes : List UInt8) :
    (encode a bytes).toList.length = (4 * bytes.length + 2) / 3 := by
  unfold encode
  rw [String.toList_ofList, sextetsOnto_eq, List.reverse_nil, List.nil_append, List.length_map,
    length_sextets]

theorem mem_symbols_of_mem_encode {a : Alphabet} {bytes : List UInt8} {c : Char}
    (h : c ∈ (encode a bytes).toList) : c ∈ a.symbols := by
  unfold encode at h
  rw [String.toList_ofList, sextetsOnto_eq, List.reverse_nil, List.nil_append, List.mem_map] at h
  obtain ⟨v, hv, rfl⟩ := h
  obtain ⟨hn, he⟩ := symbol_eq a (lt_of_mem_sextets bytes v hv)
  rw [he]
  exact List.getElem_mem hn

theorem mem_symbols_of_valuesOnto {a : Alphabet} {done vs : List Nat} {cs : List Char}
    (h : valuesOnto a done cs = some vs) : ∀ c ∈ cs, c ∈ a.symbols := by
  induction cs generalizing done with
  | nil => exact fun c hc => absurd hc List.not_mem_nil
  | cons c cs ih =>
    rw [valuesOnto] at h
    split at h
    · rename_i v hv
      have hc : c ∈ a.symbols := by
        have hs : (a.symbols.findIdx? (· == c)).isSome := by
          change (a.value? c).isSome
          rw [hv]
          rfl
        rw [List.findIdx?_isSome, List.any_eq_true] at hs
        obtain ⟨c', hc', he⟩ := hs
        exact beq_iff_eq.1 he ▸ hc'
      exact List.forall_mem_cons.2 ⟨hc, ih h⟩
    · cases h

/-- What spells bytes consists of symbols. -/
theorem mem_symbols_of_decode? {a : Alphabet} {s : String} {bytes : List UInt8}
    (h : decode? a s = some bytes) : ∀ c ∈ s.toList, c ∈ a.symbols := by
  obtain ⟨vs, hvs, _⟩ := Option.bind_eq_some_iff.1 h
  exact mem_symbols_of_valuesOnto hvs

theorem dot_notMem_of_decode? {s : String} {bytes : List UInt8}
    (h : decode? urlSafe s = some bytes) : '.' ∉ s.toList :=
  fun hd => absurd (mem_symbols_of_decode? h '.' hd) (by decide)

theorem dot_notMem_encode (bytes : List UInt8) : '.' ∉ (encode urlSafe bytes).toList :=
  fun h => absurd (mem_symbols_of_mem_encode h) (by decide)

end SignIn.Codec.Base64
