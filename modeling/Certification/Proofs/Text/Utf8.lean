import Certification.Text.Blank
import Certification.Text.Utf8
import Mathlib.Tactic.SplitIfs

/-!
# Decoding encoded text

Between two characters the decoder remembers nothing, so bytes that end there are decoded for
themselves whatever follows: the bytes of a text are decoded to its characters, and a line feed puts
the decoder between two characters even after bytes that form none.
-/

namespace Certification.Text.Utf8

/-! ### Encoded text -/

private theorem toList_loop (bytes : ByteArray) (i : Nat) (read : List UInt8) :
    ByteArray.toList.loop bytes i read = read.reverse ++ bytes.data.toList.drop i := by
  fun_induction ByteArray.toList.loop bytes i read with
  | case1 i read h ih =>
    have hi : i < bytes.data.toList.length := by simpa using h
    rw [ih, List.drop_eq_getElem_cons hi]
    simp [ByteArray.get!, h]
  | case2 i read h =>
    rw [List.drop_eq_nil_of_le (by simpa using h), List.append_nil]

private theorem encode_eq_flatMap (s : String) :
    encode s = s.toList.flatMap String.utf8EncodeChar := by
  have hbytes : s.toUTF8 = s.toList.utf8Encode := String.utf8Encode_toList.symm
  rw [encode, hbytes, ByteArray.toList, toList_loop, List.utf8Encode, List.data_toByteArray]
  simp

private theorem first_of_two {v : Nat} (h : 0x7F < v ∧ v ≤ 0x7FF) :
    first (v / 64 % 32 + 192) = ([], .owing 1 0x80 0xBF (v / 64)) := by
  have hbits : v / 64 % 32 + 192 - 0xC0 = v / 64 := by omega
  rw [first, if_neg (by omega), if_pos (by omega), hbits]

private theorem first_of_three {v : Nat} (h : 0x7FF < v ∧ v ≤ 0xFFFF)
    (hv : v < 0xD800 ∨ 0xDFFF < v) :
    ∃ low high, first (v / 4096 % 16 + 224) = ([], .owing 2 low high (v / 4096)) ∧
      low ≤ v / 64 % 64 + 128 ∧ v / 64 % 64 + 128 ≤ high := by
  have hbits : v / 4096 % 16 + 224 - 0xE0 = v / 4096 := by omega
  rw [first, if_neg (by omega), if_neg (by omega)]
  split_ifs with hlow hsurrogates hother
  · have hzero : v / 4096 = 0 := by omega
    exact ⟨_, _, by rw [hzero], by omega, by omega⟩
  · have hbefore : v / 4096 = 0xD := by omega
    exact ⟨_, _, by rw [hbefore], by omega, by omega⟩
  · exact ⟨_, _, by rw [hbits], by omega, by omega⟩
  all_goals omega

/-- The first byte of a character of four bytes, which leaves room for the second one. -/
theorem first_of_four {v : Nat} (h : 0xFFFF < v ∧ v < 0x110000) :
    ∃ low high, first (v / 262144 % 8 + 240) = ([], .owing 3 low high (v / 262144)) ∧
      low ≤ v / 4096 % 64 + 128 ∧ v / 4096 % 64 + 128 ≤ high := by
  have hbits : v / 262144 % 8 + 240 - 0xF0 = v / 262144 := by omega
  rw [first, if_neg (by omega), if_neg (by omega), if_neg (by omega), if_neg (by omega),
    if_neg (by omega)]
  split_ifs with hlow hother hhigh
  · have hzero : v / 262144 = 0 := by omega
    exact ⟨_, _, by rw [hzero], by omega, by omega⟩
  · exact ⟨_, _, by rw [hbits], by omega, by omega⟩
  · have hfour : v / 262144 = 4 := by omega
    exact ⟨_, _, by rw [hfour], by omega, by omega⟩
  all_goals omega

private theorem step_owing {left low high bits b : Nat} (h : low ≤ b ∧ b ≤ high) :
    step (.owing left low high bits) b =
      if left ≤ 1 then ([some (Char.ofNat (bits * 64 + (b - 0x80)))], .start)
      else ([], .owing (left - 1) 0x80 0xBF (bits * 64 + (b - 0x80))) := by
  rw [step, if_pos h]

private theorem piecesFrom_ofNat_cons {n : Nat} (h : n < 256) (state : State) (bytes : List UInt8) :
    piecesFrom state (UInt8.ofNat n :: bytes) =
      (step state n).1 ++ piecesFrom (step state n).2 bytes := by
  have hn : (UInt8.ofNat n).toNat = n := by
    rw [UInt8.toNat_ofNat']
    omega
  rw [piecesFrom, hn]

/-- The bytes of a character are decoded to it. -/
theorem pieces_utf8EncodeChar_append (c : Char) (bytes : List UInt8) :
    pieces (String.utf8EncodeChar c ++ bytes) = some c :: pieces bytes := by
  have hc : Char.ofNat c.val.toNat = c := Char.ofNat_toNat c
  have hvalid : c.val.toNat < 0xD800 ∨ 0xDFFF < c.val.toNat ∧ c.val.toNat < 0x110000 := c.valid
  unfold String.utf8EncodeChar
  generalize c.val.toNat = v at hc hvalid
  dsimp only
  unfold pieces
  split_ifs with h₁ h₂ h₃ <;> simp only [List.cons_append, List.nil_append]
  · rw [piecesFrom_ofNat_cons (by omega), step, first, if_pos (by omega), hc, List.singleton_append]
  · have hbits : v / 64 * 64 + (v % 64 + 128 - 0x80) = v := by omega
    rw [piecesFrom_ofNat_cons (by omega), step, first_of_two (by omega),
      piecesFrom_ofNat_cons (by omega), step_owing (by omega), if_pos (by omega), hbits, hc]
    rfl
  · obtain ⟨low, high, hfirst, hrange⟩ := first_of_three (v := v) (by omega) (by omega)
    have hbits : (v / 4096 * 64 + (v / 64 % 64 + 128 - 0x80)) * 64 + (v % 64 + 128 - 0x80) = v := by
      omega
    rw [piecesFrom_ofNat_cons (by omega), step, hfirst, piecesFrom_ofNat_cons (by omega),
      step_owing hrange, if_neg (by omega), piecesFrom_ofNat_cons (by omega),
      step_owing (by omega), if_pos (by omega), hbits, hc]
    rfl
  · obtain ⟨low, high, hfirst, hrange⟩ := first_of_four (v := v) (by omega)
    have hbits : ((v / 262144 * 64 + (v / 4096 % 64 + 128 - 0x80)) * 64 +
        (v / 64 % 64 + 128 - 0x80)) * 64 + (v % 64 + 128 - 0x80) = v := by omega
    rw [piecesFrom_ofNat_cons (by omega), step, hfirst, piecesFrom_ofNat_cons (by omega),
      step_owing hrange, if_neg (by omega), piecesFrom_ofNat_cons (by omega),
      step_owing (by omega), if_neg (by omega), piecesFrom_ofNat_cons (by omega),
      step_owing (by omega), if_pos (by omega), hbits, hc]
    rfl

private theorem pieces_encode_append (s : String) (bytes : List UInt8) :
    pieces (encode s ++ bytes) = s.toList.map some ++ pieces bytes := by
  rw [encode_eq_flatMap]
  induction s.toList with
  | nil => rfl
  | cons c cs ih =>
    rw [List.flatMap_cons, List.append_assoc, pieces_utf8EncodeChar_append, ih]
    rfl

/-! ### Lines -/

/-- The byte that comes next in an open character is no ASCII character. -/
def State.Continues : State → Prop
  | .start => True
  | .owing _ low _ _ => 0x80 ≤ low

/-- No byte leads to a state in which an ASCII character continues an open one. -/
theorem continues_step {state : State} (h : state.Continues) (b : Nat) :
    (step state b).2.Continues := by
  have hfirst : (first b).2.Continues := by
    unfold first
    split_ifs <;> simp [State.Continues]
  cases state with
  | start => exact hfirst
  | owing left low high bits =>
    rw [step]
    dsimp only
    split_ifs
    · trivial
    · exact Nat.le_refl 0x80
    · exact hfirst

private theorem step_lineFeed {state : State} (h : state.Continues) :
    ∃ before, step state 0x0A = (before ++ [some '\n'], .start) := by
  cases state with
  | start => exact ⟨[], rfl⟩
  | owing left low high bits =>
    have hlow : 0x80 ≤ low := h
    refine ⟨[none], ?_⟩
    rw [step, if_neg (by omega)]
    rfl

/-- Bytes that end in a line feed are decoded for themselves, whatever comes after them, and to a
text that ends in a line feed. -/
theorem piecesFrom_append_of_getLast? {bytes : List UInt8} (hlast : bytes.getLast? = some 0x0A)
    {state : State} (h : state.Continues) (rest : List UInt8) :
    piecesFrom state (bytes ++ rest) = piecesFrom state bytes ++ pieces rest ∧
      (piecesFrom state bytes).getLast? = some (some '\n') := by
  induction bytes generalizing state with
  | nil => cases hlast
  | cons b more ih =>
    cases more with
    | nil =>
      obtain rfl : b = 0x0A := by simpa using hlast
      obtain ⟨before, hstep⟩ := step_lineFeed h
      have hb : (0x0A : UInt8).toNat = 0x0A := rfl
      simp [piecesFrom, hb, hstep, finish, pieces]
    | cons b' more =>
      obtain ⟨happend, hend⟩ := ih (by simpa using hlast) (continues_step h b.toNat)
      rw [List.cons_append, piecesFrom, piecesFrom, happend, List.append_assoc]
      exact ⟨rfl, by rw [List.getLast?_append, hend, Option.some_or]⟩

/-- Bytes that are none or end in a line feed are decoded for themselves, with a gap read as a
character, to a text that is empty or ends in a line feed. -/
theorem decodeLossy_append_of_endsLine {bytes : List UInt8}
    (h : bytes = [] ∨ bytes.getLast? = some 0x0A) (rest : List UInt8) :
    decodeLossy (bytes ++ rest) = decodeLossy bytes ++ decodeLossy rest ∧
      (decodeLossy bytes = [] ∨ (decodeLossy bytes).getLast? = some '\n') := by
  rcases h with rfl | h
  · exact ⟨rfl, .inl rfl⟩
  · have hstart : State.start.Continues := trivial
    obtain ⟨happend, hlast⟩ := piecesFrom_append_of_getLast? h hstart rest
    refine ⟨?_, .inr ?_⟩
    · rw [decodeLossy, pieces, happend, List.map_append]
      rfl
    · rw [decodeLossy, pieces, List.getLast?_map, hlast]
      rfl

/-- The bytes of a text are decoded to its characters, whatever comes after them. -/
theorem decodeLossy_encode_append (s : String) (rest : List UInt8) :
    decodeLossy (encode s ++ rest) = s.toList ++ decodeLossy rest := by
  rw [decodeLossy, pieces_encode_append, List.map_append, List.map_map]
  simp [decodeLossy, Function.comp_def]

/-- There is no gap among the bytes of a text. -/
theorem decodeUntilGap_encode (s : String) : decodeUntilGap (encode s) = (s.toList, false) := by
  have hpieces := pieces_encode_append s []
  rw [List.append_nil, pieces_nil, List.append_nil] at hpieces
  have hchars : ∀ c ∈ s.toList.map some, Option.isSome c = true := by simp
  have htake : (s.toList.map some ++ []).takeWhile Option.isSome = s.toList.map some ++ [] :=
    List.takeWhile_append_of_pos hchars
  rw [List.append_nil] at htake
  rw [decodeUntilGap, hpieces, htake]
  simp

/-! ### ASCII -/

/-- ASCII bytes are the characters with their values. -/
theorem pieces_of_ascii {bytes : List UInt8} (h : ∀ b ∈ bytes, b.toNat < 0x80) :
    pieces bytes = bytes.map fun b ↦ some (Char.ofNat b.toNat) := by
  induction bytes with
  | nil => rfl
  | cons b more ih =>
    have hb := h b List.mem_cons_self
    have hmore := ih fun b hb ↦ h b (List.mem_cons_of_mem _ hb)
    unfold pieces at hmore ⊢
    rw [piecesFrom, step, first, if_pos hb, hmore, List.map_cons, List.singleton_append]

/-- An ASCII blank is a separator or a form feed. -/
theorem ofNat_of_isAsciiBlank {b : UInt8} (h : isAsciiBlank b = true) :
    b.toNat < 0x80 ∧ (isSeparator (Char.ofNat b.toNat) = true ∨ Char.ofNat b.toNat = '\x0C') := by
  simp only [isAsciiBlank, Bool.or_eq_true, beq_iff_eq] at h
  rcases h with (((rfl | rfl) | rfl) | rfl) | rfl <;> decide

/-- Nothing but blanks comes of ASCII blanks. -/
theorem isBlank_of_mem_decodeLossy {bytes : List UInt8}
    (h : ∀ b ∈ bytes, b.toNat < 0x80 ∧ isBlank (Char.ofNat b.toNat) = true) {c : Char}
    (hc : c ∈ decodeLossy bytes) : isBlank c = true := by
  rw [decodeLossy, pieces_of_ascii fun b hb ↦ (h b hb).1, List.map_map] at hc
  obtain ⟨b, hb, rfl⟩ := List.mem_map.mp hc
  exact (h b hb).2

end Certification.Text.Utf8
