import PartitionFabric.Model.Device

/-!
The byte strings that the UTF-8 check accepts: exactly the encodings of the lists of characters.
-/

namespace PartitionFabric

section Bytes

lemma forall_byte {P : UInt8 → Prop} (h : ∀ i : Fin 256, P (UInt8.ofFin i)) (b : UInt8) : P b := by
  have hb := h b.toFin
  rwa [UInt8.ofFin_toFin] at hb

lemma ascii_iff (b : UInt8) : b < 0x80 ↔ b.toNat < 128 := UInt8.lt_iff_toNat_lt

lemma continuation_iff : ∀ b : UInt8,
    isContinuation b = true ↔ 128 ≤ b.toNat ∧ b.toNat < 192 :=
  forall_byte (by decide +kernel)

/-- The lead bytes of sequences of two, three and four bytes. -/
lemma lead_iff : ∀ b : UInt8,
    ((b &&& 0xE0 == 0xC0) = true ↔ 192 ≤ b.toNat ∧ b.toNat < 224) ∧
      ((b &&& 0xF0 == 0xE0) = true ↔ 224 ≤ b.toNat ∧ b.toNat < 240) ∧
      ((b &&& 0xF8 == 0xF0) = true ↔ 240 ≤ b.toNat ∧ b.toNat < 248) :=
  forall_byte (by decide +kernel)

/-- The payload bits of lead and continuation bytes. -/
lemma payload_toNat : ∀ b : UInt8,
    (b &&& 0x1F).toNat = b.toNat % 32 ∧ (b &&& 0x0F).toNat = b.toNat % 16 ∧
      (b &&& 0x07).toNat = b.toNat % 8 ∧ (b &&& 0x3F).toNat = b.toNat % 64 ∧
      ((b &&& 0x1F != 0) = true ↔ b.toNat % 32 ≠ 0) :=
  forall_byte (by decide +kernel)

lemma codePointOk_iff (lowest n : ℕ) : codePointOk lowest n = true ↔
    lowest ≤ n ∧ n ≤ 0x10FFFF ∧ ¬ (0xD800 ≤ n ∧ n ≤ 0xDFFF) := by
  simp only [codePointOk, Bool.and_eq_true, decide_eq_true_eq, Bool.not_eq_true', Bool.and_eq_false_iff,
    decide_eq_false_iff_not]
  omega

lemma isValidUtf8_nil : isValidUtf8 [] = true := by
  unfold isValidUtf8
  rfl

/-- A single byte below 128 stands for itself. -/
lemma isValidUtf8_one {a : UInt8} (ha : a.toNat < 128) (rest : Text) :
    isValidUtf8 (a :: rest) = isValidUtf8 rest := by
  have hascii : a < 0x80 := (ascii_iff a).2 ha
  rw [isValidUtf8.eq_def]
  simp only [hascii, if_true]

/-- A lead byte with fewer bytes after it than it announces, or a byte that leads nothing. -/
lemma isValidUtf8_short {a : UInt8} {rest : Text}
    (h : (192 ≤ a.toNat ∧ a.toNat < 224) ∧ rest.length < 1 ∨
      (224 ≤ a.toNat ∧ a.toNat < 240) ∧ rest.length < 2 ∨
      (240 ≤ a.toNat ∧ a.toNat < 248) ∧ rest.length < 3 ∨
      (128 ≤ a.toNat ∧ a.toNat < 192) ∨ 248 ≤ a.toNat) :
    isValidUtf8 (a :: rest) = false := by
  have hascii := ascii_iff a
  obtain ⟨htwo, hthree, hfour⟩ := lead_iff a
  rw [isValidUtf8.eq_def]
  simp only [hascii, htwo, hthree, hfour]
  rcases rest with _ | ⟨b, _ | ⟨c, _ | ⟨d, rest⟩⟩⟩ <;>
    simp only [List.length_cons, List.length_nil] at h ⊢ <;> split_ifs <;> first | rfl | omega

/-- A sequence of two bytes. -/
lemma isValidUtf8_two {a : UInt8} (ha : 192 ≤ a.toNat ∧ a.toNat < 224) (b : UInt8) (rest : Text) :
    isValidUtf8 (a :: b :: rest) = true ↔
      (128 ≤ b.toNat ∧ b.toNat < 192) ∧ 2 ≤ a.toNat % 32 ∧ isValidUtf8 rest = true := by
  have hascii : ¬ a < 0x80 := fun h ↦ by have := (ascii_iff a).1 h; omega
  have htwo := (lead_iff a).1.2 ha
  rw [isValidUtf8.eq_def]
  simp only [hascii, htwo, if_false, if_true, Bool.and_eq_true, continuation_iff,
    codePointOk_iff, appendContinuation, (payload_toNat a).1, (payload_toNat b).2.2.2.1,
    (payload_toNat a).2.2.2.2]
  cases isValidUtf8 rest with
  | false => simp only [Bool.false_eq_true, and_false]
  | true =>
    simp only [and_true]
    omega

/-- A sequence of three bytes. -/
lemma isValidUtf8_three {a : UInt8} (ha : 224 ≤ a.toNat ∧ a.toNat < 240) (b c : UInt8)
    (rest : Text) :
    isValidUtf8 (a :: b :: c :: rest) = true ↔
      (128 ≤ b.toNat ∧ b.toNat < 192) ∧ (128 ≤ c.toNat ∧ c.toNat < 192) ∧
        (2048 ≤ ((a.toNat % 16) * 64 + b.toNat % 64) * 64 + c.toNat % 64 ∧
          ¬ (55296 ≤ ((a.toNat % 16) * 64 + b.toNat % 64) * 64 + c.toNat % 64 ∧
            ((a.toNat % 16) * 64 + b.toNat % 64) * 64 + c.toNat % 64 ≤ 57343)) ∧
        isValidUtf8 rest = true := by
  have hascii : ¬ a < 0x80 := fun h ↦ by have := (ascii_iff a).1 h; omega
  have htwo : ¬ (a &&& 0xE0 == 0xC0) = true := fun h ↦ by have := (lead_iff a).1.1 h; omega
  have hthree := (lead_iff a).2.1.2 ha
  rw [isValidUtf8.eq_def]
  simp only [hascii, htwo, hthree, if_false, if_true, Bool.false_eq_true, Bool.and_eq_true,
    continuation_iff, codePointOk_iff, appendContinuation, (payload_toNat a).2.1, (payload_toNat b).2.2.2.1,
    (payload_toNat c).2.2.2.1]
  cases isValidUtf8 rest with
  | false => simp only [Bool.false_eq_true, and_false]
  | true =>
    simp only [and_true]
    omega

/-- A sequence of four bytes. -/
lemma isValidUtf8_four {a : UInt8} (ha : 240 ≤ a.toNat ∧ a.toNat < 248) (b c d : UInt8)
    (rest : Text) :
    isValidUtf8 (a :: b :: c :: d :: rest) = true ↔
      (128 ≤ b.toNat ∧ b.toNat < 192) ∧ (128 ≤ c.toNat ∧ c.toNat < 192) ∧
        (128 ≤ d.toNat ∧ d.toNat < 192) ∧
        (65536 ≤ (((a.toNat % 8) * 64 + b.toNat % 64) * 64 + c.toNat % 64) * 64 + d.toNat % 64 ∧
          (((a.toNat % 8) * 64 + b.toNat % 64) * 64 + c.toNat % 64) * 64 + d.toNat % 64
            ≤ 1114111) ∧
        isValidUtf8 rest = true := by
  have hascii : ¬ a < 0x80 := fun h ↦ by have := (ascii_iff a).1 h; omega
  have htwo : ¬ (a &&& 0xE0 == 0xC0) = true := fun h ↦ by have := (lead_iff a).1.1 h; omega
  have hthree : ¬ (a &&& 0xF0 == 0xE0) = true := fun h ↦ by have := (lead_iff a).2.1.1 h; omega
  have hfour := (lead_iff a).2.2.2 ha
  rw [isValidUtf8.eq_def]
  simp only [hascii, htwo, hthree, hfour, if_false, if_true, Bool.false_eq_true,
    Bool.and_eq_true, continuation_iff, codePointOk_iff, appendContinuation, (payload_toNat a).2.2.1, (payload_toNat b).2.2.2.1,
    (payload_toNat c).2.2.2.1, (payload_toNat d).2.2.2.1]
  cases isValidUtf8 rest with
  | false => simp only [Bool.false_eq_true, and_false]
  | true =>
    simp only [and_true]
    omega

end Bytes

section Characters

lemma scalar_bounds (c : Char) :
    c.val.toNat ≤ 0x10FFFF ∧ ¬ (0xD800 ≤ c.val.toNat ∧ c.val.toNat ≤ 0xDFFF) := by
  have hvalid : c.val.toNat.isValidChar := c.valid
  unfold Nat.isValidChar at hvalid
  omega

/-- Every scalar value is that of a character. -/
lemma exists_char {n : ℕ} (hmax : n ≤ 0x10FFFF) (hsurrogate : ¬ (0xD800 ≤ n ∧ n ≤ 0xDFFF)) :
    ∃ c : Char, c.val.toNat = n := by
  have hn : (UInt32.ofNat n).toNat = n := Nat.mod_eq_of_lt (by omega)
  refine ⟨⟨UInt32.ofNat n, ?_⟩, hn⟩
  change (UInt32.ofNat n).toNat.isValidChar
  rw [hn]
  unfold Nat.isValidChar
  omega

/-- The check consumes the encoding of a character. -/
lemma isValidUtf8_char (c : Char) (rest : Text) :
    isValidUtf8 (String.utf8EncodeChar c ++ rest) = true ↔ isValidUtf8 rest = true := by
  have hc := scalar_bounds c
  rw [String.utf8EncodeChar.eq_1]
  set v := c.val.toNat
  split
  · rw [List.singleton_append, isValidUtf8_one]
    simp only [UInt8.toNat_ofNat']
    omega
  split
  · simp only [List.cons_append, List.nil_append]
    rw [isValidUtf8_two]
    · simp only [UInt8.toNat_ofNat']
      refine ⟨fun h ↦ h.2.2, fun h ↦ ⟨?_, ?_, h⟩⟩ <;> omega
    · simp only [UInt8.toNat_ofNat']
      omega
  split
  · simp only [List.cons_append, List.nil_append]
    rw [isValidUtf8_three]
    · simp only [UInt8.toNat_ofNat']
      refine ⟨fun h ↦ h.2.2.2, fun h ↦ ⟨?_, ?_, ?_, h⟩⟩ <;> omega
    · simp only [UInt8.toNat_ofNat']
      omega
  · simp only [List.cons_append, List.nil_append]
    rw [isValidUtf8_four]
    · simp only [UInt8.toNat_ofNat']
      refine ⟨fun h ↦ h.2.2.2.2, fun h ↦ ⟨?_, ?_, ?_, ?_, h⟩⟩ <;> omega
    · simp only [UInt8.toNat_ofNat']
      omega

/-- Accepted bytes begin with the encoding of a character, and the check goes on after it. -/
lemma exists_char_of_isValidUtf8 {a : UInt8} {rest : Text} (h : isValidUtf8 (a :: rest) = true) :
    ∃ (c : Char) (tail : Text), a :: rest = String.utf8EncodeChar c ++ tail ∧
      isValidUtf8 tail = true := by
  have hlead : a.toNat < 256 := a.toNat_lt
  by_cases hone : a.toNat < 128
  · rw [isValidUtf8_one hone] at h
    obtain ⟨c, hc⟩ := exists_char (n := a.toNat) (by omega) (by omega)
    refine ⟨c, rest, ?_, h⟩
    rw [String.utf8EncodeChar.eq_1, hc, if_pos (by omega), UInt8.ofNat_toNat]
    rfl
  by_cases htwo : 192 ≤ a.toNat ∧ a.toNat < 224
  · rcases rest with _ | ⟨b, rest⟩
    · rw [isValidUtf8_short (.inl ⟨htwo, by simp⟩)] at h
      cases h
    obtain ⟨hb, hlow, hrest⟩ := (isValidUtf8_two htwo b rest).1 h
    obtain ⟨c, hc⟩ := exists_char (n := a.toNat % 32 * 64 + b.toNat % 64) (by omega) (by omega)
    refine ⟨c, rest, ?_, hrest⟩
    rw [String.utf8EncodeChar.eq_1, hc, if_neg (by omega), if_pos (by omega)]
    simp only [List.cons_append, List.nil_append, List.cons.injEq, ← UInt8.toNat_inj,
      UInt8.toNat_ofNat', and_true]
    omega
  by_cases hthree : 224 ≤ a.toNat ∧ a.toNat < 240
  · rcases rest with _ | ⟨b, _ | ⟨c, rest⟩⟩
    · rw [isValidUtf8_short (.inr (.inl ⟨hthree, by simp⟩))] at h
      cases h
    · rw [isValidUtf8_short (.inr (.inl ⟨hthree, by simp⟩))] at h
      cases h
    obtain ⟨hb, hc, hrange, hrest⟩ := (isValidUtf8_three hthree b c rest).1 h
    obtain ⟨char, hchar⟩ := exists_char
      (n := ((a.toNat % 16) * 64 + b.toNat % 64) * 64 + c.toNat % 64) (by omega) (by omega)
    refine ⟨char, rest, ?_, hrest⟩
    rw [String.utf8EncodeChar.eq_1, hchar, if_neg (by omega), if_neg (by omega),
      if_pos (by omega)]
    simp only [List.cons_append, List.nil_append, List.cons.injEq, ← UInt8.toNat_inj,
      UInt8.toNat_ofNat', and_true]
    omega
  by_cases hfour : 240 ≤ a.toNat ∧ a.toNat < 248
  · rcases rest with _ | ⟨b, _ | ⟨c, _ | ⟨d, rest⟩⟩⟩
    · rw [isValidUtf8_short (.inr (.inr (.inl ⟨hfour, by simp⟩)))] at h
      cases h
    · rw [isValidUtf8_short (.inr (.inr (.inl ⟨hfour, by simp⟩)))] at h
      cases h
    · rw [isValidUtf8_short (.inr (.inr (.inl ⟨hfour, by simp⟩)))] at h
      cases h
    obtain ⟨hb, hc, hd, hrange, hrest⟩ := (isValidUtf8_four hfour b c d rest).1 h
    obtain ⟨char, hchar⟩ := exists_char
      (n := (((a.toNat % 8) * 64 + b.toNat % 64) * 64 + c.toNat % 64) * 64 + d.toNat % 64)
      (by omega) (by omega)
    refine ⟨char, rest, ?_, hrest⟩
    rw [String.utf8EncodeChar.eq_1, hchar, if_neg (by omega), if_neg (by omega),
      if_neg (by omega)]
    simp only [List.cons_append, List.nil_append, List.cons.injEq, ← UInt8.toNat_inj,
      UInt8.toNat_ofNat', and_true]
    omega
  rw [isValidUtf8_short (.inr (.inr (.inr (by omega))))] at h
  cases h

end Characters

/-- The check accepts exactly the concatenations of encodings of characters: every Unicode scalar
value, in its shortest form. -/
theorem isValidUtf8_iff (text : Text) :
    isValidUtf8 text = true ↔ ∃ cs : List Char, text = cs.flatMap String.utf8EncodeChar := by
  constructor
  · -- each encoding taken off the front leaves a shorter text
    induction hn : text.length using Nat.strong_induction_on generalizing text with
    | _ n ih =>
      intro h
      cases text with
      | nil => exact ⟨[], rfl⟩
      | cons a rest =>
        obtain ⟨c, tail, heq, htail⟩ := exists_char_of_isValidUtf8 h
        have hlt : tail.length < n := by
          rw [← hn, heq, List.length_append]
          have := String.length_utf8EncodeChar c
          have := c.utf8Size_pos
          omega
        obtain ⟨cs, hcs⟩ := ih _ hlt tail rfl htail
        exact ⟨c :: cs, by rw [heq, hcs, List.flatMap_cons]⟩
  · rintro ⟨cs, rfl⟩
    induction cs with
    | nil => exact isValidUtf8_nil
    | cons c cs ih => rwa [List.flatMap_cons, isValidUtf8_char]

end PartitionFabric
