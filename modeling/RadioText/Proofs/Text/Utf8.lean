import RadioText.Text.Utf8

/-! Text written out as bytes is read back, and only a line feed has the byte of a line feed. -/
namespace RadioText.Utf8

theorem encode_append (t more : Text) : encode (t ++ more) = encode t ++ encode more :=
  List.flatMap_append

theorem encode_cons (c : Char) (t : Text) : encode (c :: t) = String.utf8EncodeChar c ++ encode t :=
  List.flatMap_cons

/-- No surrogate, and not beyond the last character. -/
theorem toNat_char (c : Char) : c.toNat < 0xD800 ∨ 0xDFFF < c.toNat ∧ c.toNat < 0x110000 := c.valid

theorem toNat_ofNat {n : Nat} (h : n < 256) : (UInt8.ofNat n).toNat = n :=
  UInt8.toNat_ofNat_of_lt' h

theorem width_ofNat {n : Nat} (h : n < 256) :
    width (.ofNat n) = if n < 0x80 then 1 else if n < 0xC2 then 0 else if n < 0xE0 then 2
      else if n < 0xF0 then 3 else if n < 0xF5 then 4 else 0 := by
  simp [width, UInt8.lt_iff_toNat_lt, toNat_ofNat h]

theorem follows_ofNat {lead n : Nat} (hl : lead < 256) (hn : n < 256)
    (h : 0x80 ≤ n ∧ n < 0xC0) (hE0 : lead = 0xE0 → 0xA0 ≤ n) (hED : lead = 0xED → n < 0xA0)
    (hF0 : lead = 0xF0 → 0x90 ≤ n) (hF4 : lead = 0xF4 → n < 0x90) :
    follows (.ofNat lead) (.ofNat n) = true := by
  simp only [follows, continues, ← UInt8.toNat_inj, UInt8.lt_iff_toNat_lt, UInt8.le_iff_toNat_le,
    toNat_ofNat hl, toNat_ofNat hn]
  grind

def tail (n : Nat) : UInt8 := .ofNat (n % 64 + 128)

theorem continues_tail (n : Nat) : continues (tail n) = true := by
  simp only [continues, tail, UInt8.lt_iff_toNat_lt, UInt8.le_iff_toNat_le,
    toNat_ofNat (show n % 64 + 128 < 256 by omega)]
  grind

theorem low_tail (n : Nat) : low (tail n) = n % 64 := by
  rw [low, tail, toNat_ofNat (by omega)]
  omega

variable (index : Nat) (done : Text) (rest : Bytes)

theorem decodeFrom_one {a : UInt8} (h : width a = 1) :
    decodeFrom index done (a :: rest) =
      decodeFrom (index + 1) (Char.ofNat a.toNat :: done) rest := by
  rw [decodeFrom.eq_def]
  simp only [h]

theorem decodeFrom_two {a b : UInt8} (h : width a = 2) (hb : continues b = true) :
    decodeFrom index done (a :: b :: rest) =
      decodeFrom (index + 2) (Char.ofNat (a.toNat % 32 * 64 + low b) :: done) rest := by
  rw [decodeFrom.eq_def]
  simp only [h, hb, if_true]

theorem decodeFrom_three {a b c : UInt8} (h : width a = 3) (hb : follows a b = true)
    (hc : continues c = true) :
    decodeFrom index done (a :: b :: c :: rest) = decodeFrom (index + 3)
      (Char.ofNat ((a.toNat % 16 * 64 + low b) * 64 + low c) :: done) rest := by
  rw [decodeFrom.eq_def]
  simp [h, hb, hc]

theorem decodeFrom_four {a b c d : UInt8} (h : width a = 4) (hb : follows a b = true)
    (hc : continues c = true) (hd : continues d = true) :
    decodeFrom index done (a :: b :: c :: d :: rest) = decodeFrom (index + 4)
      (Char.ofNat (((a.toNat % 8 * 64 + low b) * 64 + low c) * 64 + low d) :: done) rest := by
  rw [decodeFrom.eq_def]
  simp [h, hb, hc, hd]

theorem utf8EncodeChar_eq (c : Char) :
    String.utf8EncodeChar c =
      if c.toNat ≤ 127 then [.ofNat c.toNat]
      else if c.toNat ≤ 2047 then [.ofNat (c.toNat / 64 % 32 + 192), tail c.toNat]
      else if c.toNat ≤ 65535 then
        [.ofNat (c.toNat / 4096 % 16 + 224), tail (c.toNat / 64), tail c.toNat]
      else [.ofNat (c.toNat / 262144 % 8 + 240), tail (c.toNat / 4096), tail (c.toNat / 64),
        tail c.toNat] :=
  rfl

theorem decodeFrom_char (c : Char) :
    decodeFrom index done (String.utf8EncodeChar c ++ rest) =
      decodeFrom (index + (String.utf8EncodeChar c).length) (c :: done) rest := by
  have hvalid := toNat_char c
  have hchar {n : Nat} (hn : n = c.toNat) : Char.ofNat n = c := by rw [hn, Char.ofNat_toNat]
  rw [utf8EncodeChar_eq]
  -- For each number of bytes, the six bits of every byte put the number together again.
  by_cases h1 : c.toNat ≤ 127
  · have hwidth : width (.ofNat c.toNat) = 1 := by grind [width_ofNat]
    rw [if_pos h1]
    change decodeFrom index done (_ :: rest) = _
    rw [decodeFrom_one _ _ _ hwidth, hchar (toNat_ofNat (by omega))]
    rfl
  rw [if_neg h1]
  by_cases h2 : c.toNat ≤ 2047
  · have hwidth : width (.ofNat (c.toNat / 64 % 32 + 192)) = 2 := by grind [width_ofNat]
    rw [if_pos h2]
    change decodeFrom index done (_ :: _ :: rest) = _
    rw [decodeFrom_two _ _ _ hwidth (continues_tail _), low_tail, toNat_ofNat (by omega),
      hchar (by omega)]
    rfl
  rw [if_neg h2]
  by_cases h3 : c.toNat ≤ 65535
  · have hwidth : width (.ofNat (c.toNat / 4096 % 16 + 224)) = 3 := by grind [width_ofNat]
    have hfollows : follows (.ofNat (c.toNat / 4096 % 16 + 224)) (tail (c.toNat / 64)) = true :=
      follows_ofNat (by omega) (by omega) (by omega) (by omega) (by omega) (by omega) (by omega)
    rw [if_pos h3]
    change decodeFrom index done (_ :: _ :: _ :: rest) = _
    rw [decodeFrom_three _ _ _ hwidth hfollows (continues_tail _), low_tail, low_tail,
      toNat_ofNat (by omega), hchar (by omega)]
    rfl
  · have hwidth : width (.ofNat (c.toNat / 262144 % 8 + 240)) = 4 := by grind [width_ofNat]
    have hfollows : follows (.ofNat (c.toNat / 262144 % 8 + 240)) (tail (c.toNat / 4096)) = true :=
      follows_ofNat (by omega) (by omega) (by omega) (by omega) (by omega) (by omega) (by omega)
    rw [if_neg h3]
    change decodeFrom index done (_ :: _ :: _ :: _ :: rest) = _
    rw [decodeFrom_four _ _ _ hwidth hfollows (continues_tail _) (continues_tail _), low_tail,
      low_tail, low_tail, toNat_ofNat (by omega), hchar (by omega)]
    rfl

theorem decodeFrom_encode (t : Text) (index : Nat) (done : Text) :
    decodeFrom index done (encode t) = .ok (done.reverse ++ t) := by
  induction t generalizing index done with
  | nil =>
    rw [List.append_nil]
    rfl
  | cons c t ih => rw [encode_cons, decodeFrom_char, ih, List.reverse_cons, List.append_assoc]; rfl

theorem decode_encode (t : Text) : decode (encode t) = .ok t := decodeFrom_encode t 0 []

/-- All bytes of a character that takes more than one are beyond those of the single ones. -/
theorem ne_lineFeed_of_mem_char {c : Char} (h : c ≠ '\n') :
    ∀ b ∈ String.utf8EncodeChar c, b ≠ 10 := by
  have hbyte {n : Nat} (hn : n < 256) (hne : n ≠ 10) : UInt8.ofNat n ≠ 10 := by
    intro heq
    have hnat := congrArg UInt8.toNat heq
    rw [toNat_ofNat hn] at hnat
    exact hne hnat
  have htail (n : Nat) : tail n ≠ 10 := hbyte (by omega) (by omega)
  have hfirst : c.toNat ≠ 10 := fun heq => h (Char.ext (UInt32.toNat_inj.1 heq))
  rw [utf8EncodeChar_eq]
  split
  · exact List.forall_mem_singleton.2 (hbyte (by omega) hfirst)
  split
  · exact List.forall_mem_cons.2 ⟨hbyte (by omega) (by omega),
      List.forall_mem_singleton.2 (htail _)⟩
  split
  · exact List.forall_mem_cons.2 ⟨hbyte (by omega) (by omega),
      List.forall_mem_cons.2 ⟨htail _, List.forall_mem_singleton.2 (htail _)⟩⟩
  · exact List.forall_mem_cons.2 ⟨hbyte (by omega) (by omega), List.forall_mem_cons.2 ⟨htail _,
      List.forall_mem_cons.2 ⟨htail _, List.forall_mem_singleton.2 (htail _)⟩⟩⟩

theorem ne_lineFeed_of_mem_encode {t : Text} (h : '\n' ∉ t) : ∀ b ∈ encode t, b ≠ 10 := by
  intro b hb
  obtain ⟨c, hc, hbc⟩ := List.mem_flatMap.1 hb
  exact ne_lineFeed_of_mem_char (ne_of_mem_of_not_mem hc h) b hbc

end RadioText.Utf8
