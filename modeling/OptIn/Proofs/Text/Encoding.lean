import Mathlib.Tactic.SplitIfs
import OptIn.Text.Utf8

/-!
# Laws of reading UTF-8

Every text is read back from its own bytes (`decode_encode`). What the bytes up to a line feed hold
does not depend on those behind it (`decode_append`): a line feed is never taken for a part of a
longer character, so none can stand open behind it.
-/

namespace OptIn.Text.Utf8

/-! ### Behind a line feed -/

/-- A character that stands open **waits** for a byte that is not one of ASCII. -/
def Open.Waits (o : Open) : Prop := 0x80 ≤ o.low.toNat

theorem waits_of_start {b : UInt8} {o : Open} (h : (start b).2 = some o) : o.Waits := by
  simp only [start] at h
  split_ifs at h <;> simp only [Option.some.injEq] at h <;> subst h <;>
    simp [Open.Waits]

theorem waits_of_step {p : Option Open} {b : UInt8} {o : Open}
    (h : (step p b).2 = some o) : o.Waits := by
  cases p with
  | none => exact waits_of_start h
  | some q =>
    simp only [step] at h
    split_ifs at h
    · simp only [Option.some.injEq] at h
      subst h
      simp [Open.Waits]
    · exact waits_of_start h

/-- A line feed is read as one, whatever stands open before it, and nothing stands open behind. -/
theorem step_newline {p : Option Open} (hp : ∀ o ∈ p, o.Waits) :
    step p 0x0A = (decodeFrom p [] ++ ['\n'], none) := by
  have hstart : start 0x0A = (['\n'], none) := by decide
  cases p with
  | none => exact hstart
  | some o =>
    have hlow : ¬o.low ≤ 0x0A := by
      have hwaits : 0x80 ≤ o.low.toNat := hp o rfl
      rw [UInt8.le_iff_toNat_le]
      have hbyte : (0x0A : UInt8).toNat = 10 := rfl
      omega
    simp only [step]
    rw [if_neg fun h => hlow h.1, hstart]
    rfl

theorem decodeFrom_append {p : Option Open} (hp : ∀ o ∈ p, o.Waits) (bs rest : List UInt8) :
    decodeFrom p (bs ++ 0x0A :: rest) = decodeFrom p bs ++ '\n' :: decodeFrom none rest := by
  -- the induction is on the bytes before the line feed; what stands open waits all along
  induction bs generalizing p with
  | nil =>
    rw [List.nil_append, decodeFrom, step_newline hp, List.append_assoc]
    rfl
  | cons b bs ih =>
    rw [List.cons_append, decodeFrom, ih fun o ho => waits_of_step ho, decodeFrom,
      List.append_assoc]

/-- The bytes up to a line feed are read on their own, and so are those behind it. -/
theorem decode_append (bs rest : List UInt8) :
    decode (bs ++ 0x0A :: rest) = decode bs ++ '\n' :: decode rest :=
  decodeFrom_append (by simp) bs rest

/-! ### Reading what was written -/

theorem toNat_ofNat_of_lt {n : Nat} (hn : n < 256) : (UInt8.ofNat n).toNat = n :=
  Nat.mod_eq_of_lt hn

/-- A byte lies between two others when its number does. -/
theorem ofNat_between {n : Nat} {low high : UInt8} (hlow : low.toNat ≤ n)
    (hhigh : n ≤ high.toNat) :
    (UInt8.ofNat n).toNat = n ∧ low ≤ UInt8.ofNat n ∧ UInt8.ofNat n ≤ high := by
  have hn : (UInt8.ofNat n).toNat = n := toNat_ofNat_of_lt (Nat.lt_of_le_of_lt hhigh high.toNat_lt)
  rw [UInt8.le_iff_toNat_le, UInt8.le_iff_toNat_le, hn]
  exact ⟨rfl, hlow, hhigh⟩

/-- The last byte of a character. -/
theorem decodeFrom_last {bits n : Nat} {low high : UInt8} (hlow : low.toNat ≤ n)
    (hhigh : n ≤ high.toNat) (bs : List UInt8) :
    decodeFrom (some ⟨bits, 1, low, high⟩) (UInt8.ofNat n :: bs) =
      Char.ofNat (bits * 64 + (n - 0x80)) :: decodeFrom none bs := by
  obtain ⟨hn, hin⟩ := ofNat_between hlow hhigh
  simp only [decodeFrom, step, if_pos hin, hn, Nat.le_refl, if_true, List.singleton_append]

/-- A byte in the middle of a character. -/
theorem decodeFrom_middle {bits missing n : Nat} {low high : UInt8} (hlow : low.toNat ≤ n)
    (hhigh : n ≤ high.toNat) (hmissing : 1 < missing) (bs : List UInt8) :
    decodeFrom (some ⟨bits, missing, low, high⟩) (UInt8.ofNat n :: bs) =
      decodeFrom (some ⟨bits * 64 + (n - 0x80), missing - 1, 0x80, 0xBF⟩) bs := by
  obtain ⟨hn, hin⟩ := ofNat_between hlow hhigh
  simp only [decodeFrom, step, if_pos hin, hn, if_neg (Nat.not_le.mpr hmissing),
    List.nil_append]

/-- The first byte of a longer character. -/
theorem decodeFrom_first {n : Nat} {o : Open} (h : start (UInt8.ofNat n) = ([], some o))
    (bs : List UInt8) : decodeFrom none (UInt8.ofNat n :: bs) = decodeFrom (some o) bs := by
  simp only [decodeFrom, step, h, List.nil_append]

/-- The bytes behind the first one of a character, by six of its bits. -/
theorem tail_bounds (n : Nat) :
    (0x80 : UInt8).toNat ≤ n % 64 + 128 ∧ n % 64 + 128 ≤ (0xBF : UInt8).toNat := by
  simp only [UInt8.reduceToNat]
  omega

/-- The first of two bytes. -/
theorem start_of_two {v : Nat} (hlow : 0x80 ≤ v) (hhigh : v < 0x800) :
    start (UInt8.ofNat (v / 64 % 32 + 192)) = ([], some ⟨v / 64, 1, 0x80, 0xBF⟩) := by
  rw [start, toNat_ofNat_of_lt (by omega), if_neg (by omega), if_pos (by omega),
    show v / 64 % 32 + 192 - 0xC0 = v / 64 by omega]

/-- The first of three bytes. The range of the second one leaves out what fits in two bytes, and the
surrogates. -/
theorem exists_start_of_three {v : Nat} (hlow : 0x800 ≤ v) (hhigh : v < 0x10000)
    (hvalid : v < 0xD800 ∨ 0xDFFF < v) :
    ∃ low high : UInt8, low.toNat ≤ v / 64 % 64 + 128 ∧ v / 64 % 64 + 128 ≤ high.toNat ∧
      start (UInt8.ofNat (v / 4096 % 16 + 224)) = ([], some ⟨v / 4096, 2, low, high⟩) := by
  by_cases hleast : v / 4096 = 0
  · refine ⟨0xA0, 0xBF, ?_, (tail_bounds _).2, ?_⟩
    · simp only [UInt8.reduceToNat]
      omega
    · rw [start, toNat_ofNat_of_lt (by omega), if_neg (by omega), if_neg (by omega),
        if_pos (by omega), hleast]
  by_cases hsurrogate : v / 4096 = 13
  · refine ⟨0x80, 0x9F, (tail_bounds _).1, ?_, ?_⟩
    · simp only [UInt8.reduceToNat]
      omega
    · rw [start, toNat_ofNat_of_lt (by omega), if_neg (by omega), if_neg (by omega),
        if_neg (by omega), if_pos (by omega), hsurrogate]
  · refine ⟨0x80, 0xBF, (tail_bounds _).1, (tail_bounds _).2, ?_⟩
    rw [start, toNat_ofNat_of_lt (by omega), if_neg (by omega), if_neg (by omega),
      if_neg (by omega), if_neg (by omega), if_pos (by omega),
      show v / 4096 % 16 + 224 - 0xE0 = v / 4096 by omega]

/-- The first of four bytes. The range of the second one leaves out what fits in three bytes, and
what is no character. -/
theorem exists_start_of_four {v : Nat} (hlow : 0x10000 ≤ v) (hhigh : v < 0x110000) :
    ∃ low high : UInt8, low.toNat ≤ v / 4096 % 64 + 128 ∧ v / 4096 % 64 + 128 ≤ high.toNat ∧
      start (UInt8.ofNat (v / 262144 % 8 + 240)) = ([], some ⟨v / 262144, 3, low, high⟩) := by
  by_cases hleast : v / 262144 = 0
  · refine ⟨0x90, 0xBF, ?_, (tail_bounds _).2, ?_⟩
    · simp only [UInt8.reduceToNat]
      omega
    · rw [start, toNat_ofNat_of_lt (by omega), if_neg (by omega), if_neg (by omega),
        if_neg (by omega), if_neg (by omega), if_neg (by omega), if_pos (by omega), hleast]
  by_cases hgreatest : v / 262144 = 4
  · refine ⟨0x80, 0x8F, (tail_bounds _).1, ?_, ?_⟩
    · simp only [UInt8.reduceToNat]
      omega
    · rw [start, toNat_ofNat_of_lt (by omega), if_neg (by omega), if_neg (by omega),
        if_neg (by omega), if_neg (by omega), if_neg (by omega), if_neg (by omega),
        if_neg (by omega), if_pos (by omega), hgreatest]
  · refine ⟨0x80, 0xBF, (tail_bounds _).1, (tail_bounds _).2, ?_⟩
    rw [start, toNat_ofNat_of_lt (by omega), if_neg (by omega), if_neg (by omega),
      if_neg (by omega), if_neg (by omega), if_neg (by omega), if_neg (by omega),
      if_pos (by omega), show v / 262144 % 8 + 240 - 0xF0 = v / 262144 by omega]

/-- A character is read back from its own bytes, whatever stands behind them. -/
theorem decode_utf8EncodeChar_append (c : Char) (bs : List UInt8) :
    decode (String.utf8EncodeChar c ++ bs) = c :: decode bs := by
  have hvalid := c.valid
  have hc : Char.ofNat c.val.toNat = c := Char.ofNat_toNat c
  simp only [UInt32.isValidChar, Nat.isValidChar] at hvalid
  simp only [decode, String.utf8EncodeChar]
  generalize c.val.toNat = v at hvalid hc ⊢
  -- one case for each number of bytes; the tail bytes carry six bits each, and `omega` knows that
  -- the bits taken apart are the number of the character again
  split_ifs with hone htwo hthree
  · rw [List.singleton_append, decodeFrom, step, start, toNat_ofNat_of_lt (by omega),
      if_pos (by omega), hc]
    rfl
  · have hbits : v / 64 * 64 + (v % 64 + 128 - 128) = v := by omega
    rw [List.cons_append, decodeFrom_first (start_of_two (by omega) (by omega)),
      List.singleton_append, decodeFrom_last (tail_bounds v).1 (tail_bounds v).2, hbits, hc]
  · obtain ⟨low, high, hlow, hhigh, hfirst⟩ :=
      exists_start_of_three (v := v) (by omega) (by omega) (by omega)
    have hbits : (v / 4096 * 64 + (v / 64 % 64 + 128 - 128)) * 64 + (v % 64 + 128 - 128) = v := by
      omega
    rw [List.cons_append, decodeFrom_first hfirst, List.cons_append,
      decodeFrom_middle hlow hhigh (by decide), List.singleton_append,
      decodeFrom_last (tail_bounds v).1 (tail_bounds v).2, hbits, hc]
  · obtain ⟨low, high, hlow, hhigh, hfirst⟩ :=
      exists_start_of_four (v := v) (by omega) (by omega)
    have hbits : ((v / 262144 * 64 + (v / 4096 % 64 + 128 - 128)) * 64 +
        (v / 64 % 64 + 128 - 128)) * 64 + (v % 64 + 128 - 128) = v := by omega
    rw [List.cons_append, decodeFrom_first hfirst, List.cons_append,
      decodeFrom_middle hlow hhigh (by decide), List.cons_append,
      decodeFrom_middle (tail_bounds _).1 (tail_bounds _).2 (by decide), List.singleton_append,
      decodeFrom_last (tail_bounds v).1 (tail_bounds v).2, hbits, hc]

/-- Every text is read back from its own bytes, whatever stands behind them. -/
theorem decode_encode_append (cs : List Char) (bs : List UInt8) :
    decode (encode cs ++ bs) = cs ++ decode bs := by
  induction cs with
  | nil => rfl
  | cons c cs ih =>
    rw [encode, List.flatMap_cons, List.append_assoc, decode_utf8EncodeChar_append, ← encode, ih,
      List.cons_append]

/-- Every text is read back from its own bytes. -/
theorem decode_encode (cs : List Char) : decode (encode cs) = cs := by
  have hread := decode_encode_append cs []
  have hnone : decode [] = [] := rfl
  rwa [hnone, List.append_nil, List.append_nil] at hread

end OptIn.Text.Utf8
