import CompilationDatabase.Text.Utf8
import Mathlib.Data.List.Basic

/-!
# UTF-8 — every text is read back

`decode_encode` says that the octets of a text are read as that text, and `decodeMarked_encode` that
a byte order mark in front makes no difference. Without the mark a text must not start with that
character itself.

A text is read character by character, so one lemma carries the induction: the octets of a character
are read as that character wherever they stand (`exists_decodeFrom_encodeChar`). Its four cases are the
four lengths. What `decodeFrom` asks of an octet is turned into a bound on the code, and the bounds
follow from the length of the character; only for three octets it matters that a character is no
surrogate.
-/

namespace CompilationDatabase.Text.Utf8

variable {n k : Nat}

theorem toNat_toUInt8 (h : n < 256) : n.toUInt8.toNat = n := by
  simp [Nat.mod_eq_of_lt h]

theorem toUInt8_lt (h : n < 256) (b : UInt8) : n.toUInt8 < b ↔ n < b.toNat := by
  rw [UInt8.lt_iff_toNat_lt, toNat_toUInt8 h]

theorem le_toUInt8 (h : n < 256) (b : UInt8) : b ≤ n.toUInt8 ↔ b.toNat ≤ n := by
  rw [UInt8.le_iff_toNat_le, toNat_toUInt8 h]

theorem toUInt8_eq (h : n < 256) (b : UInt8) : n.toUInt8 = b ↔ n = b.toNat := by
  rw [← UInt8.toNat_inj, toNat_toUInt8 h]

/-! ## Octets after the first -/

theorem continues_tail (h : k < 64) : continues (0x80 + k).toUInt8 = true := by
  rw [continues, Bool.and_eq_true, decide_eq_true_eq, decide_eq_true_eq]
  rw [le_toUInt8 (by omega), toUInt8_lt (by omega)]
  constructor
  · show 128 ≤ 128 + k
    omega
  · show 128 + k < 192
    omega

theorem secondOfThree_tail (hlow : 0x800 ≤ n) (hhigh : n < 0x10000)
    (hscalar : n < 0xD800 ∨ 0xDFFF < n) :
    secondOfThree (0xE0 + n / 4096).toUInt8 (0x80 + n / 64 % 64).toUInt8 = true := by
  have ha : 0xE0 + n / 4096 < 256 := by omega
  have hb : 0x80 + n / 64 % 64 < 256 := by omega
  simp only [secondOfThree, continues_tail (Nat.mod_lt _ (by decide)), Bool.true_and,
    Bool.and_eq_true, Bool.not_eq_true', Bool.and_eq_false_iff, beq_eq_false_iff_ne,
    decide_eq_false_iff_not, ne_eq, toUInt8_eq ha, toUInt8_lt hb, le_toUInt8 hb]
  show (¬ 224 + n / 4096 = 224 ∨ ¬ 128 + n / 64 % 64 < 160)
    ∧ (¬ 224 + n / 4096 = 237 ∨ ¬ 160 ≤ 128 + n / 64 % 64)
  omega

theorem secondOfFour_tail (hlow : 0x10000 ≤ n) (hhigh : n < 0x110000) :
    secondOfFour (0xF0 + n / 262144).toUInt8 (0x80 + n / 4096 % 64).toUInt8 = true := by
  have ha : 0xF0 + n / 262144 < 256 := by omega
  have hb : 0x80 + n / 4096 % 64 < 256 := by omega
  simp only [secondOfFour, continues_tail (Nat.mod_lt _ (by decide)), Bool.true_and,
    Bool.and_eq_true, Bool.not_eq_true', Bool.and_eq_false_iff, beq_eq_false_iff_ne,
    decide_eq_false_iff_not, ne_eq, toUInt8_eq ha, toUInt8_lt hb, le_toUInt8 hb]
  show (¬ 240 + n / 262144 = 240 ∨ ¬ 128 + n / 4096 % 64 < 144)
    ∧ (¬ 240 + n / 262144 = 244 ∨ ¬ 144 ≤ 128 + n / 4096 % 64)
  omega

theorem tail_value (h : k < 64) : (0x80 + k).toUInt8.toNat - 0x80 = k := by
  rw [toNat_toUInt8 (by omega)]
  omega

/-! ## Characters -/

theorem decodeFrom_one (hn : n < 0x80) (position : Nat) (rest : List UInt8) :
    decodeFrom position (n.toUInt8 :: rest) = (Char.ofNat n :: ·) <$> decodeFrom (position + 1) rest := by
  have ha : n < 256 := by omega
  rw [decodeFrom.eq_def]
  dsimp only
  rw [if_pos ((toUInt8_lt ha 0x80).mpr hn), toNat_toUInt8 ha]

theorem decodeFrom_two (hlow : 0x80 ≤ n) (hhigh : n < 0x800) (position : Nat) (rest : List UInt8) :
    decodeFrom position ((0xC0 + n / 64).toUInt8 :: (0x80 + n % 64).toUInt8 :: rest)
      = (Char.ofNat n :: ·) <$> decodeFrom (position + 2) rest := by
  have ha : 0xC0 + n / 64 < 256 := by omega
  have hb : n % 64 < 64 := Nat.mod_lt _ (by decide)
  have hvalue : assemble ((0xC0 + n / 64).toUInt8.toNat - 0xC0) [(0x80 + n % 64).toUInt8]
      = Char.ofNat n := by
    simp only [assemble, List.foldl_cons, List.foldl_nil, toNat_toUInt8 ha, tail_value hb]
    congr 1
    omega
  rw [decodeFrom.eq_def]
  simp only [toUInt8_lt ha, continues_tail hb, if_true, hvalue]
  rw [if_neg, if_neg, if_pos]
  · show 192 + n / 64 < 224
    omega
  · show ¬ 192 + n / 64 < 194
    omega
  · show ¬ 192 + n / 64 < 128
    omega

theorem decodeFrom_three (hlow : 0x800 ≤ n) (hhigh : n < 0x10000)
    (hscalar : n < 0xD800 ∨ 0xDFFF < n) (position : Nat) (rest : List UInt8) :
    decodeFrom position ((0xE0 + n / 4096).toUInt8 :: (0x80 + n / 64 % 64).toUInt8
        :: (0x80 + n % 64).toUInt8 :: rest)
      = (Char.ofNat n :: ·) <$> decodeFrom (position + 3) rest := by
  have ha : 0xE0 + n / 4096 < 256 := by omega
  have hb : n / 64 % 64 < 64 := Nat.mod_lt _ (by decide)
  have hc : n % 64 < 64 := Nat.mod_lt _ (by decide)
  have hvalue : assemble ((0xE0 + n / 4096).toUInt8.toNat - 0xE0)
      [(0x80 + n / 64 % 64).toUInt8, (0x80 + n % 64).toUInt8] = Char.ofNat n := by
    simp only [assemble, List.foldl_cons, List.foldl_nil, toNat_toUInt8 ha, tail_value hb, tail_value hc]
    congr 1
    omega
  rw [decodeFrom.eq_def]
  simp only [toUInt8_lt ha, secondOfThree_tail hlow hhigh hscalar, continues_tail hc, if_true, hvalue]
  rw [if_neg, if_neg, if_neg, if_pos]
  · show 224 + n / 4096 < 240
    omega
  · show ¬ 224 + n / 4096 < 224
    omega
  · show ¬ 224 + n / 4096 < 194
    omega
  · show ¬ 224 + n / 4096 < 128
    omega

theorem decodeFrom_four (hlow : 0x10000 ≤ n) (hhigh : n < 0x110000) (position : Nat)
    (rest : List UInt8) :
    decodeFrom position ((0xF0 + n / 262144).toUInt8 :: (0x80 + n / 4096 % 64).toUInt8
        :: (0x80 + n / 64 % 64).toUInt8 :: (0x80 + n % 64).toUInt8 :: rest)
      = (Char.ofNat n :: ·) <$> decodeFrom (position + 4) rest := by
  have ha : 0xF0 + n / 262144 < 256 := by omega
  have hb : n / 4096 % 64 < 64 := Nat.mod_lt _ (by decide)
  have hc : n / 64 % 64 < 64 := Nat.mod_lt _ (by decide)
  have hd : n % 64 < 64 := Nat.mod_lt _ (by decide)
  have hvalue : assemble ((0xF0 + n / 262144).toUInt8.toNat - 0xF0)
      [(0x80 + n / 4096 % 64).toUInt8, (0x80 + n / 64 % 64).toUInt8, (0x80 + n % 64).toUInt8]
        = Char.ofNat n := by
    simp only [assemble, List.foldl_cons, List.foldl_nil, toNat_toUInt8 ha, tail_value hb,
      tail_value hc, tail_value hd]
    congr 1
    omega
  rw [decodeFrom]
  simp only [toUInt8_lt ha, secondOfFour_tail hlow hhigh, continues_tail hc, continues_tail hd,
    if_true, hvalue]
  rw [if_neg, if_neg, if_neg, if_neg, if_pos]
  · show 240 + n / 262144 < 245
    omega
  · show ¬ 240 + n / 262144 < 240
    omega
  · show ¬ 240 + n / 262144 < 224
    omega
  · show ¬ 240 + n / 262144 < 194
    omega
  · show ¬ 240 + n / 262144 < 128
    omega

/-- Wherever the octets of a character stand, they are read as that character. -/
theorem exists_decodeFrom_encodeChar (c : Char) (position : Nat) (rest : List UInt8) :
    ∃ next, decodeFrom position (encodeChar c ++ rest) = (c :: ·) <$> decodeFrom next rest := by
  have hscalar : c.toNat < 0xD800 ∨ 0xDFFF < c.toNat ∧ c.toNat < 0x110000 := c.valid
  have hchar : Char.ofNat c.toNat = c := Char.ofNat_toNat c
  rw [encodeChar]
  generalize c.toNat = n at hscalar hchar
  subst hchar
  by_cases h1 : n < 0x80
  · exact ⟨_, by simpa only [List.cons_append, List.nil_append, if_pos h1] using
      decodeFrom_one h1 position rest⟩
  by_cases h2 : n < 0x800
  · exact ⟨_, by simpa only [List.cons_append, List.nil_append, if_neg h1, if_pos h2] using
      decodeFrom_two (Nat.le_of_not_lt h1) h2 position rest⟩
  by_cases h3 : n < 0x10000
  · exact ⟨_, by simpa only [List.cons_append, List.nil_append, if_neg h1, if_neg h2, if_pos h3] using
      decodeFrom_three (Nat.le_of_not_lt h2) h3 (by omega) position rest⟩
  · exact ⟨_, by simpa only [List.cons_append, List.nil_append, if_neg h1, if_neg h2, if_neg h3] using
      decodeFrom_four (Nat.le_of_not_lt h3) (by omega) position rest⟩

theorem decodeFrom_encode (t : Text) (position : Nat) : decodeFrom position (encode t) = .ok t := by
  induction t generalizing position with
  | nil => rfl
  | cons c t ih =>
      obtain ⟨next, hnext⟩ := exists_decodeFrom_encodeChar c position (encode t)
      have hencode : encode (c :: t) = encodeChar c ++ encode t := List.flatMap_cons
      rw [hencode, hnext, ih]
      rfl

theorem decode_encode (t : Text) : decode (encode t) = .ok t := decodeFrom_encode t 0

/-! ## The byte order mark -/

/-- The character whose octets are the mark. -/
def markChar : Char := '\uFEFF'

theorem isPrefixOf?_mark (octets : List UInt8) :
    mark.isPrefixOf? (mark ++ octets) = some octets := by
  simp [mark, List.isPrefixOf?]

/-- The octets after a mark are read without it. -/
theorem decodeMarked_mark (octets : List UInt8) : decodeMarked (mark ++ octets) = decode octets := by
  have hlong : ¬ (mark ++ octets).length < mark.length := by simp
  rw [decodeMarked, isPrefixOf?_mark]
  simp only [hlong, decide_false, Bool.false_and, Bool.false_eq_true, if_false, Option.getD_some]

/-- The octets of a text that does not start with the character of the mark do not start as the mark
    does. -/
theorem encode_ne_mark {t : Text} (h : t.head? ≠ some markChar) (octets : List UInt8) :
    encode t ≠ mark ++ octets := by
  intro heq
  obtain ⟨next, hnext⟩ := exists_decodeFrom_encodeChar markChar 0 octets
  have hread := decode_encode t
  rw [heq, decode] at hread
  have hmark : encodeChar markChar = mark := rfl
  rw [← hmark, hnext] at hread
  cases hrest : decodeFrom next octets with
  | error e =>
      rw [hrest] at hread
      exact nomatch hread
  | ok rest =>
      rw [hrest] at hread
      cases hread
      exact h rfl

/-- The octets of a text are no start of a mark, unless there are none. -/
theorem eq_nil_of_start {t : Text} (hstart : encode t <+: mark)
    (hshort : (encode t).length < mark.length) : t = [] := by
  have hread := decode_encode t
  obtain ⟨rest, hrest⟩ := hstart
  generalize encode t = octets at hread hshort hrest
  match octets, hread, hrest with
  | [], hread, _ => exact (Except.ok.inj hread).symm
  | [a], hread, hrest =>
      have heq : a :: rest = [0xEF, 0xBB, 0xBF] := hrest
      cases heq
      exact nomatch hread
  | [a, b], hread, hrest =>
      have heq : a :: b :: rest = [0xEF, 0xBB, 0xBF] := hrest
      cases heq
      exact nomatch hread
  | _ :: _ :: _ :: _, _, _ => exact absurd hshort (by simp [mark])

/-- A text that does not start with a mark itself is read, with a mark in front or without. -/
theorem decodeMarked_encode {t : Text} (h : t.head? ≠ some markChar) (marked : Bool) :
    decodeMarked ((if marked then mark else []) ++ encode t) = .ok t := by
  cases marked with
  | true => exact (decodeMarked_mark _).trans (decode_encode t)
  | false =>
      show decodeMarked (encode t) = .ok t
      have hnone : mark.isPrefixOf? (encode t) = none := by
        cases hrest : mark.isPrefixOf? (encode t) with
        | none => rfl
        | some octets =>
            have heq := List.isPrefixOf?_eq_some_iff_append_eq.mp hrest
            exact absurd heq.symm (encode_ne_mark h octets)
      rw [decodeMarked, hnone, Option.getD_none, decode_encode]
      split
      · rename_i hstart
        rw [Bool.and_eq_true, decide_eq_true_eq, List.isPrefixOf_iff_prefix] at hstart
        rw [eq_nil_of_start hstart.2 hstart.1]
      · rfl

end CompilationDatabase.Text.Utf8
