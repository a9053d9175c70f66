import CompilationDatabase.Template
import Mathlib.Data.List.Infix

/-!
# Symbols — where a marker starts in a text

`Marker.symbols` looks for the marker from left to right. This file says what it finds in terms of
prefixes and infixes of the text alone.

* `Marker.Apart` holds of a marker that overlaps neither itself nor a closing; `$(` and `%(` do.
* `symbols_marker` and `symbols_cons` are the two ways a text starts; `not_prefix_append` says where a
  text can be cut without a marker across the cut.
* `opening_mem_symbols` says that an opening is found exactly if the marker occurs, and
  `flatMap_symbols` that symbols are written as the text they were read from.
-/

namespace CompilationDatabase

/-- A marker that cannot overlap itself, nor a closing. -/
structure Marker.Apart (m : Marker) : Prop where
  head  : m.head ∉ m.tail
  close : ')' ∉ m.text

theorem Marker.macros_apart : Marker.macros.Apart := ⟨by decide, by decide⟩

theorem Marker.metadata_apart : Marker.metadata.Apart := ⟨by decide, by decide⟩

/-- The symbol of a character at which no marker starts. -/
def Symbol.ofChar (c : Char) : Symbol := if c = ')' then .closing else .char c

theorem Symbol.text_ofChar (m : Marker) (c : Char) : (Symbol.ofChar c).text m = [c] := by
  rw [Symbol.ofChar]
  by_cases h : c = ')'
  · rw [if_pos h, h]; rfl
  · rw [if_neg h]; rfl

theorem Symbol.ofChar_ne_opening (c : Char) : Symbol.ofChar c ≠ .opening := by
  rw [Symbol.ofChar]
  split <;> exact nofun

namespace Marker

variable {m : Marker}

/-- The test that `symbolsAfter` makes is whether the text starts with the marker. -/
theorem starts_iff {c : Char} {cs : Text} :
    (c = m.head ∧ m.tail.isPrefixOf cs = true) ↔ m.text <+: c :: cs := by
  rw [List.isPrefixOf_iff_prefix, text, List.cons_prefix_cons]
  exact and_congr_left fun _ => eq_comm

/-- A marker has characters. -/
theorem length_lt_append (m : Marker) (t : Text) : t.length < (m.text ++ t).length := by
  rw [List.length_append]
  exact Nat.lt_add_of_pos_left (Nat.succ_pos _)

/-- Characters that are passed over leave the symbols of what follows them. -/
theorem symbolsAfter_append (s t : Text) : m.symbolsAfter s.length (s ++ t) = m.symbols t := by
  induction s with
  | nil => rfl
  | cons c s ih => exact ih

/-- A marker at the start of a text is an opening. -/
theorem symbols_marker (t : Text) : m.symbols (m.text ++ t) = .opening :: m.symbols t := by
  show m.symbolsAfter 0 (m.head :: (m.tail ++ t)) = _
  have h : m.head = m.head ∧ m.tail.isPrefixOf (m.tail ++ t) = true :=
    ⟨rfl, List.isPrefixOf_iff_prefix.mpr (List.prefix_append _ _)⟩
  rw [symbolsAfter, if_pos h, symbolsAfter_append]

/-- A character at which no marker starts is a symbol of its own. -/
theorem symbols_cons {c : Char} {cs : Text} (h : ¬ m.text <+: c :: cs) :
    m.symbols (c :: cs) = Symbol.ofChar c :: m.symbols cs := by
  show m.symbolsAfter 0 (c :: cs) = _
  rw [symbolsAfter, if_neg fun hs => h (starts_iff.mp hs)]
  rfl

/-- No marker starts before a cut and ends after it, if what follows the cut starts with a character
    that is not in the marker's tail. -/
theorem not_prefix_append {c x : Char} {l t : Text} (hx : x ∉ m.tail) (h : ¬ m.text <+: c :: l) :
    ¬ m.text <+: c :: (l ++ x :: t) := by
  intro hm
  rcases List.prefix_or_prefix_of_prefix hm (List.prefix_append (c :: l) (x :: t)) with hl | hl
  · exact h hl
  · obtain ⟨s, hs⟩ := hl
    obtain ⟨r, hr⟩ := hm
    rw [← hs, List.append_assoc, ← List.cons_append] at hr
    have hs' : s ++ r = x :: t := List.append_cancel_left hr
    cases s with
    | nil => exact h (by rw [← hs, List.append_nil])
    | cons y s =>
        obtain rfl : y = x := List.head_eq_of_cons_eq hs'
        -- the marker reaches past the cut, so what stands there is in its tail
        have htail : m.tail = l ++ y :: s := (List.cons.inj hs).2.symm
        exact hx (htail ▸ List.mem_append_right _ List.mem_cons_self)

/-- Symbols are written as the text that they were read from, less the characters passed over. -/
theorem flatMap_symbolsAfter (skip : Nat) (t : Text) :
    (m.symbolsAfter skip t).flatMap (·.text m) = t.drop skip := by
  induction t generalizing skip with
  | nil => cases skip <;> rfl
  | cons c cs ih =>
      cases skip with
      | succ skip => exact ih skip
      | zero =>
          by_cases h : c = m.head ∧ m.tail.isPrefixOf cs = true
          · rw [symbolsAfter, if_pos h, List.flatMap_cons, ih]
            obtain ⟨rest, rfl⟩ := List.isPrefixOf_iff_prefix.mp h.2
            show m.head :: m.tail ++ _ = _
            rw [List.drop_left, h.1]
            rfl
          · rw [symbolsAfter, if_neg h, List.flatMap_cons, ih]
            exact congrArg (· ++ cs) (Symbol.text_ofChar m c)

/-- Symbols are written as the text that they were read from. -/
theorem flatMap_symbols (t : Text) : (m.symbols t).flatMap (·.text m) = t :=
  flatMap_symbolsAfter 0 t

/-- Where symbols hold an opening, the marker occurs in the text. -/
theorem infix_of_opening_mem {skip : Nat} {t : Text} (h : .opening ∈ m.symbolsAfter skip t) :
    m.text <:+: t := by
  induction t generalizing skip with
  | nil => cases skip <;> exact nomatch h
  | cons c cs ih =>
      cases skip with
      | succ skip => exact (ih h).trans (List.suffix_cons c cs).isInfix
      | zero =>
          by_cases hs : c = m.head ∧ m.tail.isPrefixOf cs = true
          · exact (starts_iff.mp hs).isInfix
          · rw [symbolsAfter, if_neg hs] at h
            rcases List.mem_cons.mp h with hc | hcs
            · exact absurd hc.symm (Symbol.ofChar_ne_opening c)
            · exact (ih hcs).trans (List.suffix_cons c cs).isInfix

/-- An opening is found exactly if the marker occurs. -/
theorem opening_mem_symbols {t : Text} : .opening ∈ m.symbols t ↔ m.text <:+: t := by
  constructor
  · exact infix_of_opening_mem
  · intro h
    induction t with
    | nil => exact nomatch List.infix_nil.mp h
    | cons c cs ih =>
        by_cases hs : m.text <+: c :: cs
        · obtain ⟨rest, hrest⟩ := hs
          rw [← hrest, symbols_marker]
          exact List.mem_cons_self
        · rw [symbols_cons hs]
          refine List.mem_cons_of_mem _ (ih ?_)
          exact (List.infix_cons_iff.mp h).resolve_left hs

/-- A text in which the marker does not occur is made of characters of its own. -/
theorem symbols_plain {l : Text} (h : ¬ m.text <:+: l) : m.symbols l = l.map Symbol.ofChar := by
  induction l with
  | nil => rfl
  | cons c cs ih =>
      rw [List.infix_cons_iff] at h
      rw [symbols_cons fun hs => h (Or.inl hs), ih fun hs => h (Or.inr hs)]
      rfl

/-- The first marker of a text is its first opening. -/
theorem symbols_plain_append (hm : m.Apart) {l : Text} (h : ¬ m.text <:+: l) (t : Text) :
    m.symbols (l ++ (m.text ++ t)) = l.map Symbol.ofChar ++ .opening :: m.symbols t := by
  induction l with
  | nil => exact symbols_marker t
  | cons c cs ih =>
      rw [List.infix_cons_iff] at h
      have hs : ¬ m.text <+: c :: (cs ++ (m.text ++ t)) :=
        not_prefix_append hm.head fun hs => h (Or.inl hs)
      show m.symbols (c :: (cs ++ (m.text ++ t))) = _
      rw [symbols_cons hs, ih fun hs => h (Or.inr hs)]
      rfl

/-- A closing is no part of a marker. -/
theorem symbols_close (hm : m.Apart) (t : Text) : m.symbols (')' :: t) = .closing :: m.symbols t := by
  refine symbols_cons fun hs => ?_
  rw [text, List.cons_prefix_cons] at hs
  exact hm.close (hs.1 ▸ List.mem_cons_self)

end Marker

end CompilationDatabase
