import CompilationDatabase.Text.Word
import Mathlib.Data.List.TakeWhile

/-!
# Pieces — texts cut at a character and joined again

A text is cut at the first place where a character stands (`breakAt?_eq_some`) or a separator does
(`length_le_of_breakAt?`), after the last one (`splitLast_eq_iff`), or at all of them. The pieces of a text are those that `List.splitOn` gives
(`pieces_eq_splitOn`). A separator divides the pieces of a text into those before it and those after it
(`pieces_append`), so texts that are joined have all their pieces, one text after the other
(`pieces_join`), and a piece stands between two separators or ends of its text
(`exists_of_mem_pieces`).
-/

namespace CompilationDatabase.Text

/-! ## The first place -/

theorem breakAt?_cons (c d : Char) (t : Text) :
    breakAt? [c] (d :: t)
      = if c = d then some ([], t) else (breakAt? [c] t).map fun cut => (d :: cut.1, cut.2) := by
  rw [breakAt?]
  by_cases hd : c = d
  · rw [if_pos hd, hd, isPrefixOf?_eq_some.mpr (List.singleton_append)]
  · have hnone : List.isPrefixOf? [c] (d :: t) = none := by
      rw [Option.eq_none_iff_forall_ne_some]
      intro rest hrest
      exact hd (List.cons.inj (isPrefixOf?_eq_some.mp hrest)).1.symm
    rw [if_neg hd, hnone]

/-- A text is cut at a character exactly where what is before does not have it. -/
theorem breakAt?_eq_some {c : Char} {t before after : Text} :
    breakAt? [c] t = some (before, after) ↔ t = before ++ c :: after ∧ c ∉ before := by
  constructor
  · intro h
    refine ⟨by simpa using eq_of_breakAt? h, ?_⟩
    induction t generalizing before with
    | nil => exact nomatch h
    | cons d t ih =>
        rw [breakAt?_cons] at h
        by_cases hd : c = d
        · rw [if_pos hd] at h
          rw [← (Prod.mk.inj (Option.some.inj h)).1]
          exact List.not_mem_nil
        · rw [if_neg hd] at h
          obtain ⟨⟨before, after⟩, hbreak, hcut⟩ := Option.map_eq_some_iff.mp h
          obtain ⟨rfl, rfl⟩ := Prod.mk.inj hcut
          exact List.not_mem_cons_of_ne_of_not_mem hd (ih hbreak)
  · rintro ⟨rfl, hc⟩
    induction before with
    | nil => rw [List.nil_append, breakAt?_cons, if_pos rfl]
    | cons d before ih =>
        rw [List.mem_cons, not_or] at hc
        rw [List.cons_append, breakAt?_cons, if_neg hc.1, ih hc.2]
        rfl

theorem isPrefixOf?_eq_none {start t : Text} : start.isPrefixOf? t = none ↔ ¬ start <+: t := by
  rw [Option.eq_none_iff_forall_ne_some]
  constructor
  · rintro h ⟨rest, rfl⟩
    exact h rest (isPrefixOf?_eq_some.mpr rfl)
  · intro h rest hrest
    exact h ⟨rest, (isPrefixOf?_eq_some.mp hrest).symm⟩

/-- A text is not cut exactly if the separator does not stand in it. -/
theorem breakAt?_eq_none {separator t : Text} :
    breakAt? separator t = none ↔ ¬ separator <:+: t := by
  induction t with
  | nil =>
      rw [breakAt?, List.infix_nil]
      cases separator <;> simp
  | cons c t ih =>
      rw [breakAt?, List.infix_cons_iff, not_or, ← ih, ← isPrefixOf?_eq_none]
      cases List.isPrefixOf? separator (c :: t) <;> simp

/-- The separator stands nowhere further ahead than where a text is cut. -/
theorem length_le_of_breakAt? {separator t before after : Text}
    (h : breakAt? separator t = some (before, after)) {earlier later : Text}
    (ht : t = earlier ++ separator ++ later) : before.length ≤ earlier.length := by
  induction t generalizing before earlier with
  | nil =>
      rw [breakAt?] at h
      split at h
      · rw [← (Prod.mk.inj (Option.some.inj h)).1]
        exact Nat.zero_le _
      · cases h
  | cons c t ih =>
      rw [breakAt?] at h
      cases hstart : List.isPrefixOf? separator (c :: t) with
      | some rest =>
          rw [hstart] at h
          rw [← (Prod.mk.inj (Option.some.inj h)).1]
          exact Nat.zero_le _
      | none =>
          rw [hstart] at h
          obtain ⟨⟨start, after⟩, hbreak, hcut⟩ := Option.map_eq_some_iff.mp h
          obtain ⟨rfl, rfl⟩ := Prod.mk.inj hcut
          cases earlier with
          | nil =>
              rw [List.nil_append] at ht
              exact absurd ⟨later, ht.symm⟩ (isPrefixOf?_eq_none.mp hstart)
          | cons d earlier =>
              obtain ⟨-, ht⟩ := List.cons.inj ht
              exact Nat.succ_le_succ (ih hbreak ht)

/-! ## The last place -/

/-- A text is cut after the last place of a character, or before all of it if there is none. -/
theorem splitLast_eq_iff {c : Char} {t before after : Text} :
    splitLast c t = (before, after)
      ↔ t = before ++ after ∧ c ∉ after ∧ (before = [] ∨ before.getLast? = some c) := by
  constructor
  · intro h
    obtain ⟨hbefore, hafter⟩ := Prod.mk.inj h
    have ht : t = (t.reverse.dropWhile (· ≠ c)).reverse ++ after := by
      rw [← hafter, ← List.reverse_append, List.takeWhile_append_dropWhile, List.reverse_reverse]
    have hhead := List.head?_dropWhile_not (fun d => decide (d ≠ c)) t.reverse
    rw [← List.getLast?_reverse] at hhead
    have hfree : c ∉ after := by
      intro hc
      rw [← hafter, List.mem_reverse] at hc
      simpa using List.mem_takeWhile_imp hc
    generalize (t.reverse.dropWhile (· ≠ c)).reverse = start at ht hhead
    rw [hafter, ht] at hbefore
    obtain rfl : start = before := by simpa using hbefore
    refine ⟨ht, hfree, ?_⟩
    cases hlast : start.getLast? with
    | none => exact Or.inl (List.getLast?_eq_none_iff.mp hlast)
    | some d =>
        rw [hlast] at hhead
        exact Or.inr (by simpa using hhead)
  · rintro ⟨rfl, hc, hbefore⟩
    have hafter : (before ++ after).reverse.takeWhile (· ≠ c) = after.reverse := by
      rw [List.reverse_append, List.takeWhile_append_of_pos fun d hd => ?_]
      · rcases hbefore with rfl | hbefore
        · simp
        · obtain ⟨start, rfl⟩ := List.getLast?_eq_some_iff.mp hbefore
          simp
      · have hne : d ≠ c := fun heq => hc (heq ▸ List.mem_reverse.mp hd)
        exact decide_eq_true hne
    rw [splitLast, hafter]
    simp

/-! ## Pieces -/

theorem pieces_eq_splitOn (c : Char) (t : Text) : pieces c t = t.splitOn c := by
  induction t with
  | nil => exact (List.splitOn_nil c).symm
  | cons d t ih =>
      have hcons : (d :: t).splitOn c
          = if d = c then [] :: t.splitOn c else (t.splitOn c).modifyHead (d :: ·) := by
        simp only [List.splitOn_eq_splitOnP, List.splitOnP_cons_eq_if_modifyHead, beq_iff_eq]
      rw [hcons, ← ih, pieces]
      by_cases hd : d = c
      · rw [if_pos hd, if_pos hd]
      · rw [if_neg hd, if_neg hd]
        cases hpieces : pieces c t with
        | nil => exact absurd hpieces (pieces_ne_nil c t)
        | cons piece rest => rfl

/-- A separator divides the pieces of a text into those before it and those after it. -/
theorem pieces_append (c : Char) (a b : Text) :
    pieces c (a ++ c :: b) = pieces c a ++ pieces c b := by
  simp only [pieces_eq_splitOn, List.splitOn_eq_splitOnP]
  exact List.splitOnP_append_cons a b (beq_self_eq_true c)

theorem pieces_of_not_mem {c : Char} {t : Text} (h : c ∉ t) : pieces c t = [t] := by
  rw [pieces_eq_splitOn, List.splitOn_eq_splitOnP]
  refine List.splitOnP_eq_singleton fun d hd => beq_false_of_ne ?_
  rintro rfl
  exact h hd

theorem join_cons (c : Char) (part : Text) {parts : List Text} (h : parts ≠ []) :
    join c (part :: parts) = part ++ c :: join c parts := by
  obtain ⟨next, rest, rfl⟩ := List.exists_cons_of_ne_nil h
  rw [join, List.intercalate_cons_cons, List.append_assoc]
  rfl

theorem join_append (c : Char) {before after : List Text} (hbefore : before ≠ [])
    (hafter : after ≠ []) :
    join c (before ++ after) = join c before ++ c :: join c after := by
  induction before with
  | nil => exact absurd rfl hbefore
  | cons part before ih =>
      by_cases hnil : before = []
      · rw [hnil, List.singleton_append, join_cons c part hafter]
        simp [join]
      · rw [List.cons_append, join_cons c part (List.append_ne_nil_of_left_ne_nil hnil after),
          join_cons c part hnil, ih hnil, List.append_assoc, List.cons_append]

theorem exists_join_concat (c : Char) (parts : List Text) (w : Text) :
    ∃ start, join c (parts ++ [w]) = start ++ w := by
  by_cases hparts : parts = []
  · exact ⟨[], by simp [hparts, join]⟩
  · refine ⟨join c parts ++ [c], ?_⟩
    rw [join_append c hparts (List.cons_ne_nil _ _)]
    simp [join]

theorem mem_join {c d : Char} {parts : List Text} (h : d ∈ join c parts) :
    d = c ∨ ∃ part ∈ parts, d ∈ part := by
  induction parts with
  | nil => exact nomatch h
  | cons part parts ih =>
      by_cases hparts : parts = []
      · rw [hparts, join, List.intercalate_singleton] at h
        exact Or.inr ⟨part, List.mem_cons_self, h⟩
      · rw [join_cons c part hparts] at h
        rcases List.mem_append.mp h with hfirst | hrest
        · exact Or.inr ⟨part, List.mem_cons_self, hfirst⟩
        · rcases List.mem_cons.mp hrest with rfl | hrest
          · exact Or.inl rfl
          · refine (ih hrest).imp_right ?_
            rintro ⟨other, hother, hd⟩
            exact ⟨other, List.mem_cons_of_mem part hother, hd⟩

theorem join_pieces (c : Char) (t : Text) : join c (pieces c t) = t := by
  rw [pieces_eq_splitOn]
  exact List.intercalate_splitOn c

/-- Texts that are joined have all their pieces, one text after the other. -/
theorem pieces_join (c : Char) {parts : List Text} (h : parts ≠ []) :
    pieces c (join c parts) = parts.flatMap (pieces c) := by
  induction parts with
  | nil => exact absurd rfl h
  | cons part parts ih =>
      by_cases hparts : parts = []
      · rw [hparts]
        simp [join]
      · rw [join_cons c part hparts, pieces_append, ih hparts, List.flatMap_cons]

/-- Texts without a character are the pieces of what they make, joined by it. -/
theorem pieces_join_of_not_mem {c : Char} {parts : List Text} (h : parts ≠ [])
    (hparts : ∀ part ∈ parts, c ∉ part) : pieces c (join c parts) = parts := by
  rw [pieces_join c h, List.flatMap,
    List.map_congr_left fun part hpart => pieces_of_not_mem (hparts part hpart)]
  exact List.flatMap_singleton' parts

/-! ## Where a piece stands -/

theorem not_mem_of_mem_pieces {c : Char} {t piece : Text} (h : piece ∈ pieces c t) : c ∉ piece := by
  induction t generalizing piece with
  | nil =>
      rw [List.mem_singleton.mp h]
      exact nofun
  | cons d t ih =>
      rw [pieces] at h
      by_cases hd : d = c
      · rw [if_pos hd] at h
        rcases List.mem_cons.mp h with rfl | h
        · exact nofun
        · exact ih h
      · rw [if_neg hd] at h
        cases hpieces : pieces c t with
        | nil => exact absurd hpieces (pieces_ne_nil c t)
        | cons first rest =>
            rw [hpieces] at h ih
            rcases List.mem_cons.mp h with rfl | h
            · intro hmem
              rcases List.mem_cons.mp hmem with heq | hmem
              · exact hd heq.symm
              · exact ih List.mem_cons_self hmem
            · exact ih (List.mem_cons_of_mem _ h)

/-- A piece begins at the start of the text or after a separator, and ends before one or with the
    text. -/
theorem exists_of_mem_pieces {c : Char} {t piece : Text} (h : piece ∈ pieces c t) :
    ∃ a b, t = a ++ (piece ++ b) ∧ (a = [] ∨ a.getLast? = some c) ∧
      (b = [] ∨ b.head? = some c) := by
  obtain ⟨before, after, hpieces⟩ := List.append_of_mem h
  have ht : t = join c (before ++ piece :: after) := by rw [← hpieces, join_pieces]
  have hend : ∃ b, join c (piece :: after) = piece ++ b ∧ (b = [] ∨ b.head? = some c) := by
    by_cases hafter : after = []
    · exact ⟨[], by simp [hafter, join], .inl rfl⟩
    · exact ⟨c :: join c after, join_cons c piece hafter, .inr rfl⟩
  obtain ⟨b, hb, hclosed⟩ := hend
  by_cases hbefore : before = []
  · rw [hbefore, List.nil_append, hb] at ht
    exact ⟨[], b, ht, .inl rfl, hclosed⟩
  · rw [join_append c hbefore (List.cons_ne_nil _ _), hb] at ht
    refine ⟨join c before ++ [c], b, ?_, .inr ?_, hclosed⟩
    · rw [ht, List.append_assoc, List.singleton_append]
    · rw [List.getLast?_append, List.getLast?_singleton, Option.some_or]

theorem infix_of_mem_pieces {c : Char} {t piece : Text} (h : piece ∈ pieces c t) : piece <:+: t := by
  obtain ⟨a, b, rfl, -⟩ := exists_of_mem_pieces h
  rw [← List.append_assoc]
  exact List.infix_append a piece b

/-! ## Ends of texts -/

/-- What is taken from the end of a text satisfies the test. -/
theorem exists_dropEndWhile (p : Char → Bool) (t : Text) :
    ∃ tail, t = t.dropEndWhile p ++ tail ∧ ∀ c ∈ tail, p c = true := by
  refine ⟨(t.reverse.takeWhile p).reverse, ?_, ?_⟩
  · rw [dropEndWhile, ← List.reverse_append, List.takeWhile_append_dropWhile, List.reverse_reverse]
  · intro c hc
    exact List.mem_takeWhile_imp (List.mem_reverse.mp hc)

/-- What is left of a text does not end with what was taken from its end. -/
theorem getLast?_dropEndWhile {p : Char → Bool} {t : Text} (h : t.dropEndWhile p ≠ []) :
    ∃ c, (t.dropEndWhile p).getLast? = some c ∧ p c = false := by
  have hhead := List.head?_dropWhile_not p t.reverse
  rw [dropEndWhile] at h ⊢
  rw [List.getLast?_reverse]
  cases hdrop : t.reverse.dropWhile p with
  | nil => exact absurd (congrArg List.reverse hdrop) h
  | cons c rest =>
      rw [hdrop] at hhead
      exact ⟨c, rfl, hhead⟩

/-- Whether a text starts, with no white space. -/
def StartsClean (t : Text) : Prop := ∃ c, t.head? = some c ∧ isBlank c = false

/-- Whether a text ends, with no white space. -/
def EndsClean (t : Text) : Prop := ∃ c, t.getLast? = some c ∧ isBlank c = false

/-- Whether a text is not empty, and has no white space at its ends. -/
def IsClean (t : Text) : Prop := t.StartsClean ∧ t.EndsClean

theorem startsClean_of_dropWhile {t : Text} (h : t.dropWhile isBlank ≠ []) :
    StartsClean (t.dropWhile isBlank) := by
  obtain ⟨c, rest, hcons⟩ := List.exists_cons_of_ne_nil h
  have hhead := List.head?_dropWhile_not isBlank t
  rw [hcons] at hhead ⊢
  exact ⟨c, rfl, hhead⟩

theorem isClean_strip {t : Text} (h : t.strip ≠ []) : t.strip.IsClean := by
  obtain ⟨tail, htail, -⟩ := exists_dropEndWhile isBlank (t.dropWhile isBlank)
  constructor
  · have hstart : StartsClean (t.dropWhile isBlank) := startsClean_of_dropWhile fun hnil => h (by
      rw [strip, hnil]
      rfl)
    obtain ⟨c, cs, hcons⟩ := List.exists_cons_of_ne_nil h
    obtain ⟨d, hd, hblank⟩ := hstart
    have hcons' : dropEndWhile isBlank (t.dropWhile isBlank) = c :: cs := hcons
    rw [htail, hcons'] at hd
    rw [hcons]
    exact ⟨d, hd, hblank⟩
  · obtain ⟨d, hd, hblank⟩ := startsClean_of_dropWhile (t := (t.dropWhile isBlank).reverse)
      fun hnil => h (by rw [strip, dropEndWhile, hnil]; rfl)
    refine ⟨d, ?_, hblank⟩
    rw [strip, dropEndWhile, List.getLast?_reverse]
    exact hd

theorem dropWhile_of_startsClean {t : Text} (h : t.StartsClean) : t.dropWhile isBlank = t := by
  obtain ⟨c, hc, hblank⟩ := h
  cases t with
  | nil => rfl
  | cons d t =>
      obtain rfl := Option.some.inj hc
      exact List.dropWhile_cons_of_neg (by rw [hblank]; exact Bool.false_ne_true)

theorem strip_of_isClean {t : Text} (h : t.IsClean) : t.strip = t := by
  obtain ⟨hstart, c, hc, hblank⟩ := h
  have hend : StartsClean t.reverse := ⟨c, List.head?_reverse.trans hc, hblank⟩
  rw [strip, dropWhile_of_startsClean hstart, dropEndWhile, dropWhile_of_startsClean hend,
    List.reverse_reverse]

theorem strip_infix (t : Text) : t.strip <:+: t := by
  obtain ⟨tail, htail, -⟩ := exists_dropEndWhile isBlank (t.dropWhile isBlank)
  obtain ⟨start, hstart⟩ := List.dropWhile_suffix (l := t) isBlank
  refine ⟨start, tail, ?_⟩
  rw [List.append_assoc]
  exact (congrArg (start ++ ·) htail.symm).trans hstart

end CompilationDatabase.Text
