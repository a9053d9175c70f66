import CompilationDatabase.Condition
import CompilationDatabase.Proofs.Computations
import CompilationDatabase.Proofs.Cycle
import CompilationDatabase.Proofs.Pieces

/-!
# Comparisons — which conditions are told, and what is compared

A condition is cut at the first `==` in it, and nothing else is asked of it: neither whether this `==`
stands in quotes, nor whether another one follows. `comparisons` counts the places where a reader sees
a comparison, which are those outside of quotes.

The two are brought together at the cut. The text before it has no `==`, so it only says whether a quote
is open there (`comparisonsFrom_append`), and the count of the whole condition is that of what comes
after the cut, or after the closing quote (`Cut.comparisons_eq`).
-/

namespace CompilationDatabase.Condition

/-- Counts the places of `==` outside of single quotes, in a text that starts inside of them or outside.
    A quote that no other one follows encloses nothing. -/
def comparisonsFrom : (enclosed : Bool) → Text → Nat
  | _, [] => 0
  | true, c :: cs => comparisonsFrom (c != '\'') cs
  | false, '=' :: '=' :: cs => comparisonsFrom false cs + 1
  | false, c :: cs => comparisonsFrom (c == '\'' && cs.contains '\'') cs

/-- The number of places where a condition compares: those of `==` outside of text in single quotes. -/
def comparisons (condition : Text) : Nat := comparisonsFrom false condition

/-- Whether an odd number of single quotes stands in a text, so that one of them is open at its end. -/
def leavesOpen (t : Text) : Bool := t.count '\'' % 2 == 1

/-- Whether what stands between two texts is in single quotes: one is open, and another one follows. -/
def isEnclosed (before after : Text) : Bool := leavesOpen before && after.contains '\''

/-- What follows the next single quote. -/
def afterQuote (t : Text) : Text := (t.dropWhile (· ≠ '\'')).tail

/-- The texts on both sides of the first `==` of a condition. -/
structure Cut (condition left right : Text) : Prop where
  text  : condition = left ++ equals ++ right
  first : ∀ earlier later, condition = earlier ++ equals ++ later → left.length ≤ earlier.length

variable {condition left right : Text}

theorem cut_of_breakAt? (h : Text.breakAt? equals condition = some (left, right)) :
    Cut condition left right where
  text := Text.eq_of_breakAt? h
  first _ _ hsplit := Text.length_le_of_breakAt? h hsplit

/-- No `==` begins before the first one, not even in the character before it. -/
theorem Cut.not_infix (h : Cut condition left right) : ¬ equals <:+: left ++ ['='] := by
  rintro ⟨earlier, later, hsplit⟩
  have htext : condition = earlier ++ equals ++ (later ++ '=' :: right) := by
    have hleft : condition = (left ++ ['=']) ++ '=' :: right := by
      rw [h.text]
      simp [equals]
    rw [hleft, ← hsplit]
    simp
  have hle := h.first earlier _ htext
  have hlength := congrArg List.length hsplit
  simp only [List.length_append, List.length_cons, List.length_nil, equals] at hlength
  omega

/-! ## Counting -/

theorem comparisonsFrom_closed {c : Char} {t : Text} (h : ¬ equals <+: c :: t) :
    comparisonsFrom false (c :: t) = comparisonsFrom (c == '\'' && t.contains '\'') t := by
  rw [comparisonsFrom]
  rintro rest rfl rfl
  exact h ⟨rest, rfl⟩

theorem leavesOpen_cons (c : Char) (t : Text) : leavesOpen (c :: t) = ((c == '\'') ^^ leavesOpen t) := by
  rw [leavesOpen, leavesOpen, List.count_cons]
  rcases Nat.mod_two_eq_zero_or_one (t.count '\'') with h | h <;>
    cases c == '\'' <;> simp [h, Nat.add_mod]

/-- A text before the first `==` only says whether a quote is open there. -/
theorem comparisonsFrom_append {enclosed : Bool} {before after : Text}
    (hbefore : ¬ equals <:+: before ++ ['=']) (hclosed : enclosed = true → '\'' ∈ before ++ after) :
    comparisonsFrom enclosed (before ++ after)
      = comparisonsFrom ((enclosed ^^ leavesOpen before) && after.contains '\'') after := by
  induction before generalizing enclosed with
  | nil =>
      cases enclosed with
      | false => rfl
      | true =>
          have hafter : after.contains '\'' = true := List.contains_iff_mem.mpr (hclosed rfl)
          rw [hafter]
          rfl
  | cons c before ih =>
      have hinit : ¬ equals <:+: before ++ ['='] :=
        fun hin => hbefore (hin.trans (List.suffix_cons c _).isInfix)
      rw [List.cons_append, leavesOpen_cons]
      cases enclosed with
      | true =>
          have hrest : (c != '\'') = true → '\'' ∈ before ++ after := by
            intro hc
            exact List.mem_of_ne_of_mem (Ne.symm (bne_iff_ne.mp hc)) (hclosed rfl)
          rw [comparisonsFrom, ih hinit hrest, bne]
          cases c == '\'' <;> simp
      | false =>
          have hstep : ¬ equals <+: c :: (before ++ after) := by
            rintro ⟨rest, hsplit⟩
            obtain ⟨rfl, htail⟩ := List.cons.inj hsplit
            -- the second `=` comes from the text, or from the place where it ends
            cases before with
            | nil => exact hbefore List.infix_rfl
            | cons d before =>
                obtain ⟨rfl, -⟩ := List.cons.inj htail
                exact hbefore (List.prefix_append equals (before ++ ['='])).isInfix
          have hrest : (c == '\'' && (before ++ after).contains '\'') = true →
              '\'' ∈ before ++ after := by
            intro hc
            exact List.contains_iff_mem.mp (Bool.and_eq_true_iff.mp hc).2
          rw [comparisonsFrom_closed hstep, ih hinit hrest]
          by_cases hmem : '\'' ∈ after <;> simp [hmem]

theorem comparisonsFrom_true (t : Text) : comparisonsFrom true t = comparisons (afterQuote t) := by
  induction t with
  | nil => rfl
  | cons c t ih =>
      rw [comparisonsFrom, afterQuote]
      by_cases hc : c = '\''
      · rw [List.dropWhile_cons_of_neg (by simpa using hc), bne_eq_false_iff_eq.mpr hc]
        rfl
      · rw [List.dropWhile_cons_of_pos (by simpa using hc), bne_iff_ne.mpr hc]
        exact ih

/-- The comparisons of a condition are seen from what comes after its first `==`. -/
theorem Cut.comparisons_eq (h : Cut condition left right) :
    comparisons condition
      = if isEnclosed left right then comparisons (afterQuote right) else comparisons right + 1 := by
  have hflag : ((false ^^ leavesOpen left) && (equals ++ right).contains '\'')
      = isEnclosed left right := by
    simp [isEnclosed, equals]
  have hstart : false = true → '\'' ∈ left ++ (equals ++ right) := nofun
  rw [comparisons, h.text, List.append_assoc, comparisonsFrom_append h.not_infix hstart, hflag]
  cases isEnclosed left right with
  | true => exact comparisonsFrom_true right
  | false => rfl

theorem comparisonsFrom_eq_zero {t : Text} (h : ¬ equals <:+: t) (enclosed : Bool) :
    comparisonsFrom enclosed t = 0 := by
  induction t generalizing enclosed with
  | nil => cases enclosed <;> rfl
  | cons c t ih =>
      rw [List.infix_cons_iff, not_or] at h
      cases enclosed with
      | true => exact ih h.2 _
      | false =>
          rw [comparisonsFrom_closed h.1]
          exact ih h.2 _

/-! ## Telling conditions -/

theorem Cut.breakAt?_eq (h : Cut condition left right) :
    Text.breakAt? equals condition = some (left, right) := by
  cases hbreak : Text.breakAt? equals condition with
  | none => exact absurd ⟨left, right, h.text.symm⟩ (Text.breakAt?_eq_none.mp hbreak)
  | some sides =>
      have hcut := cut_of_breakAt? hbreak
      have hlength := Nat.le_antisymm (h.first _ _ hcut.text) (hcut.first _ _ h.text)
      have hsame : left ++ (equals ++ right) = sides.1 ++ (equals ++ sides.2) := by
        rw [← List.append_assoc, ← h.text, hcut.text, List.append_assoc]
      obtain ⟨hleft, hrest⟩ := List.append_inj hsame hlength
      rw [hleft, List.append_cancel_left hrest]

variable {m : Matching} {macros : NameTable m} {location : Option Text}

/-- Whether two texts are told to be equal or not, with their macros expanded. -/
def Compares (location : Option Text) (macros : NameTable m) (left right : Text)
    (told : Bool) : Prop :=
  ∃ l r, macros.expand location left = .ok l ∧ macros.expand location right = .ok r ∧
    (told = true ↔ l.strip.fold = r.strip.fold)

theorem side_eq_ok {text value : Text} :
    side location macros text = .ok value ↔ ∃ t, macros.expand location text = .ok t ∧ t.strip.fold = value := by
  rw [side, bind_eq_ok]
  exact exists_congr fun t => and_congr_right fun _ => ⟨Except.ok.inj, congrArg Except.ok⟩

theorem Cut.holds_eq_ok (h : Cut condition left right) {told : Bool} :
    holds location macros condition = .ok told ↔ Compares location macros left right told := by
  rw [holds, h.breakAt?_eq]
  simp only [bind_eq_ok, side_eq_ok, Compares]
  constructor
  · rintro ⟨_, ⟨l, hl, rfl⟩, _, ⟨r, hr, rfl⟩, htold⟩
    obtain rfl := Except.ok.inj htold
    exact ⟨l, r, hl, hr, beq_iff_eq⟩
  · rintro ⟨l, r, hl, hr, htold⟩
    refine ⟨_, ⟨l, hl, rfl⟩, _, ⟨r, hr, rfl⟩, congrArg Except.ok ?_⟩
    rw [Bool.eq_iff_iff, htold, beq_iff_eq]

/-- The faults of expansion are about macros, not about conditions. -/
theorem expand_ne_unsupported (text other : Text) (place : Option Text) :
    macros.expand location text ≠ .error (.failed (.unsupportedCondition other) place) := by
  intro h
  have hlookup (n : Text) :
      macros.macroValue location n ≠ .error (.failed (.unsupportedCondition other) place) := by
    rw [NameTable.macroValue]
    cases macros.get? n <;> simp
  have hclose (u : Unclosed) :
      Fault.failed (.unsupportedCondition other) place ≠ .failed (u.cause .macros) location := by
    rw [Unclosed.cause]
    split <;> simp
  obtain ⟨_, _, _, _, _, hrefuse⟩ := NameTable.exists_refused hlookup hclose h
  cases (circularFault_eq_some.mp hrefuse).2

theorem side_ne_unsupported (text other : Text) (place : Option Text) :
    side location macros text ≠ .error (.failed (.unsupportedCondition other) place) := by
  rw [side]
  cases h : macros.expand location text with
  | ok t => exact nofun
  | error f =>
      intro hf
      exact expand_ne_unsupported text other place
        (h.trans (congrArg Except.error (Except.error.inj hf)))

/-- A condition with a `==` in it is not refused. -/
theorem holds_ne_unsupported (h : equals <:+: condition) (other : Text) (place : Option Text) :
    holds location macros condition ≠ .error (.failed (.unsupportedCondition other) place) := by
  rw [holds]
  cases hbreak : Text.breakAt? equals condition with
  | none => exact absurd h (Text.breakAt?_eq_none.mp hbreak)
  | some sides =>
      intro hother
      dsimp only at hother
      cases hleft : side location macros sides.1 with
      | error f =>
          rw [hleft] at hother
          exact absurd (hleft.trans (congrArg Except.error (Except.error.inj hother)))
            (side_ne_unsupported _ _ _)
      | ok l =>
          cases hright : side location macros sides.2 with
          | error f =>
              rw [hleft, hright] at hother
              exact absurd (hright.trans (congrArg Except.error (Except.error.inj hother)))
                (side_ne_unsupported _ _ _)
          | ok r =>
              rw [hleft, hright] at hother
              exact nomatch hother

/-- A condition is refused exactly if there is no `==` in it. -/
theorem refused_iff :
    (∃ other, holds location macros condition
        = .error (.failed (.unsupportedCondition other) location))
      ↔ ¬ equals <:+: condition := by
  refine ⟨fun ⟨other, hother⟩ hin => holds_ne_unsupported hin other location hother, fun h => ?_⟩
  rw [holds, Text.breakAt?_eq_none.mpr h]
  exact ⟨condition, rfl⟩

/-- **A condition is told by what its first `==` divides.** It is refused exactly if there is no `==` in
    it, be it in quotes or not; it has a truth value exactly if what comes before the first `==` and
    what comes after it can be expanded, and these two are compared. That is a single comparison of the
    condition if the first `==` is not in quotes and what comes after it compares nothing, or if it is in
    quotes and what follows these compares once. No condition that compares anything is refused,
    however many comparisons it joins. -/
theorem told_at_first_equals (location : Option Text) (macros : NameTable m) (condition : Text) :
    ((∃ other, holds location macros condition
        = .error (.failed (.unsupportedCondition other) location))
      ↔ ¬ equals <:+: condition) ∧
    (∀ told, holds location macros condition = .ok told
      ↔ ∃ left right, Cut condition left right ∧ Compares location macros left right told) ∧
    (∀ left right, Cut condition left right → (comparisons condition = 1
      ↔ if isEnclosed left right then comparisons (afterQuote right) = 1 else comparisons right = 0)) ∧
    (comparisons condition ≠ 0 →
      ∀ other place,
        holds location macros condition ≠ .error (.failed (.unsupportedCondition other) place)) := by
  refine ⟨refused_iff, fun told => ⟨fun h => ?_, ?_⟩, fun left right h => ?_, fun h => ?_⟩
  · cases hbreak : Text.breakAt? equals condition with
    | none =>
        rw [holds, hbreak] at h
        exact nomatch h
    | some sides =>
        have hcut := cut_of_breakAt? hbreak
        exact ⟨sides.1, sides.2, hcut, hcut.holds_eq_ok.mp h⟩
  · rintro ⟨left, right, hcut, hcompares⟩
    exact hcut.holds_eq_ok.mpr hcompares
  · rw [h.comparisons_eq]
    split
    · exact Iff.rfl
    · exact Nat.succ_inj
  · refine holds_ne_unsupported (by_contra fun hnone => ?_)
    exact h (comparisonsFrom_eq_zero hnone false)

/-- A macro whose value has a `==` in it. -/
def equalsMacro : NameTable .ignoringCase := .ofList [⟨"Op".toList, "x==".toList⟩]

/-- The first `==` is looked for before macros are expanded, and the one in quotes after it does not
    count as another comparison. -/
theorem told_at_first_equals_quotedEquals :
    holds none equalsMacro "'$(op)Y' == 'X==y'".toList = .ok true ∧
      comparisons "'$(op)Y' == 'X==y'".toList = 1 ∧
      ∀ other place, holds none equalsMacro "'$(op)Y' == 'X==y'".toList
        ≠ .error (.failed (.unsupportedCondition other) place) := by
  have hcut : Cut "'$(op)Y' == 'X==y'".toList "'$(op)Y' ".toList " 'X==y'".toList :=
    cut_of_breakAt? (by decide)
  have hcompares : Compares none equalsMacro "'$(op)Y' ".toList " 'X==y'".toList true :=
    ⟨"'x==Y' ".toList, " 'X==y'".toList, rfl, rfl, by decide +kernel⟩
  obtain ⟨-, htold, hcount, hjoined⟩ :=
    told_at_first_equals none equalsMacro "'$(op)Y' == 'X==y'".toList
  have hone := (hcount _ _ hcut).mpr (by decide)
  exact ⟨(htold true).mpr ⟨_, _, hcut, hcompares⟩, hone, hjoined (hone ▸ Nat.one_ne_zero)⟩

/-- Two comparisons that are joined have a truth value, and so has a text in quotes with a `==`. -/
theorem told_joined :
    holds none (.empty : NameTable .ignoringCase) "'a'=='a' And 'b'=='b'".toList = .ok false ∧
      comparisons "'a'=='a' And 'b'=='b'".toList = 2 ∧
      holds none (.empty : NameTable .ignoringCase) "'a==b'".toList = .ok false ∧
      comparisons "'a==b'".toList = 0 :=
  ⟨rfl, by decide, rfl, by decide⟩

end CompilationDatabase.Condition
