import CompilationDatabase.Metadata
import CompilationDatabase.Proofs.Balanced
import CompilationDatabase.Proofs.Computations

/-!
# Concatenation — texts that are expanded one after the other

An opening is closed by a parenthesis that may stand anywhere after it, and one that finds none takes
all that follows into its fault. So it is not plain that a text is expanded the same way whatever comes
after it. It is, if it can be expanded alone and no marker is put together where the texts meet.

* `symbols_append` cuts a text: the symbols of both parts are found apart unless a marker `Straddles`
  the cut.
* `ofSymbols_append` pairs the symbols: where every opening of the first part finds a closing there, the
  readings of the two parts are put together by `Reading.append`.
* `expand_append` fills in the templates, one after the other; the fault of an opening that is left over
  comes last in both.
-/

namespace CompilationDatabase

/-! ## Cutting a text -/

/-- Whether a marker starts at the end of a text and goes on in the next one. -/
def Marker.Straddles (m : Marker) (a b : Text) : Prop :=
  ∃ x y, x ≠ [] ∧ y ≠ [] ∧ m.text = x ++ y ∧ x <:+ a ∧ y <+: b

namespace Marker

variable {m : Marker} {a b : Text}

theorem Straddles.cons (h : m.Straddles a b) (c : Char) : m.Straddles (c :: a) b := by
  obtain ⟨x, y, hx, hy, hxy, ha, hb⟩ := h
  exact ⟨x, y, hx, hy, hxy, ha.trans (List.suffix_cons c a), hb⟩

/-- A marker of two characters straddles a cut with one of them on each side. -/
theorem straddles_iff {x y : Char} (hm : m.text = [x, y]) :
    m.Straddles a b ↔ a.getLast? = some x ∧ b.head? = some y := by
  rw [List.getLast?_eq_some_iff, List.head?_eq_some_iff]
  constructor
  · rintro ⟨l, r, hl, hr, hlr, ⟨before, rfl⟩, ⟨after, rfl⟩⟩
    rw [hm, List.cons_eq_append_iff] at hlr
    rcases hlr with ⟨rfl, -⟩ | ⟨l, rfl, hlr⟩
    · exact absurd rfl hl
    · rw [List.singleton_eq_append_iff] at hlr
      rcases hlr with ⟨rfl, rfl⟩ | ⟨-, rfl⟩
      · exact ⟨⟨before, rfl⟩, ⟨after, rfl⟩⟩
      · exact absurd rfl hr
  · rintro ⟨⟨before, rfl⟩, ⟨after, rfl⟩⟩
    refine ⟨[x], [y], by simp, by simp, hm, ?_, ?_⟩
    · exact List.suffix_append before [x]
    · exact List.prefix_append [y] after

/-- A marker that starts in a text is in it as a whole, or straddles the end of the text. -/
theorem prefix_of_append {c : Char} (h : m.text <+: c :: (a ++ b)) :
    m.text <+: c :: a ∨ m.Straddles (c :: a) b := by
  rcases List.prefix_or_prefix_of_prefix h (List.prefix_append (c :: a) b) with hin | ⟨y, hy⟩
  · exact Or.inl hin
  · by_cases hnil : y = []
    · rw [hnil, List.append_nil] at hy
      exact Or.inl (hy ▸ List.prefix_rfl)
    · refine Or.inr ⟨c :: a, y, by simp, hnil, hy.symm, List.suffix_rfl, ?_⟩
      rw [← hy] at h
      exact (List.prefix_append_right_inj (c :: a)).mp h

/-- The symbols of two texts are found apart if no marker straddles the cut. -/
theorem symbols_append (h : ¬ m.Straddles a b) :
    m.symbols (a ++ b) = m.symbols a ++ m.symbols b := by
  induction hn : a.length using Nat.strongRecOn generalizing a with
  | ind n ih =>
      subst hn
      cases a with
      | nil => rfl
      | cons c cs =>
          by_cases hs : m.text <+: c :: cs
          · -- a whole marker is passed over at once
            obtain ⟨u, hu⟩ := hs
            rw [← hu] at h ih ⊢
            have hrest : ¬ m.Straddles u b := by
              rintro ⟨x, y, hx, hy, hxy, hsuffix, hprefix⟩
              exact h ⟨x, y, hx, hy, hxy, hsuffix.trans (List.suffix_append _ _), hprefix⟩
            rw [List.append_assoc, symbols_marker, symbols_marker,
              ih u.length (m.length_lt_append u) hrest rfl, List.cons_append]
          · have hnone : ¬ m.text <+: c :: (cs ++ b) := by
              intro hp
              rcases prefix_of_append hp with hin | hstraddles
              · exact hs hin
              · exact h hstraddles
            rw [List.cons_append, symbols_cons hnone, symbols_cons hs,
              ih cs.length (by simp) (fun hrest => h (hrest.cons c)) rfl, List.cons_append]

end Marker

/-! ## Putting readings together -/

namespace Reading

/-- Templates between free closings, with a reading after them: the last one goes on with the first
    one of the reading. -/
def joined : Template → List Template → Reading → Reading
  | last, [], q => { q with first := last ++ q.first }
  | first, next :: later, q =>
    let r := joined next later q
    { r with first, later := r.first :: r.later }

/-- One reading after another, of which nothing is left open. -/
def append (r q : Reading) : Reading := joined r.first r.later q

theorem unclosed_joined (t : Template) (later : List Template) (q : Reading) :
    (joined t later q).unclosed = q.unclosed := by
  induction later generalizing t with
  | nil => rfl
  | cons next later ih => exact ih next

theorem template_joined (t : Template) (later : List Template) (q : Reading) :
    (joined t later q).template
      = t ++ later.foldr (fun next u => .char ')' (next ++ u)) .done ++ q.template := by
  induction later generalizing t with
  | nil =>
      show t ++ q.first ++ _ = t ++ .done ++ (q.first ++ _)
      rw [Template.append_done, Template.append_assoc]
      rfl
  | cons next later ih =>
      show t ++ .char ')' (joined next later q).template = _
      rw [ih, Template.append_assoc t]
      rfl

@[simp] theorem unclosed_append (r q : Reading) : (r.append q).unclosed = q.unclosed :=
  unclosed_joined r.first r.later q

@[simp] theorem template_append (r q : Reading) :
    (r.append q).template = r.template ++ q.template :=
  template_joined r.first r.later q

/-- Symbols of which no opening is left over are paired apart from the symbols after them. -/
theorem ofSymbols_append {s : List Symbol} (h : (ofSymbols s).unclosed = none) (t : List Symbol) :
    ofSymbols (s ++ t) = (ofSymbols s).append (ofSymbols t) := by
  induction s with
  | nil => rfl
  | cons x s ih =>
      cases x with
      | char c =>
          rw [List.cons_append, ofSymbols, ih h, ofSymbols, append, append]
          cases (ofSymbols s).later <;> rfl
      | closing =>
          rw [List.cons_append, ofSymbols, ih h]
          rfl
      | opening =>
          rw [ofSymbols] at h
          rw [List.cons_append, ofSymbols, ofSymbols]
          cases hlater : (ofSymbols s).later with
          | nil => simp [hlater] at h
          | cons next later =>
              -- the closing that the opening takes is among the symbols before the cut
              simp only [hlater] at h
              rw [ih h, append, hlater]
              cases later <;> rfl

end Reading

/-! ## Filling in -/

section Filling

variable {μ : Type → Type} [Monad μ] [LawfulMonad μ]

/-- Templates are filled in one after the other. -/
theorem Template.fill_append (value : Text → μ Text) (t u : Template) :
    (t ++ u).fill value = (do
      let before ← t.fill value
      let after ← u.fill value
      return before ++ after) := by
  induction t with
  | done =>
      show u.fill value = (do
        let before ← pure []
        let after ← u.fill value
        return before ++ after)
      simp
  | char c rest ih =>
      show (do let after ← (rest ++ u).fill value; return c :: after) = _
      rw [ih, Template.fill]
      simp
  | token name rest _ ih =>
      show (do
        let name ← name.fill value
        let here ← value name
        let after ← (rest ++ u).fill value
        return here ++ after) = _
      rw [ih, Template.fill]
      simp only [bind_assoc, pure_bind, List.append_assoc]

end Filling

variable {m : Marker} {a b v : Text}

/-- A text that closes its tokens is filled in before the text that follows it. -/
theorem Reading.fill_append (hcut : ¬ m.Straddles a b)
    (hclosed : (Reading.ofText m a).unclosed = none) (location : Option Text)
    (value : Text → Except Fault Text) :
    (Reading.ofText m (a ++ b)).fill m location value = (do
      let before ← (Reading.ofText m a).fill m location value
      let after ← (Reading.ofText m b).fill m location value
      return before ++ after) := by
  have hreading : Reading.ofText m (a ++ b) = (Reading.ofText m a).append (Reading.ofText m b) := by
    rw [Reading.ofText, Marker.symbols_append hcut, ofSymbols_append hclosed]
    rfl
  rw [hreading, Reading.fill, Reading.fill, Reading.fill, hclosed, unclosed_append, template_append,
    Template.fill_append]
  cases (Reading.ofText m b).unclosed with
  | none => simp
  | some u =>
      -- the fault comes after both, as it does when the second text is filled in alone
      simp only [bind_assoc, pure_bind]
      rfl

/-- A text that closes its tokens is expanded before the text that follows it. -/
theorem expand_append (hcut : ¬ m.Straddles a b) (hclosed : (Reading.ofText m a).unclosed = none)
    (location : Option Text) (lookup : Text → Except Fault Text) (depth : Nat) :
    expand m location lookup depth (a ++ b) = (do
      let before ← expand m location lookup depth a
      let after ← expand m location lookup depth b
      return before ++ after) := by
  cases depth with
  | zero => exact Reading.fill_append hcut hclosed _ _
  | succ depth => exact Reading.fill_append hcut hclosed _ _

variable {location : Option Text} {lookup : Text → Except Fault Text} {depth : Nat}

/-- A text that is expanded without a fault closes its tokens. -/
theorem unclosed_of_expand (h : expand m location lookup depth a = .ok v) :
    (Reading.ofText m a).unclosed = none := by
  have hfill : ∃ value : Text → Except Fault Text, (Reading.ofText m a).fill m location value = .ok v := by
    cases depth with
    | zero => exact ⟨_, h⟩
    | succ depth => exact ⟨_, h⟩
  obtain ⟨value, hfill⟩ := hfill
  rw [Reading.fill] at hfill
  obtain ⟨filled, -, hend⟩ := ok_of_bind hfill
  cases hu : (Reading.ofText m a).unclosed with
  | none => rfl
  | some u =>
      rw [hu] at hend
      exact nomatch hend

/-- After a text that has a value, the outcome of a text is its own: its value comes after the other
    one, and its fault is the same. -/
theorem expand_append_of_ok (h : expand m location lookup depth a = .ok v) (hcut : ¬ m.Straddles a b) :
    expand m location lookup depth (a ++ b) = (expand m location lookup depth b).map (v ++ ·) := by
  rw [expand_append hcut (unclosed_of_expand h), h]
  rfl

/-- **Expansion goes along with concatenation.** Where a text has a value, and no marker is put together
    at its end, a text that follows it is expanded as it is alone, by macros and by the metadata of an
    item: the values come one after the other, and a fault of the second text is the fault of both,
    with the same name, chain or fragment. -/
theorem expansions_append :
    (∀ {m : Matching} (macros : NameTable m) (location : Option Text) (a b v : Text),
      macros.expand location a = .ok v →
      ¬ (a.getLast? = some '$' ∧ b.head? = some '(') →
      macros.expand location (a ++ b) = (macros.expand location b).map (v ++ ·)) ∧
    ∀ (times : FileTimes (Except Fault)) (o : Origin) (location : Option Text)
        (property a b v : Text),
      o.expandMetadata times location property a = .ok v →
      ¬ (a.getLast? = some '%' ∧ b.head? = some '(') →
      o.expandMetadata times location property (a ++ b)
        = (o.expandMetadata times location property b).map (v ++ ·) := by
  constructor
  · intro m macros location a b v h hcut
    have hmarker : Marker.macros.text = ['$', '('] := rfl
    rw [← Marker.straddles_iff hmarker] at hcut
    exact expand_append_of_ok h hcut
  · intro times o location property a b v h hcut
    have hmarker : Marker.metadata.text = ['%', '('] := rfl
    rw [← Marker.straddles_iff hmarker] at hcut
    exact expand_append_of_ok h hcut

/-- A macro that refers to another one. -/
def chainedMacros : NameTable .ignoringCase := .ofList [⟨['A'], "x$(B)".toList⟩, ⟨['B'], ['y']⟩]

/-- Where a marker is put together, a token comes in that neither text has. -/
example : chainedMacros.expand none "$".toList = .ok ['$'] ∧ chainedMacros.expand none "(A)".toList
    = .ok "(A)".toList ∧ chainedMacros.expand none "$(A)".toList = .ok "xy".toList :=
  ⟨rfl, rfl, rfl⟩

/-- A source file below the root, on a machine without files. -/
def nestedItem : Origin := ⟨"d/f.c".toList, ['/']⟩

def bareMachine : FileTree := { root := .directory [], current := [] }

/-- A text that ends in the middle of what could be a marker, and one after it that starts with a
    closing and has a token which is never closed; and the metadata of an item, around a property that
    refers to itself. -/
theorem expansions_append_openAfter :
    (chainedMacros.expand none "$(A)$".toList = .ok "xy$".toList ∧
      ¬ ("$(A)$".toList.getLast? = some '$' ∧ ")$(C".toList.head? = some '(') ∧
      chainedMacros.expand none "$(A)$)$(C".toList = .error (.failed (.unclosedToken "$(C".toList) none)) ∧
    nestedItem.expandMetadata bareMachine.times none ['P'] "%(Filename)%(P)".toList = .ok ['f'] ∧
    ¬ ("%(Filename)%(P)".toList.getLast? = some '%' ∧ "%(extension)".toList.head? = some '(') ∧
    nestedItem.expandMetadata bareMachine.times none ['P'] "%(Filename)%(P)%(extension)".toList
      = .ok "f.c".toList := by
  have hmacros : chainedMacros.expand none "$(A)$".toList = .ok "xy$".toList := rfl
  have hopen : ¬ ("$(A)$".toList.getLast? = some '$' ∧ ")$(C".toList.head? = some '(') := by decide
  have hmetadata : nestedItem.expandMetadata bareMachine.times none ['P'] "%(Filename)%(P)".toList
      = .ok ['f'] := rfl
  have hclosed : ¬ ("%(Filename)%(P)".toList.getLast? = some '%' ∧
      "%(extension)".toList.head? = some '(') := by decide
  refine ⟨⟨hmacros, hopen, ?_⟩, hmetadata, hclosed, ?_⟩
  · exact expansions_append.1 chainedMacros _ _ ")$(C".toList _ hmacros hopen
  · exact expansions_append.2 _ nestedItem _ _ _ "%(extension)".toList _ hmetadata hclosed

end CompilationDatabase
