import CompilationDatabase.Proofs.Decomposition
import CompilationDatabase.Proofs.Termination

/-!
# Splices — what an expansion puts together

The value of a text consists of literals: the characters outside of tokens, of the text itself and of
the values that are expanded in it (`exists_literals`). No literal holds the marker, but two of them
may meet with one ending and the other one starting in the middle of one. So a marker that is left in a
value was put together at such a `Seam` (`seam_of_marker`), and another pair of characters was either
put together like this or was in a literal (`seam_or_literal`).
-/

namespace CompilationDatabase

/-! ## Literals of a text -/

/-- The characters before the first token, and those after each token up to the next one. -/
def Template.runs : Template → Text × List Text
  | .done => ([], [])
  | .char c rest => (c :: rest.runs.1, rest.runs.2)
  | .token _ rest => ([], rest.runs.1 :: rest.runs.2)

/-- The literals of a text: what stands before, between and after its tokens. -/
def Marker.literals (m : Marker) (t : Text) : List Text :=
  (Reading.ofText m t).template.runs.1 :: (Reading.ofText m t).template.runs.2

variable {m : Marker}

theorem Template.runs_ofText_append (l : Text) (t : Template) :
    (ofText l ++ t).runs = (l ++ t.runs.1, t.runs.2) := by
  induction l with
  | nil => rfl
  | cons c cs ih =>
      show (c :: (ofText cs ++ t).runs.1, (ofText cs ++ t).runs.2) = _
      rw [ih]
      rfl

/-- The literals of a text are those of its decomposition. -/
theorem Decomposition.literals_text (hm : m.Apart) (d : Decomposition m) :
    m.literals d.text = d.pieces.map (·.literal.1) ++ [d.last.1] := by
  have hchars : ∀ l : Text, (Template.ofText l).runs = (l, []) := by
    intro l
    have h := Template.runs_ofText_append l .done
    rw [Template.append_done] at h
    rw [h]
    show (l ++ [], []) = _
    rw [List.append_nil]
  obtain ⟨ps, last, tail⟩ := d
  show m.literals (textOf m ps last tail) = _
  induction ps with
  | nil =>
      have htemplate : (Reading.ofText m (textOf m [] last tail)).template
          = Template.ofText last.1 := by
        cases tail with
        | none =>
            rw [show textOf m [] last none = last.1 from List.append_nil _]
            exact (Reading.ofText_plain last.2).1
        | some u => exact (Reading.ofText_open hm last.2 u.2).1
      rw [Marker.literals, htemplate, hchars]
      rfl
  | cons p ps ih =>
      obtain ⟨htemplate, -⟩ :=
        Reading.ofText_token hm p.literal.2 p.name.2 (textOf m ps last tail)
      rw [Marker.literals, show textOf m (p :: ps) last tail
        = p.literal.1 ++ (m.text ++ (p.name.1 ++ ')' :: textOf m ps last tail)) from rfl, htemplate,
        Template.runs_ofText_append]
      show (p.literal.1 ++ []) :: m.literals (textOf m ps last tail) = _
      rw [ih, List.append_nil]
      rfl

/-- A text goes on after its first piece with the text of the others. -/
theorem Decomposition.textOf_suffix_cons (p : Piece m) (ps : List (Piece m)) (last : m.Literal)
    (tail : Option m.Tail) : textOf m ps last tail <:+ textOf m (p :: ps) last tail := by
  refine ⟨p.literal.1 ++ (m.text ++ (p.name.1 ++ [')'])), ?_⟩
  simp [textOf, Marker.after]

/-- The marker does not occur in a literal. -/
theorem Marker.not_infix_of_mem_literals (hm : m.Apart) {t l : Text} (h : l ∈ m.literals t) :
    ¬ m.text <:+: l := by
  obtain ⟨d, rfl⟩ := exists_decomposition (m := m) t
  rw [d.literals_text hm, List.mem_append, List.mem_map, List.mem_singleton] at h
  rcases h with ⟨p, -, rfl⟩ | rfl
  · exact p.literal.2
  · exact d.last.2

theorem Marker.infix_of_mem_literals (hm : m.Apart) {t l : Text} (h : l ∈ m.literals t) :
    l <:+: t := by
  obtain ⟨⟨ps, last, tail⟩, rfl⟩ := exists_decomposition (m := m) t
  rw [Decomposition.literals_text hm] at h
  show l <:+: Decomposition.textOf m ps last tail
  induction ps with
  | nil =>
      rw [List.mem_singleton.mp h]
      exact (List.prefix_append _ _).isInfix
  | cons p ps ih =>
      rcases List.mem_cons.mp h with rfl | hrest
      · exact (List.prefix_append _ _).isInfix
      · exact (ih hrest).trans (Decomposition.textOf_suffix_cons p ps last tail).isInfix

namespace Expander

variable {e : Expander} {root t v : Text} {x y : Char}

/-! ## Literals of an expansion -/

/-- A literal of a text that is expanded while another one is. -/
def Literal (e : Expander) (root l : Text) : Prop :=
  ∃ p t, e.Reaches root p t ∧ l ∈ e.marker.literals t

/-- The value of a name comes to be expanded if the name is looked up. -/
def Covers (e : Expander) (root : Text) (p : List Text) (n : Text) : Prop :=
  ∀ v, e.refuse p n = none → e.lookup n = .ok v → e.Reaches root (p ++ [n.lower]) v

/-- The result of a task is made of literals: of those in a template, and of those in the texts that
    are expanded for it. -/
def MadeOfLiterals (e : Expander) (root : Text) (p : List Text) (v : Text) : Task → Prop
  | .text t => e.Reaches root p t →
      ∃ ls : List Text, v = ls.flatten ∧ ∀ l ∈ ls, e.Literal root l
  | .template t => (∀ n, e.Asks p t n → e.Covers root p n) →
      ∃ ls : List Text, v = t.runs.1 ++ ls.flatten ∧ ∀ l ∈ ls, l ∈ t.runs.2 ∨ e.Literal root l
  | .request n => e.Covers root p n →
      ∃ ls : List Text, v = ls.flatten ∧ ∀ l ∈ ls, e.Literal root l

theorem Gives.madeOfLiterals {p : List Text} {task : Task} {r : Except Fault Text}
    (h : e.Gives p task r) (hr : r = .ok v) (root : Text) : e.MadeOfLiterals root p v task := by
  induction h generalizing v with
  | @text p t r _ ih =>
      intro hreach
      cases r with
      | error f => cases hr
      | ok filled =>
          have hclose : (e.reading t).close e.marker e.location filled = .ok v := hr
          have hv : filled = v := by
            rw [Reading.close] at hclose
            cases hunclosed : (e.reading t).unclosed with
            | none => rw [hunclosed] at hclose; exact Except.ok.inj hclose
            | some u => rw [hunclosed] at hclose; cases hclose
          subst hv
          obtain ⟨ls, hls, hmem⟩ := ih rfl fun n hn _ => hreach.value hn
          refine ⟨(e.reading t).template.runs.1 :: ls, hls, ?_⟩
          intro l hl
          rcases List.mem_cons.mp hl with rfl | hl
          · exact ⟨p, t, hreach, List.mem_cons_self⟩
          · exact (hmem l hl).elim (fun h => ⟨p, t, hreach, List.mem_cons_of_mem _ h⟩) id
  | done =>
      intro _
      exact ⟨[], (Except.ok.inj hr).symm, List.forall_mem_nil _⟩
  | @char p c rest r _ ih =>
      intro hcovers
      cases r with
      | error f => cases hr
      | ok after =>
          obtain rfl := Except.ok.inj hr
          obtain ⟨ls, rfl, hmem⟩ := ih rfl fun n hn => hcovers n (.char hn)
          exact ⟨ls, rfl, hmem⟩
  | @token p name rest n here r hn hq _ _ ihq ihr =>
      intro hcovers
      cases r with
      | error f => cases hr
      | ok after =>
          obtain rfl := Except.ok.inj hr
          obtain ⟨ls, rfl, hmem⟩ := ihq rfl (hcovers n (.token hn))
          obtain ⟨ls', rfl, hmem'⟩ := ihr rfl fun n' hn' => hcovers n' (.rest hn hq hn')
          -- the value comes first, and then the characters after the token
          refine ⟨ls ++ rest.runs.1 :: ls', ?_, ?_⟩
          · rw [List.flatten_append, List.flatten_cons]
            rfl
          · intro l hl
            rcases List.mem_append.mp hl with hl | hl
            · exact Or.inr (hmem l hl)
            · rcases List.mem_cons.mp hl with rfl | hl
              · exact Or.inl List.mem_cons_self
              · exact (hmem' l hl).imp_left (List.mem_cons_of_mem _)
  | badName _ _ => cases hr
  | badToken _ _ _ _ => cases hr
  | refused _ => cases hr
  | missing _ _ => cases hr
  | @value p n v' r hrefuse hlookup _ ih =>
      intro hcovers
      exact ih hr (hcovers v' hrefuse hlookup)

/-- The value of a text consists of literals of the text and of the texts expanded in it. -/
theorem exists_literals (h : e.Gives [] (.text t) (.ok v)) :
    ∃ ls : List Text, v = ls.flatten ∧ ∀ l ∈ ls, e.Literal t l :=
  h.madeOfLiterals rfl t .root

/-! ## Seams -/

/-- A value is put together from literals with one character at the end of what comes before a cut
    between them, and another one at the start of what comes after it. -/
def Seam (e : Expander) (root value : Text) (x y : Char) : Prop :=
  ∃ before after : List Text, value = before.flatten ++ after.flatten ∧
    (∀ l ∈ before ++ after, e.Literal root l) ∧
    before.flatten.getLast? = some x ∧ after.flatten.head? = some y

/-- Two characters side by side are in one of the parts of a text, or on both sides of a cut between
    parts. -/
theorem infix_flatten {ls : List Text} (h : [x, y] <:+: ls.flatten) :
    (∃ l ∈ ls, [x, y] <:+: l) ∨ ∃ before after, ls = before ++ after ∧
      before.flatten.getLast? = some x ∧ after.flatten.head? = some y := by
  induction ls with
  | nil => exact nomatch List.infix_nil.mp h
  | cons l ls ih =>
      have hrest : [x, y] <:+: ls.flatten → (∃ l' ∈ l :: ls, [x, y] <:+: l') ∨
          ∃ before after, l :: ls = before ++ after ∧
            before.flatten.getLast? = some x ∧ after.flatten.head? = some y := by
        intro hin
        rcases ih hin with ⟨l', hl', hin'⟩ | ⟨before, after, rfl, hx, hy⟩
        · exact Or.inl ⟨l', List.mem_cons_of_mem _ hl', hin'⟩
        · refine Or.inr ⟨l :: before, after, rfl, ?_, hy⟩
          rw [List.flatten_cons, List.getLast?_append, hx]
          rfl
      rw [List.flatten_cons, List.infix_append_iff] at h
      rcases h with h | h | ⟨a, b, hab, ha, hb⟩
      · exact Or.inl ⟨l, List.mem_cons_self, h⟩
      · exact hrest h
      · -- the end of the first part is before the two characters, between them or after them
        rw [List.cons_eq_append_iff] at hab
        rcases hab with ⟨rfl, rfl⟩ | ⟨a, rfl, hab⟩
        · exact hrest hb.isInfix
        rw [List.cons_eq_append_iff] at hab
        rcases hab with ⟨rfl, rfl⟩ | ⟨a, rfl, hab⟩
        · obtain ⟨start, rfl⟩ := ha
          obtain ⟨rest, hrest'⟩ := hb
          refine Or.inr ⟨[start ++ [x]], ls, rfl, ?_, ?_⟩
          · rw [List.flatten_singleton, List.getLast?_concat]
          · rw [← hrest']
            rfl
        · obtain ⟨rfl, -⟩ := List.append_eq_nil_iff.mp hab.symm
          exact Or.inl ⟨l, List.mem_cons_self, ha.isInfix⟩

/-- Two characters side by side in a value were put together at a seam, or are in a literal. -/
theorem seam_or_literal (h : e.Gives [] (.text t) (.ok v)) (hv : [x, y] <:+: v) :
    e.Seam t v x y ∨ ∃ l, e.Literal t l ∧ [x, y] <:+: l := by
  obtain ⟨ls, rfl, hmem⟩ := exists_literals h
  rcases infix_flatten hv with ⟨l, hl, hin⟩ | ⟨before, after, rfl, hx, hy⟩
  · exact Or.inr ⟨l, hmem l hl, hin⟩
  · exact Or.inl ⟨before, after, List.flatten_append, hmem, hx, hy⟩

/-- A marker that is left in a value was put together at a seam. -/
theorem seam_of_marker (hm : e.marker.Apart) (htext : e.marker.text = [x, y])
    (h : e.Gives [] (.text t) (.ok v)) (hv : [x, y] <:+: v) : e.Seam t v x y := by
  refine (seam_or_literal h hv).resolve_right ?_
  rintro ⟨l, ⟨p, s, -, hl⟩, hin⟩
  exact Marker.not_infix_of_mem_literals hm hl (htext ▸ hin)

end Expander

end CompilationDatabase
