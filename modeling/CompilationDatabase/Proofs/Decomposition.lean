import CompilationDatabase.Expansion
import CompilationDatabase.Proofs.Balanced

/-!
# Decompositions — a text as literals, tokens and an unclosed tail

A `Decomposition` cuts a text into literals in which the marker does not occur, tokens with balanced
names between them, and a tail that no closing ends. Every text has exactly one
(`exists_decomposition`, `Decomposition.eq_of_text`).

`Decomposition.evaluate` is what an expansion should do with it: the tokens from left to right, then
the fault of the tail if there is one. `expand_eq_evaluate` says that `expand` does so, for look-ups in
any monad; in a monad with state this fixes which names are looked up, how often and in which order.
-/

namespace CompilationDatabase

/-- A text in which the marker does not occur. -/
abbrev Marker.Literal (m : Marker) := {t : Text // ¬ m.text <:+: t}

/-- What follows a marker that is never closed: it starts with no balanced name and closing. -/
abbrev Marker.Tail (m : Marker) :=
  {u : Text // ∀ name rest, Balanced m name → u ≠ name ++ ')' :: rest}

/-- A literal, and the token that follows it. -/
structure Piece (m : Marker) where
  literal : m.Literal
  name    : {b : Text // Balanced m b}

/-- A text cut into pieces, a last literal, and what follows a marker that is never closed. -/
structure Decomposition (m : Marker) where
  pieces : List (Piece m)
  last   : m.Literal
  tail   : Option m.Tail

variable {m : Marker}

/-- What stands after a literal: nothing, or a marker and what follows it. -/
def Marker.after (m : Marker) : Option Text → Text
  | none => []
  | some u => m.text ++ u

namespace Decomposition

/-- The text of some pieces and of what follows them. -/
def textOf (m : Marker) : List (Piece m) → m.Literal → Option m.Tail → Text
  | [], last, tail => last.1 ++ m.after (tail.map (·.1))
  | p :: ps, last, tail => p.literal.1 ++ m.after (some (p.name.1 ++ ')' :: textOf m ps last tail))

/-- The text that was cut. -/
def text (d : Decomposition m) : Text := textOf m d.pieces d.last d.tail

/-- The fault of a tail: its fragment is the marker and all that follows. -/
def fault (location : Option Text) (u : m.Tail) : Fault :=
  .failed (if m.text <:+: u.1 then .crossedToken (m.text ++ u.1) else .unclosedToken (m.text ++ u.1))
    location

/-- Replaces the tokens from left to right, each by what its name stands for, and then fails if there
    is a tail. -/
def evaluate {μ : Type → Type} [Monad μ] [MonadExceptOf Fault μ] (location : Option Text)
    (value : Text → μ Text) (d : Decomposition m) : μ Text := do
  let filled ← d.pieces.mapM fun p => do
    let here ← value p.name.1
    return p.literal.1 ++ here
  match d.tail with
  | none => return filled.flatten ++ d.last.1
  | some u => throw (fault location u)

end Decomposition

/-! ## Exactly one decomposition -/

/-- A text in which the marker occurs has a first place where it does. -/
theorem Marker.exists_first {t : Text} (h : m.text <:+: t) :
    ∃ (l : m.Literal) (u : Text), t = l.1 ++ (m.text ++ u) := by
  induction t with
  | nil => exact nomatch List.infix_nil.mp h
  | cons c cs ih =>
      by_cases hs : m.text <+: c :: cs
      · obtain ⟨u, hu⟩ := hs
        exact ⟨⟨[], fun h => nomatch List.infix_nil.mp h⟩, u, hu.symm⟩
      · obtain ⟨⟨l, hl⟩, u, rfl⟩ := ih ((List.infix_cons_iff.mp h).resolve_left hs)
        refine ⟨⟨c :: l, fun hc => ?_⟩, u, rfl⟩
        rcases List.infix_cons_iff.mp hc with hp | hi
        · exact hs (hp.trans (List.prefix_append (c :: l) _))
        · exact hl hi

/-- The literal in front of the first marker is determined by the text, and so is what follows. -/
theorem Marker.literal_unique (hm : m.Apart) {l l' : Text} {u u' : Option Text}
    (hl : ¬ m.text <:+: l) (hl' : ¬ m.text <:+: l') (h : l ++ m.after u = l' ++ m.after u') :
    l = l' ∧ u = u' := by
  -- a marker that starts in one literal would occur in the other
  have hne : ∀ {c : Char} {cs : Text} {o o' : Option Text}, ¬ m.text <:+: c :: cs →
      m.after o ≠ c :: (cs ++ m.after o') := by
    intro c cs o o' hc heq
    have hprefix : ¬ m.text <+: c :: cs := fun hp => hc hp.isInfix
    cases o with
    | none => exact nomatch heq
    | some u =>
        have hm' : m.text <+: c :: (cs ++ m.after o') := heq ▸ List.prefix_append m.text u
        cases o' with
        | none => exact hprefix (by simpa [after] using hm')
        | some u' => exact not_prefix_append hm.head hprefix hm'
  induction l generalizing l' with
  | nil =>
      cases l' with
      | nil =>
          refine ⟨rfl, ?_⟩
          have h' : m.after u = m.after u' := h
          cases u <;> cases u'
          · rfl
          · exact nomatch h'
          · exact nomatch h'
          · exact congrArg some (List.append_cancel_left h')
      | cons c cs => exact absurd h (hne hl')
  | cons c cs ih =>
      cases l' with
      | nil => exact absurd h.symm (hne hl)
      | cons c' cs' =>
          obtain ⟨hc, hcs⟩ := List.cons.inj h
          rw [List.infix_cons_iff] at hl hl'
          obtain ⟨rfl, rfl⟩ := ih (fun hi => hl (Or.inr hi)) (fun hi => hl' (Or.inr hi)) hcs
          exact ⟨by rw [hc], rfl⟩

/-- Every text has a decomposition. -/
theorem exists_decomposition (t : Text) : ∃ d : Decomposition m, d.text = t := by
  induction hn : t.length using Nat.strongRecOn generalizing t with
  | ind n ih =>
      subst hn
      by_cases hs : m.text <:+: t
      · -- the first marker opens a token if a balanced name is closed after it, and else the tail
        obtain ⟨l, u, rfl⟩ := Marker.exists_first hs
        by_cases hu : ∃ name rest, Balanced m name ∧ u = name ++ ')' :: rest
        · obtain ⟨name, rest, hname, rfl⟩ := hu
          have hlen : rest.length < (l.1 ++ (m.text ++ (name ++ ')' :: rest))).length := by
            simp only [List.length_append, List.length_cons]
            omega
          obtain ⟨d, rfl⟩ := ih _ hlen rest rfl
          exact ⟨⟨⟨l, ⟨name, hname⟩⟩ :: d.pieces, d.last, d.tail⟩, rfl⟩
        · exact ⟨⟨[], l, some ⟨u, fun name rest hname heq => hu ⟨name, rest, hname, heq⟩⟩⟩, rfl⟩
      · exact ⟨⟨[], ⟨t, hs⟩, none⟩, List.append_nil t⟩

/-- No text has two decompositions. -/
theorem Decomposition.eq_of_text (hm : m.Apart) {d d' : Decomposition m} (h : d.text = d'.text) :
    d = d' := by
  obtain ⟨ps, last, tail⟩ := d
  obtain ⟨ps', last', tail'⟩ := d'
  -- a tail starts with no token, so it is never taken for one
  have hne : ∀ {o : Option m.Tail} {p : Piece m} {t : Text},
      o.map (·.1) ≠ some (p.name.1 ++ ')' :: t) := by
    intro o p t heq
    obtain ⟨u, -, hu⟩ := Option.map_eq_some_iff.mp heq
    exact u.2 _ _ p.name.2 hu
  induction ps generalizing ps' with
  | nil =>
      cases ps' with
      | nil =>
          obtain ⟨hlast, htail⟩ := Marker.literal_unique hm last.2 last'.2 h
          obtain rfl := Subtype.ext hlast
          obtain rfl := Option.map_injective Subtype.val_injective htail
          rfl
      | cons p ps' => exact absurd (Marker.literal_unique hm last.2 p.literal.2 h).2 hne
  | cons p ps ih =>
      cases ps' with
      | nil => exact absurd (Marker.literal_unique hm p.literal.2 last'.2 h).2.symm hne
      | cons p' ps' =>
          obtain ⟨hl, hu⟩ := Marker.literal_unique hm p.literal.2 p'.literal.2 h
          have hu' := Option.some.inj hu
          -- the names are equal, and with them what follows their closings
          have hname := p.name.2.eq_of_close hm p'.name.2 hu'
          rw [hname] at hu'
          have hrest := (List.cons.inj (List.append_cancel_left hu')).2
          have hd := ih ps' hrest
          obtain ⟨l, b⟩ := p
          obtain ⟨l', b'⟩ := p'
          obtain rfl := Subtype.ext hl
          obtain rfl := Subtype.ext hname
          injection hd with hps hlast htail
          rw [hps, hlast, htail]

/-! ## Evaluation -/

section Evaluation

variable {μ : Type → Type} [Monad μ] [LawfulMonad μ]

/-- Characters in front of a template are kept. -/
theorem Template.fill_ofText_append (value : Text → μ Text) (l : Text) (t : Template) :
    (ofText l ++ t).fill value = (do
      let after ← t.fill value
      return l ++ after) := by
  induction l with
  | nil => exact (bind_pure _).symm
  | cons c cs ih =>
      show (do let after ← (ofText cs ++ t).fill value; return c :: after) = _
      rw [ih, bind_assoc]
      simp only [pure_bind, List.cons_append]

/-- Characters are filled in as they are. -/
theorem Template.fill_ofText (value : Text → μ Text) (l : Text) :
    (ofText l).fill value = pure l := by
  have h := fill_ofText_append value l .done
  rw [append_done] at h
  rw [h]
  show (do let after ← pure []; return l ++ after) = _
  rw [pure_bind, List.append_nil]

namespace Decomposition

/-- The reading of a decomposed text: its pieces are filled in from left to right, and its tail is the
    token that is never closed. -/
theorem reading_text (hm : m.Apart) (value : Text → μ Text) (d : Decomposition m) :
    (Reading.ofText m d.text).template.fill value = (do
      let filled ← d.pieces.mapM fun p => do
        let name ← (Reading.ofText m p.name.1).template.fill value
        let here ← value name
        return p.literal.1 ++ here
      return filled.flatten ++ d.last.1) ∧
    (Reading.ofText m d.text).unclosed = d.tail.map fun u => ⟨m.symbols u.1⟩ := by
  obtain ⟨ps, last, tail⟩ := d
  show (Reading.ofText m (textOf m ps last tail)).template.fill value = _ ∧
    (Reading.ofText m (textOf m ps last tail)).unclosed = _
  induction ps with
  | nil =>
      rw [List.mapM_nil, pure_bind]
      cases tail with
      | none =>
          obtain ⟨htemplate, hunclosed⟩ := Reading.ofText_plain last.2
          rw [show textOf m [] last none = last.1 from List.append_nil _, htemplate, hunclosed]
          exact ⟨Template.fill_ofText value last.1, rfl⟩
      | some u =>
          obtain ⟨htemplate, hunclosed⟩ := Reading.ofText_open hm last.2 u.2
          rw [show textOf m [] last (some u) = last.1 ++ (m.text ++ u.1) from rfl, htemplate,
            hunclosed]
          exact ⟨Template.fill_ofText value last.1, rfl⟩
  | cons p ps ih =>
      obtain ⟨hfill, hunclosed⟩ := ih
      obtain ⟨htemplate, hopen⟩ :=
        Reading.ofText_token hm p.literal.2 p.name.2 (textOf m ps last tail)
      rw [show textOf m (p :: ps) last tail
        = p.literal.1 ++ (m.text ++ (p.name.1 ++ ')' :: textOf m ps last tail)) from rfl, htemplate,
        hopen]
      refine ⟨?_, hunclosed⟩
      rw [Template.fill_ofText_append, Template.fill, hfill, List.mapM_cons]
      simp only [bind_assoc, pure_bind, List.flatten_cons, List.append_assoc]

/-- A tail fails as a token that is never closed. -/
theorem fault_eq_cause (location : Option Text) (u : m.Tail) :
    fault location u = .failed ((⟨m.symbols u.1⟩ : Unclosed).cause m) location := by
  rw [fault, Unclosed.cause, Unclosed.text, Unclosed.isCrossed, Marker.flatMap_symbols]
  by_cases h : m.text <:+: u.1
  · rw [if_pos h, if_pos (List.contains_iff_mem.mpr (Marker.opening_mem_symbols.mpr h))]
  · rw [if_neg h, if_neg fun hc => h (Marker.opening_mem_symbols.mp (List.contains_iff_mem.mp hc))]

variable [MonadExceptOf Fault μ]

/-- Filling in the reading of a text is evaluating its decomposition. -/
theorem fill_text (hm : m.Apart) (location : Option Text) (value : Text → μ Text)
    (d : Decomposition m) :
    (Reading.ofText m d.text).fill m location value = d.evaluate location (fun name => do
      let name ← (Reading.ofText m name).template.fill value
      value name) := by
  obtain ⟨hfill, hunclosed⟩ := d.reading_text hm value
  rw [Reading.fill, evaluate, hfill, hunclosed, bind_assoc]
  simp only [bind_assoc, pure_bind]
  cases d.tail with
  | none => rfl
  | some u =>
      refine bind_congr fun filled => ?_
      show throw _ = throw (fault location u)
      rw [fault_eq_cause]

end Decomposition

variable [MonadExceptOf Fault μ]

/-- A balanced text is filled in by its template alone. -/
theorem Balanced.fill (hm : m.Apart) {b : Text} (h : Balanced m b) (location : Option Text)
    (value : Text → μ Text) :
    (Reading.ofText m b).fill m location value = (Reading.ofText m b).template.fill value := by
  obtain ⟨t, -, hread, -⟩ := h.exists_reading hm
  rw [hread]
  exact bind_pure _

/-- A text without the marker is expanded to itself, at any depth. -/
theorem expandWithin_plain (location : Option Text) (lookup : Text → μ Text) (depth : Nat)
    (pending : List Text) {v : Text} (h : ¬ m.text <:+: v) :
    expandWithin m location lookup depth pending v = pure v := by
  obtain ⟨htemplate, hunclosed⟩ := Reading.ofText_plain h
  cases depth <;> rw [expandWithin, Reading.fill, htemplate, hunclosed, Template.fill_ofText] <;>
    exact pure_bind _ _

/-- Values without the marker are put in place of names as they are found. -/
theorem expand_of_literals (location : Option Text) (lookup : Text → μ m.Literal) (depth : Nat)
    (t : Text) :
    expand m location (fun n => (·.1) <$> lookup n) (depth + 1) t
      = (Reading.ofText m t).fill m location fun n => (·.1) <$> lookup n := by
  show (Reading.ofText m t).fill m location _ = _
  -- no name is pending yet, and a value without the marker needs no expansion
  congr 1
  funext n
  rw [request, if_neg List.not_mem_nil, bind_map_left, map_eq_pure_bind]
  exact bind_congr fun v => expandWithin_plain location _ depth _ v.2

end Evaluation

/-- What cannot be filled in holds a name that stands for nothing. -/
theorem Template.exists_of_fill_error {value : Text → Except Fault Text} {t : Template} {f : Fault}
    (h : t.fill value = .error f) : ∃ n, value n = .error f := by
  induction t with
  | done => exact nomatch h
  | char c rest ih =>
      have h' : (rest.fill value).map (c :: ·) = .error f := h
      cases hr : rest.fill value with
      | error g => rw [hr] at h'; exact ih (hr.trans h')
      | ok after => rw [hr] at h'; exact nomatch h'
  | token name rest ihn ihr =>
      have h' : ((name.fill value).bind fun n => (value n).bind fun here =>
        (rest.fill value).map (here ++ ·)) = .error f := h
      cases hn : name.fill value with
      | error g => rw [hn] at h'; exact ihn (hn.trans h')
      | ok n =>
          rw [hn] at h'
          cases hv : value n with
          | error g => exact ⟨n, by simpa [Except.bind, hv] using h'⟩
          | ok here =>
              cases hr : rest.fill value with
              | error g => exact ihr (by simpa [Except.bind, Except.map, hv, hr] using h')
              | ok after => simp [Except.bind, Except.map, hv, hr] at h'

/-- The two markers that are used are apart. -/
theorem Marker.apart_of_eq (h : m = .macros ∨ m = .metadata) : m.Apart := by
  rcases h with rfl | rfl
  · exact macros_apart
  · exact metadata_apart

/-- **Expansion follows the grammar.** Every text has exactly one decomposition, and `expand` evaluates
    it when no value holds the marker: tokens from left to right, the name of each expanded first and
    then looked up once, and at the end the fault of the tail if there is one. The name of a token
    fails only where a look-up does. -/
theorem expand_eq_evaluate {μ : Type → Type} [Monad μ] [LawfulMonad μ] [MonadExceptOf Fault μ]
    (hm : m = .macros ∨ m = .metadata) (location : Option Text) (lookup : Text → μ m.Literal)
    (depth : Nat) (text : Text) :
    (∃! d : Decomposition m, d.text = text) ∧
    (∀ d : Decomposition m, d.text = text →
      expand m location (fun n => (·.1) <$> lookup n) (depth + 1) text
        = d.evaluate location (fun name => do
          let name ← expand m location (fun n => (·.1) <$> lookup n) (depth + 1) name
          (·.1) <$> lookup name)) ∧
    ∀ (find : Text → Except Fault m.Literal) (name : Text) (fault : Fault), Balanced m name →
      expand m location (fun n => (·.1) <$> find n) (depth + 1) name = .error fault →
      ∃ n, find n = .error fault := by
  have hapart := Marker.apart_of_eq hm
  refine ⟨?_, ?_, ?_⟩
  · obtain ⟨d, hd⟩ := exists_decomposition (m := m) text
    exact ⟨d, hd, fun d' hd' => Decomposition.eq_of_text hapart (hd'.trans hd.symm)⟩
  · rintro d rfl
    rw [expand_of_literals, d.fill_text hapart]
    rw [Decomposition.evaluate, Decomposition.evaluate]
    congr 2
    funext p
    rw [expand_of_literals, p.name.2.fill hapart]
  · intro find name fault hname h
    rw [expand_of_literals, hname.fill hapart] at h
    obtain ⟨n, hn⟩ := Template.exists_of_fill_error h
    refine ⟨n, ?_⟩
    cases hf : find n with
    | error g => rw [hf] at hn; exact congrArg _ (Except.error.inj hn)
    | ok v => rw [hf] at hn; exact nomatch hn

/-- A look-up that keeps a record of the names, and finds the same value for all of them. -/
def recordedLookup (name : Text) : ExceptT Fault (StateM (List Text)) Marker.macros.Literal := do
  modify (· ++ [name])
  return ⟨['B'], by decide⟩

/-- The text `a$(X$(Y))$(Z`: a token with a token in its name, and a tail. -/
def nestedThenOpen : Decomposition .macros where
  pieces := [⟨⟨['a'], by decide⟩, ⟨['X', '$', '(', 'Y', ')'],
    .char (by decide) (by decide)
      (@Balanced.token _ ['Y'] [] (.char (by decide) (by decide) .nil) .nil)⟩⟩]
  last := ⟨[], by decide⟩
  tail := some ⟨['Z'], fun name rest _ h => by
    have hmem : ')' ∈ ['Z'] := h ▸ List.mem_append_right name List.mem_cons_self
    exact absurd hmem (by decide)⟩

/-- The inner name is looked up first, then the outer one, and then the tail fails. -/
theorem expand_nestedThenOpen :
    (Marker.macros = .macros ∨ Marker.macros = .metadata) ∧
    (∃! d : Decomposition .macros, d.text = nestedThenOpen.text) ∧
    (expand .macros none (fun n => (·.1) <$> recordedLookup n) 1 nestedThenOpen.text).run.run []
      = (.error (.failed (.unclosedToken ['$', '(', 'Z']) none), [['Y'], ['X', 'B']]) := by
  have h := expand_eq_evaluate (Or.inl rfl) none recordedLookup 0 nestedThenOpen.text
  refine ⟨Or.inl rfl, h.1, ?_⟩
  rw [h.2.1 nestedThenOpen rfl]
  rfl

end CompilationDatabase
