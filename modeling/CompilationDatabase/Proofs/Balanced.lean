import CompilationDatabase.Proofs.Symbols

/-!
# Balanced names — the grammar of what stands between a marker and its closing

`Balanced` derives the names of closed tokens. The reading of a text pairs openings and closings from
the right, and the grammar says nothing of pairs; this file ties the two.

* `Balanced.exists_template` gives the template that a balanced text is read as, wherever it stands.
* `Balanced.eq_of_close` says that a text starts with at most one balanced name and its closing, and
  `exists_balanced` that it starts with one if its reading leaves a closing free.
* `ofText_plain`, `ofText_token` and `ofText_open` read a text from its first marker on.
-/

namespace CompilationDatabase

namespace Template

theorem append_done (t : Template) : t ++ done = t := by
  induction t with
  | done => rfl
  | char c rest ih => exact congrArg (char c) ih
  | token name rest _ ih => exact congrArg (token name) ih

theorem append_assoc (t u v : Template) : t ++ u ++ v = t ++ (u ++ v) := by
  induction t with
  | done => rfl
  | char c rest ih => exact congrArg (char c) ih
  | token name rest _ ih => exact congrArg (token name) ih

/-- The template of characters that stand for themselves. -/
def ofText : Text → Template
  | [] => .done
  | c :: cs => .char c (ofText cs)

/-- The symbols of a template whose characters are no closings. -/
def symbols : Template → List Symbol
  | .done => []
  | .char c rest => .char c :: rest.symbols
  | .token name rest => .opening :: (name.symbols ++ .closing :: rest.symbols)

end Template

namespace Reading

/-- A template that is written out in front of some symbols is read back. -/
theorem ofSymbols_template (t : Template) (s : List Symbol) :
    ofSymbols (t.symbols ++ s)
      = ⟨t ++ (ofSymbols s).first, (ofSymbols s).later, (ofSymbols s).unclosed⟩ := by
  induction t generalizing s with
  | done => rfl
  | char c rest ih =>
      show ofSymbols (.char c :: (rest.symbols ++ s)) = _
      rw [ofSymbols, ih]
      rfl
  | token name rest ihn ihr =>
      show ofSymbols (.opening :: (name.symbols ++ .closing :: rest.symbols ++ s)) = _
      rw [List.append_assoc, List.cons_append, ofSymbols, ihn, ofSymbols, ihr]
      show Reading.mk (.token (name ++ Template.done) _) _ _ = _
      rw [Template.append_done]
      rfl

/-- Characters in front of some symbols are read as they are, closings among them. -/
theorem template_ofSymbols_chars (l : Text) (s : List Symbol) :
    (ofSymbols (l.map Symbol.ofChar ++ s)).template = Template.ofText l ++ (ofSymbols s).template := by
  induction l with
  | nil => rfl
  | cons c cs ih =>
      show (ofSymbols (Symbol.ofChar c :: (cs.map Symbol.ofChar ++ s))).template
        = .char c (Template.ofText cs ++ (ofSymbols s).template)
      rw [← ih]
      by_cases h : c = ')'
      · rw [Symbol.ofChar, if_pos h, h]; rfl
      · rw [Symbol.ofChar, if_neg h]; rfl

/-- Characters in front of some symbols leave the token that is never closed. -/
theorem unclosed_ofSymbols_chars (l : Text) (s : List Symbol) :
    (ofSymbols (l.map Symbol.ofChar ++ s)).unclosed = (ofSymbols s).unclosed := by
  induction l with
  | nil => rfl
  | cons c cs ih =>
      show (ofSymbols (Symbol.ofChar c :: (cs.map Symbol.ofChar ++ s))).unclosed = _
      rw [← ih]
      by_cases h : c = ')'
      · rw [Symbol.ofChar, if_pos h]; rfl
      · rw [Symbol.ofChar, if_neg h]; rfl

end Reading

/-- The texts between a marker and its closing: characters other than a closing at which no marker
    starts, and whole tokens. -/
inductive Balanced (m : Marker) : Text → Prop
  /-- Nothing. -/
  | nil : Balanced m []
  /-- A character at which no marker starts, and what follows it. -/
  | char {c rest} : c ≠ ')' → ¬ m.text <+: c :: rest → Balanced m rest → Balanced m (c :: rest)
  /-- A token, and what follows it. -/
  | token {name rest} : Balanced m name → Balanced m rest →
      Balanced m (m.text ++ (name ++ ')' :: rest))

variable {m : Marker}

theorem Marker.Apart.close_not_mem_tail (hm : m.Apart) : ')' ∉ m.tail :=
  fun h => hm.close (List.mem_cons_of_mem _ h)

/-- A balanced text is written by a template, at the end of a text and before a closing. -/
theorem Balanced.exists_template (hm : m.Apart) {b : Text} (h : Balanced m b) :
    ∃ t : Template, m.symbols b = t.symbols ∧
      ∀ rest, m.symbols (b ++ ')' :: rest) = t.symbols ++ .closing :: m.symbols rest := by
  induction h with
  | nil => exact ⟨.done, rfl, Marker.symbols_close hm⟩
  | @char c rest hc hs _ ih =>
      obtain ⟨t, hend, hclose⟩ := ih
      have hchar : Symbol.ofChar c = .char c := if_neg hc
      refine ⟨.char c t, ?_, fun after => ?_⟩
      · rw [Marker.symbols_cons hs, hend, hchar]
        rfl
      · show m.symbols (c :: (rest ++ ')' :: after)) = _
        rw [Marker.symbols_cons (Marker.not_prefix_append hm.close_not_mem_tail hs), hclose, hchar]
        rfl
  | @token name rest _ _ ihn ihr =>
      obtain ⟨tn, -, hname⟩ := ihn
      obtain ⟨tr, hend, hclose⟩ := ihr
      refine ⟨.token tn tr, ?_, fun after => ?_⟩
      · rw [Marker.symbols_marker, hname, hend]
        rfl
      · rw [List.append_assoc, List.append_assoc, List.cons_append, Marker.symbols_marker, hname,
          hclose]
        show _ = .opening :: (tn.symbols ++ .closing :: tr.symbols) ++ _
        rw [List.cons_append, List.append_assoc]
        rfl

/-- What a balanced text is read as, alone and before a closing. -/
theorem Balanced.exists_reading (hm : m.Apart) {b : Text} (h : Balanced m b) :
    ∃ t : Template, t.symbols.flatMap (·.text m) = b ∧ Reading.ofText m b = ⟨t, [], none⟩ ∧
      ∀ rest, Reading.ofText m (b ++ ')' :: rest)
        = ⟨t, (Reading.ofText m rest).first :: (Reading.ofText m rest).later,
            (Reading.ofText m rest).unclosed⟩ := by
  obtain ⟨t, hend, hclose⟩ := h.exists_template hm
  refine ⟨t, ?_, ?_, fun rest => ?_⟩
  · rw [← hend, Marker.flatMap_symbols]
  · have hread := Reading.ofSymbols_template t []
    rw [List.append_nil, ← hend] at hread
    rw [Reading.ofText, hread]
    exact congrArg (Reading.mk · [] none) (Template.append_done t)
  · rw [Reading.ofText, hclose, Reading.ofSymbols_template]
    exact congrArg (Reading.mk · _ _) (Template.append_done t)

/-- The name of a token is determined by the text that it starts. -/
theorem Balanced.eq_of_close (hm : m.Apart) {b b' rest rest' : Text} (h : Balanced m b)
    (h' : Balanced m b') (heq : b ++ ')' :: rest = b' ++ ')' :: rest') : b = b' := by
  obtain ⟨t, ht, -, hread⟩ := h.exists_reading hm
  obtain ⟨t', ht', -, hread'⟩ := h'.exists_reading hm
  have hfirst := congrArg Reading.first ((hread rest).symm.trans (heq ▸ hread' rest'))
  rw [← ht, ← ht', show t = t' from hfirst]

namespace Reading

/-- A text that starts with a marker opens a token if its reading then has a free closing. -/
theorem ofText_marker (t : Text) :
    ofText m (m.text ++ t) = match (ofText m t).later with
      | [] => ⟨.done, [], some ⟨m.symbols t⟩⟩
      | next :: later => ⟨.token (ofText m t).first next, later, (ofText m t).unclosed⟩ := by
  rw [ofText, Marker.symbols_marker]
  rfl

/-- Where a reading leaves a closing free, a balanced text stands in front of it. -/
theorem exists_balanced (hm : m.Apart) {t : Text} (h : (ofText m t).later ≠ []) :
    ∃ b rest, Balanced m b ∧ t = b ++ ')' :: rest := by
  induction hn : t.length using Nat.strongRecOn generalizing t with
  | ind n ih =>
      subst hn
      by_cases hs : m.text <+: t
      · -- the token's name is balanced, and so is what stands between it and the free closing
        obtain ⟨u, rfl⟩ := hs
        rw [ofText_marker] at h
        cases hlater : (ofText m u).later with
        | nil => rw [hlater] at h; exact absurd rfl h
        | cons next later =>
            rw [hlater] at h
            obtain ⟨name, v, hname, rfl⟩ :=
              ih _ (m.length_lt_append u) (hlater ▸ List.cons_ne_nil _ _) rfl
            obtain ⟨_, -, -, hread⟩ := hname.exists_reading hm
            rw [hread v] at hlater
            have hv : (ofText m v).later ≠ [] := (List.cons.inj hlater).2 ▸ h
            have hlen : v.length < (m.text ++ (name ++ ')' :: v)).length := by
              refine Nat.lt_trans ?_ (m.length_lt_append _)
              rw [List.length_append, List.length_cons]
              omega
            obtain ⟨b, rest, hb, rfl⟩ := ih _ hlen hv rfl
            refine ⟨_, rest, hname.token hb, ?_⟩
            rw [List.append_assoc, List.append_assoc, List.cons_append]
      · cases t with
        | nil => exact absurd rfl h
        | cons c cs =>
            by_cases hc : c = ')'
            · exact ⟨[], cs, .nil, by rw [hc]; rfl⟩
            · have hlater : (ofText m (c :: cs)).later = (ofText m cs).later := by
                rw [ofText, Marker.symbols_cons hs, Symbol.ofChar, if_neg hc]
                rfl
              obtain ⟨b, rest, hb, rfl⟩ := ih _ (Nat.lt_succ_self _) (hlater ▸ h) rfl
              refine ⟨c :: b, rest, .char hc (fun hp => hs ?_) hb, rfl⟩
              exact hp.trans (List.prefix_append (c :: b) _)

/-- A text without the marker is read as characters. -/
theorem ofText_plain {l : Text} (h : ¬ m.text <:+: l) :
    (ofText m l).template = Template.ofText l ∧ (ofText m l).unclosed = none := by
  have htemplate := template_ofSymbols_chars l []
  have hunclosed := unclosed_ofSymbols_chars l []
  rw [List.append_nil] at htemplate hunclosed
  rw [ofText, Marker.symbols_plain h]
  exact ⟨htemplate.trans (Template.append_done _), hunclosed⟩

/-- A text is read up to its first marker, if a balanced name and its closing follow: then comes the
    token, and what follows it. -/
theorem ofText_token (hm : m.Apart) {l b : Text} (hl : ¬ m.text <:+: l) (hb : Balanced m b)
    (rest : Text) :
    (ofText m (l ++ (m.text ++ (b ++ ')' :: rest)))).template
        = Template.ofText l ++ .token (ofText m b).template (ofText m rest).template ∧
      (ofText m (l ++ (m.text ++ (b ++ ')' :: rest)))).unclosed = (ofText m rest).unclosed := by
  obtain ⟨t, -, hname, hread⟩ := hb.exists_reading hm
  have htoken : ofText m (m.text ++ (b ++ ')' :: rest))
      = ⟨.token t (ofText m rest).first, (ofText m rest).later, (ofText m rest).unclosed⟩ := by
    rw [ofText_marker, hread]
  have ht : (ofText m b).template = t := by rw [hname]; exact Template.append_done t
  rw [ht]
  rw [ofText, Marker.symbols_marker] at htoken
  rw [ofText, Marker.symbols_plain_append hm hl, template_ofSymbols_chars,
    unclosed_ofSymbols_chars, htoken]
  exact ⟨rfl, rfl⟩

/-- A text is read up to its first marker, if no balanced name and closing follow: that marker is
    never closed. -/
theorem ofText_open (hm : m.Apart) {l u : Text} (hl : ¬ m.text <:+: l)
    (hu : ∀ b rest, Balanced m b → u ≠ b ++ ')' :: rest) :
    (ofText m (l ++ (m.text ++ u))).template = Template.ofText l ∧
      (ofText m (l ++ (m.text ++ u))).unclosed = some ⟨m.symbols u⟩ := by
  have hopen : ofText m (m.text ++ u) = ⟨.done, [], some ⟨m.symbols u⟩⟩ := by
    rw [ofText_marker]
    cases hlater : (ofText m u).later with
    | nil => rfl
    | cons next later =>
        obtain ⟨b, rest, hb, heq⟩ := exists_balanced hm (hlater ▸ List.cons_ne_nil next later)
        exact absurd heq (hu b rest hb)
  rw [ofText, Marker.symbols_marker] at hopen
  rw [ofText, Marker.symbols_plain_append hm hl, template_ofSymbols_chars,
    unclosed_ofSymbols_chars, hopen]
  exact ⟨Template.append_done _, rfl⟩

end Reading

end CompilationDatabase
