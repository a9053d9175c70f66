import CompilationDatabase.Proofs.Contents
import CompilationDatabase.Proofs.Leftovers
import CompilationDatabase.Proofs.Pieces

/-!
# Clean lists — where the elements of a resolved value come from

The elements of a property value are trimmed before their tokens are replaced, and what is put in
place of a token is neither trimmed nor split. So a resolved value may have elements that are empty, or
have white space at an end; then the end lies in the value of a token, or where one begins or ends.

A place in a text is a cut, `x ++ y`. A cut of what comes of an expansion has the same neighbours as a
cut of the text that was expanded, or is `Spliced`: it lies in the value of a token, or at an end of it
(`cut_of_expansion`). An element that is trimmed has no cut with nothing on one side and a blank or
nothing on the other, so where an element of the result begins or ends with a blank, the cut is spliced
(`resolved_elements`).
-/

namespace CompilationDatabase

/-! ## Cuts -/

variable {m : Marker}

/-- A cut of what comes of a text lies in the value of one of the tokens of the text, or at an end of
    this value: what is before and after the token is expanded as well. -/
def Marker.Spliced (m : Marker) (expand : Text → Except Fault Text) (t x y : Text) : Prop :=
  ∃ before name after start v₁ v₂ rest, t = before ++ (m.text ++ (name ++ ')' :: after)) ∧
    Balanced m name ∧ expand before = .ok start ∧
    expand (m.text ++ (name ++ [')'])) = .ok (v₁ ++ v₂) ∧ expand after = .ok rest ∧
    x = start ++ v₁ ∧ y = v₂ ++ rest

/-- A text can be cut between the neighbours that a cut of another text has. -/
def Text.HasCut (t x y : Text) : Prop :=
  ∃ x' y', t = x' ++ y' ∧ x'.getLast? = x.getLast? ∧ y'.head? = y.head?

/-- A cut of three texts lies in the first one, in the second one or at an end of it, or in the third
    one. -/
theorem Text.cut_append_append {a b c x y : Text} (h : a ++ (b ++ c) = x ++ y) :
    (∃ a₂, a₂ ≠ [] ∧ a = x ++ a₂ ∧ y = a₂ ++ (b ++ c)) ∨
      (∃ b₁ b₂, b = b₁ ++ b₂ ∧ x = a ++ b₁ ∧ y = b₂ ++ c) ∨
      ∃ c₁, c₁ ≠ [] ∧ x = a ++ (b ++ c₁) ∧ c = c₁ ++ y := by
  rcases List.append_eq_append_iff.mp h with ⟨z, rfl, hz⟩ | ⟨a₂, rfl, rfl⟩
  · rcases List.append_eq_append_iff.mp hz with ⟨c₁, rfl, rfl⟩ | ⟨b₂, rfl, rfl⟩
    · by_cases hnil : c₁ = []
      · exact .inr (.inl ⟨b, [], by simp, by simp [hnil], by simp [hnil]⟩)
      · exact .inr (.inr ⟨c₁, hnil, rfl, rfl⟩)
    · exact .inr (.inl ⟨z, b₂, rfl, rfl, rfl⟩)
  · by_cases hnil : a₂ = []
    · exact .inr (.inl ⟨[], b, rfl, by simp [hnil], by simp [hnil]⟩)
    · exact .inl ⟨a₂, hnil, rfl, rfl⟩

section Fill

variable {location : Option Text} {value expand : Text → Except Fault Text}

/-- A text without the marker is left as it is. -/
theorem fill_literal (hexpand : ∀ t, expand t = (Reading.ofText m t).fill m location value)
    (l : m.Literal) : expand l.1 = .ok l.1 := by
  obtain ⟨htemplate, hunclosed⟩ := Reading.ofText_plain l.2
  rw [hexpand, Reading.fill, htemplate, hunclosed, Template.fill_ofText]
  rfl

/-- A token between two texts is replaced apart from them. -/
theorem fill_token (hm : m.Apart) (hexpand : ∀ t, expand t = (Reading.ofText m t).fill m location value)
    (l : m.Literal) {name : Text} (hname : Balanced m name) (rest : Text) :
    expand (l.1 ++ (m.text ++ (name ++ ')' :: rest))) = (do
      let here ← expand (m.text ++ (name ++ [')']))
      let after ← expand rest
      return l.1 ++ (here ++ after)) := by
  obtain ⟨⟨ps, last, tail⟩, rfl⟩ := exists_decomposition (m := m) rest
  have hempty : ¬ m.text <:+: [] := fun h => nomatch List.infix_nil.mp h
  have hwhole : (⟨⟨l, name, hname⟩ :: ps, last, tail⟩ : Decomposition m).text
      = l.1 ++ (m.text ++ (name ++ ')' :: (⟨ps, last, tail⟩ : Decomposition m).text)) := rfl
  have htoken : (⟨[⟨⟨[], hempty⟩, name, hname⟩], ⟨[], hempty⟩, none⟩ : Decomposition m).text
      = m.text ++ (name ++ [')']) := rfl
  rw [← hwhole, ← htoken, hexpand, hexpand, hexpand, Decomposition.fill_text hm,
    Decomposition.fill_text hm, Decomposition.fill_text hm]
  simp only [Decomposition.evaluate, List.mapM_cons, List.mapM_nil, bind_assoc, pure_bind]
  refine bind_congr fun _ => bind_congr fun here => bind_congr fun filled => ?_
  cases tail with
  | none => simp
  | some u => rfl

/-- What follows the first token of a text has its cuts where the text has them. -/
theorem Marker.Spliced.after_token (hm : m.Apart)
    (hexpand : ∀ t, expand t = (Reading.ofText m t).fill m location value) {l : m.Literal}
    {name here rest x y : Text} (hname : Balanced m name)
    (hhere : expand (m.text ++ (name ++ [')'])) = .ok here) (h : m.Spliced expand rest x y) :
    m.Spliced expand (l.1 ++ (m.text ++ (name ++ ')' :: rest))) (l.1 ++ (here ++ x)) y := by
  obtain ⟨before, other, after, start, v₁, v₂, tail, rfl, hother, hbefore, hvalue, hafter, rfl, rfl⟩ := h
  refine ⟨l.1 ++ (m.text ++ (name ++ ')' :: before)), other, after, l.1 ++ (here ++ start), v₁, v₂,
    tail, ?_, hother, ?_, hvalue, hafter, ?_, rfl⟩
  · simp
  · rw [fill_token hm hexpand l hname, hhere, hbefore]
    rfl
  · simp

theorem Text.HasCut.append {t x y : Text} (h : t.HasCut x y) (start start' : Text) (hx : x ≠ []) :
    Text.HasCut (start ++ t) (start' ++ x) y := by
  obtain ⟨x', y', rfl, hlast, hhead⟩ := h
  obtain ⟨c, hc⟩ : ∃ c, x.getLast? = some c := ⟨_, List.getLast?_eq_some_getLast hx⟩
  refine ⟨start ++ x', y', (List.append_assoc ..).symm, ?_, hhead⟩
  rw [List.getLast?_append, List.getLast?_append, hlast, hc, Option.some_or, Option.some_or]

/-- **Where a text that was expanded is cut.** A cut has the neighbours of a cut of the text, or it
    lies in the value of a token of the text, or at an end of one. -/
theorem cut_of_expansion (hm : m.Apart)
    (hexpand : ∀ t, expand t = (Reading.ofText m t).fill m location value) {t x y : Text}
    (h : expand t = .ok (x ++ y)) : t.HasCut x y ∨ m.Spliced expand t x y := by
  obtain ⟨⟨ps, last, tail⟩, rfl⟩ := exists_decomposition (m := m) t
  cases tail with
  | some u =>
      rw [hexpand, Decomposition.fill_text hm, Decomposition.evaluate] at h
      obtain ⟨_, -, h⟩ := ok_of_bind h
      cases h
  | none =>
      induction ps generalizing x with
      | nil =>
          have hlast : (⟨[], last, none⟩ : Decomposition m).text = last.1 := List.append_nil _
          rw [hlast] at h ⊢
          rw [fill_literal hexpand] at h
          exact .inl ⟨x, y, Except.ok.inj h, rfl, rfl⟩
      | cons p ps ih =>
          obtain ⟨l, name, hname⟩ := p
          have htext : (⟨⟨l, name, hname⟩ :: ps, last, none⟩ : Decomposition m).text
            = l.1 ++ (m.text ++ (name ++ ')' :: (⟨ps, last, none⟩ : Decomposition m).text)) := rfl
          rw [htext] at h ⊢
          generalize (⟨ps, last, none⟩ : Decomposition m).text = rest at h ih ⊢
          rw [fill_token hm hexpand l hname] at h
          obtain ⟨here, hhere, h⟩ := ok_of_bind h
          obtain ⟨after, hafter, h⟩ := ok_of_bind h
          rcases Text.cut_append_append (Except.ok.inj h) with
            ⟨l₂, hl₂, hl, rfl⟩ | ⟨v₁, v₂, rfl, rfl, rfl⟩ | ⟨x₂, hx₂, rfl, rfl⟩
          · refine .inl ⟨x, l₂ ++ (m.text ++ (name ++ ')' :: rest)), ?_, rfl, ?_⟩
            · rw [hl, List.append_assoc]
            · obtain ⟨c, cs, rfl⟩ := List.exists_cons_of_ne_nil hl₂
              rfl
          · exact .inr ⟨l.1, name, rest, l.1, v₁, v₂, after, rfl, hname, fill_literal hexpand l,
              hhere, hafter, rfl, rfl⟩
          · rcases ih hafter with hcut | hspliced
            · have hcut' := hcut.append (l.1 ++ (m.text ++ (name ++ [')']))) (l.1 ++ here) hx₂
              left
              simpa using hcut'
            · exact .inr (hspliced.after_token hm hexpand hname hhere)

end Fill

/-- An expansion fills in every text in the same way. -/
theorem exists_fill (m : Marker) (location : Option Text) (lookup : Text → Except Fault Text) (depth : Nat)
    (pending : List Text) : ∃ value : Text → Except Fault Text,
      ∀ t, expandWithin m location lookup depth pending t
        = (Reading.ofText m t).fill m location value := by
  cases depth with
  | zero => exact ⟨_, fun _ => rfl⟩
  | succ depth => exact ⟨_, fun _ => rfl⟩

/-! ## Elements -/

/-- The elements of a list trimmed, without those that are empty then. -/
def Text.tidied (list : Text) : Text :=
  join Origin.listSeparator (((pieces Origin.listSeparator list).map strip).filter (· ≠ []))

namespace Origin

variable {files : FileTree} {location : Option Text} {matching : Matching}
  {macros : NameTable matching} {o : Origin} {property : Text}

/-- A cut of what comes of an element lies in the value of a token: of a macro, or of a metadatum in
    the text that was expanded first. -/
def Spliced (files : FileTree) (location : Option Text) (macros : NameTable matching) (o : Origin)
    (property element x y : Text) : Prop :=
  ∃ text, o.expandMetadata files.times location property element.strip = .ok text ∧
    (Marker.macros.Spliced (macros.expand location) text x y ∨
      ∃ x' y', text = x' ++ y' ∧ x'.getLast? = x.getLast? ∧ y'.head? = y.head? ∧
        Marker.metadata.Spliced (o.expandMetadata files.times location property) element.strip x' y')

/-- An element is cut where it was cut when it was trimmed, or in a value. -/
theorem cut_of_expandElement {element x y : Text}
    (h : o.expandElement files.times location property macros element = .ok (x ++ y)) :
    element.strip.HasCut x y ∨ o.Spliced files location macros property element x y := by
  obtain ⟨text, htext, hv⟩ := ok_of_expandElement h
  obtain ⟨value, hmacros⟩ := exists_fill .macros location (macros.macroValue location) macros.size []
  rcases cut_of_expansion Marker.macros_apart hmacros hv with ⟨x', y', rfl, hx, hy⟩ | hspliced
  · obtain ⟨value', hmetadata⟩ :=
      exists_fill .metadata location (o.valueWithin files.times location property) (Metadata.all.length + 1) []
    rcases cut_of_expansion Marker.metadata_apart hmetadata htext
      with ⟨x₂, y₂, hcut, hx₂, hy₂⟩ | hspliced
    · exact .inl ⟨x₂, y₂, hcut, hx₂.trans hx, hy₂.trans hy⟩
    · exact .inr ⟨_, htext, .inr ⟨x', y', rfl, hx, hy, hspliced⟩⟩
  · exact .inr ⟨text, htext, .inl hspliced⟩

/-- Where a piece of a resolved value comes from: it stands in what comes of an element, between
    separators or ends. -/
structure StandsIn (files : FileTree) (location : Option Text) (macros : NameTable matching)
    (o : Origin) (property element piece a b : Text) : Prop where
  expands : o.expandElement files.times location property macros element = .ok (a ++ (piece ++ b))
  starts  : a = [] ∨ a.getLast? = some listSeparator
  ends    : b = [] ∨ b.head? = some listSeparator

/-- An element without tokens is trimmed. -/
theorem expandElement_plain {element : Text} (hmacros : ¬ Marker.macros.text <:+: element.strip)
    (hmetadata : ¬ Marker.metadata.text <:+: element.strip) :
    o.expandElement files.times location property macros element = .ok element.strip := by
  have htext : o.expandMetadata files.times location property element.strip = .ok element.strip :=
    expandWithin_plain _ _ _ _ hmetadata
  have hvalue : macros.expand location element.strip = .ok element.strip := expandWithin_plain _ _ _ _ hmacros
  simp only [expandElement, htext, hvalue, bind, Except.bind]
  rfl

/-! ## Ends of elements -/

/-- Where a text without separators is cut next to a separator or an end, it is cut at its own end. -/
theorem eq_nil_of_getLast? {x a y : Text} (hseparator : listSeparator ∉ x ++ y)
    (ha : a = [] ∨ a.getLast? = some listSeparator) (h : x.getLast? = a.getLast?) : x = [] := by
  rcases ha with rfl | hlast
  · exact List.getLast?_eq_none_iff.mp h
  · exact absurd (List.mem_append_left y (List.mem_of_getLast? (h.trans hlast))) hseparator

theorem eq_nil_of_head? {x b y : Text} (hseparator : listSeparator ∉ x ++ y)
    (hb : b = [] ∨ b.head? = some listSeparator) (h : y.head? = b.head?) : y = [] := by
  rcases hb with rfl | hhead
  · exact List.head?_eq_none_iff.mp h
  · exact absurd (List.mem_append_right x (List.mem_of_head? (h.trans hhead))) hseparator

variable {s piece a b : Text}

/-- A piece that starts where a trimmed element starts is clean there. -/
theorem startsClean_of_hasCut (hs : s.IsClean) (hseparator : listSeparator ∉ s)
    (ha : a = [] ∨ a.getLast? = some listSeparator) (hb : b = [] ∨ b.head? = some listSeparator)
    (h : s.HasCut a (piece ++ b)) : piece.StartsClean := by
  obtain ⟨x, y, rfl, hx, hy⟩ := h
  obtain rfl := eq_nil_of_getLast? hseparator ha hx
  obtain ⟨⟨c, hc, hblank⟩, -⟩ := hs
  cases piece with
  | nil =>
      -- the element would end where it starts
      obtain rfl := eq_nil_of_head? hseparator hb hy
      exact nomatch hc
  | cons d piece => exact ⟨c, hy.symm.trans hc, hblank⟩

/-- A piece that ends where a trimmed element ends is clean there. -/
theorem endsClean_of_hasCut (hs : s.IsClean) (hseparator : listSeparator ∉ s)
    (ha : a = [] ∨ a.getLast? = some listSeparator) (hb : b = [] ∨ b.head? = some listSeparator)
    (h : s.HasCut (a ++ piece) b) : piece.EndsClean := by
  obtain ⟨x, y, rfl, hx, hy⟩ := h
  obtain rfl := eq_nil_of_head? hseparator hb hy
  rw [List.append_nil] at hs hseparator
  obtain ⟨-, c, hc, hblank⟩ := hs
  by_cases hpiece : piece = []
  · rw [hpiece, List.append_nil] at hx
    obtain rfl := eq_nil_of_getLast? (y := []) (by rwa [List.append_nil]) ha hx
    exact nomatch hc
  · refine ⟨c, ?_, hblank⟩
    rw [List.getLast?_append, List.getLast?_eq_some_getLast hpiece, Option.some_or] at hx
    rw [List.getLast?_eq_some_getLast hpiece, ← hx, hc]

/-- What comes of a text without tokens: its elements are trimmed. -/
theorem expandProperty_plain {t : Text} (hmacros : ¬ Marker.macros.text <:+: t)
    (hmetadata : ¬ Marker.metadata.text <:+: t) :
    o.expandProperty files.times location property macros t = .ok t.tidied := by
  have heach : ∀ element ∈ t.pieces listSeparator,
      o.expandElement files.times location property macros element = .ok element.strip := by
    intro element helement
    have hinfix : element.strip <:+: t :=
      (Text.strip_infix element).trans (Text.infix_of_mem_pieces helement)
    exact expandElement_plain (fun h => hmacros (h.trans hinfix)) fun h => hmetadata (h.trans hinfix)
  rw [expandProperty, mapM_congr heach]
  show ((t.pieces listSeparator).mapM (fun element => pure element.strip) >>= _) = _
  rw [List.mapM_pure]
  rfl

/-- A clean list is tidy already. -/
theorem tidied_of_isClean {t : Text} (h : ∀ piece ∈ t.pieces listSeparator, piece.IsClean) :
    t.tidied = t := by
  have hstrip : (t.pieces listSeparator).map Text.strip = t.pieces listSeparator :=
    (List.map_congr_left fun piece hpiece => Text.strip_of_isClean (h piece hpiece)).trans
      (List.map_id _)
  have hfilter : (t.pieces listSeparator).filter (· ≠ []) = t.pieces listSeparator := by
    refine List.filter_eq_self.mpr fun piece hpiece => decide_eq_true ?_
    rintro rfl
    obtain ⟨⟨c, hc, -⟩, -⟩ := h [] hpiece
    exact nomatch hc
  rw [Text.tidied, hstrip, hfilter, Text.join_pieces]

/-- What was tidied is a clean list. -/
theorem isClean_of_tidied {t : Text} (ht : t.tidied ≠ []) :
    ∀ piece ∈ t.tidied.pieces listSeparator, piece.IsClean := by
  intro piece h
  rw [Text.tidied] at ht h
  generalize hparts : ((t.pieces listSeparator).map Text.strip).filter (· ≠ []) = parts at ht h
  have hsome : parts ≠ [] := by
    rintro rfl
    exact ht rfl
  rw [Text.pieces_join _ hsome] at h
  obtain ⟨part, hpart, hpiece⟩ := List.mem_flatMap.mp h
  rw [← hparts] at hpart
  obtain ⟨hmap, hpart⟩ := List.mem_filter.mp hpart
  obtain ⟨element, helement, rfl⟩ := List.mem_map.mp hmap
  -- an element that is trimmed is one piece
  have hone : listSeparator ∉ element.strip := fun hmem =>
    Text.not_mem_of_mem_pieces helement ((Text.strip_infix element).subset hmem)
  rw [Text.pieces_of_not_mem hone] at hpiece
  rw [List.mem_singleton.mp hpiece]
  exact Text.isClean_strip (of_decide_eq_true hpart)

/-- **Where a resolved value is not a clean list.** Each of its pieces comes from an element of the
    value, and an end at which it is empty or has white space lies in the value of a token, or at an
    end of one. If the result holds no token, resolving it again gives it tidied: a clean list, and the
    same if it was clean. -/
theorem resolved_elements {raw resolved : Text}
    (h : o.expandProperty files.times location property macros raw = .ok resolved) (hne : resolved ≠ []) :
    (∀ piece ∈ resolved.pieces listSeparator, ∃ element ∈ raw.pieces listSeparator, ∃ a b,
      o.StandsIn files location macros property element piece a b ∧
      (¬ piece.StartsClean → o.Spliced files location macros property element a (piece ++ b)) ∧
      (¬ piece.EndsClean → o.Spliced files location macros property element (a ++ piece) b)) ∧
    (¬ Marker.macros.text <:+: resolved → ¬ Marker.metadata.text <:+: resolved →
      o.expandProperty files.times location property macros resolved = .ok resolved.tidied ∧
      (resolved.tidied ≠ [] → ∀ piece ∈ resolved.tidied.pieces listSeparator, piece.IsClean) ∧
      ((∀ piece ∈ resolved.pieces listSeparator, piece.IsClean) → resolved.tidied = resolved)) := by
  refine ⟨?_, fun hmacros hmetadata => ⟨expandProperty_plain hmacros hmetadata, isClean_of_tidied,
    tidied_of_isClean⟩⟩
  intro piece hpiece
  obtain ⟨elements, hexpanded, rfl⟩ := ok_of_expandProperty h
  have hsome : elements.filter (· ≠ []) ≠ [] := by
    intro hnone
    rw [hnone] at hne
    exact hne rfl
  rw [Text.pieces_join _ hsome] at hpiece
  obtain ⟨v, hv, hpiece⟩ := List.mem_flatMap.mp hpiece
  obtain ⟨hv, hvalue⟩ := List.mem_filter.mp hv
  obtain ⟨element, helement, hexpand⟩ := exists_mem_of_forall₂ hexpanded hv
  obtain ⟨a, b, rfl, ha, hb⟩ := Text.exists_of_mem_pieces hpiece
  refine ⟨element, helement, a, b, ⟨hexpand, ha, hb⟩, ?_⟩
  have hseparator : listSeparator ∉ element.strip := fun hmem =>
    Text.not_mem_of_mem_pieces helement ((Text.strip_infix element).subset hmem)
  have hclean : element.strip.IsClean := by
    refine Text.isClean_strip fun hnil => ?_
    have hempty : ∀ m : Marker, ¬ m.text <:+: element.strip := by
      intro m hm
      rw [hnil] at hm
      exact nomatch List.infix_nil.mp hm
    rw [expandElement_plain (hempty _) (hempty _), hnil] at hexpand
    exact of_decide_eq_true hvalue (Except.ok.inj hexpand).symm
  constructor
  · intro hstart
    rcases cut_of_expandElement hexpand with hcut | hspliced
    · exact absurd (startsClean_of_hasCut hclean hseparator ha hb hcut) hstart
    · exact hspliced
  · intro hend
    rw [← List.append_assoc] at hexpand
    rcases cut_of_expandElement hexpand with hcut | hspliced
    · exact absurd (endsClean_of_hasCut hclean hseparator ha hb hcut) hend
    · exact hspliced

/-- A macro whose value is a list that is not clean. -/
def uncleanMacro : NameTable .ignoringCase := .ofList [⟨['A'], "a;; b ".toList⟩]

/-- An item of a project in the root directory. -/
def onlyItem : Origin := ⟨"f.c".toList, ['/']⟩

/-- A machine without files. -/
def noFiles : FileTree := { root := .directory [], current := [] }

theorem expandProperty_uncleanMacro :
    onlyItem.expandProperty noFiles.times none ['P'] uncleanMacro "$(A)".toList
      = .ok "a;; b ".toList :=
  rfl

/-- A resolved value may have an element that is empty and one with white space at its ends, and then
    resolving it again changes it. -/
theorem resolved_unclean :
    onlyItem.expandProperty noFiles.times none ['P'] uncleanMacro "$(A)".toList
        = .ok "a;; b ".toList ∧
      Text.pieces listSeparator "a;; b ".toList = [['a'], [], " b ".toList] ∧
      ¬ Text.IsClean [] ∧ ¬ Text.IsClean " b ".toList ∧
      onlyItem.expandProperty noFiles.times none ['P'] uncleanMacro "a;; b ".toList
        = .ok "a;b".toList := by
  refine ⟨expandProperty_uncleanMacro, rfl, ?_, ?_, rfl⟩
  · rintro ⟨⟨c, hc, -⟩, -⟩
    exact nomatch hc
  · rintro ⟨⟨c, hc, hblank⟩, -⟩
    obtain rfl := Option.some.inj hc
    exact nomatch hblank

/-- The pieces of that value come from its one element, and where they are not clean from the macro. -/
theorem resolved_elements_uncleanMacro :
    (∀ piece ∈ Text.pieces listSeparator "a;; b ".toList,
      ∃ element ∈ Text.pieces listSeparator "$(A)".toList, ∃ a b,
        onlyItem.StandsIn noFiles none uncleanMacro ['P'] element piece a b ∧
        (¬ piece.StartsClean →
          onlyItem.Spliced noFiles none uncleanMacro ['P'] element a (piece ++ b)) ∧
        (¬ piece.EndsClean →
          onlyItem.Spliced noFiles none uncleanMacro ['P'] element (a ++ piece) b)) ∧
      onlyItem.expandProperty noFiles.times none ['P'] uncleanMacro "a;; b ".toList
        = .ok "a;b".toList := by
  obtain ⟨helements, hagain⟩ := resolved_elements expandProperty_uncleanMacro (List.cons_ne_nil _ _)
  exact ⟨helements, (hagain (by decide) (by decide)).1⟩

end Origin

end CompilationDatabase
