import CompilationDatabase.Proofs.ResolvedItems
import CompilationDatabase.Proofs.Resolution
import CompilationDatabase.Proofs.Splices

/-!
# Leftovers — which markers a build leaves in its items

An item is resolved by expansions that each go through a text once: what they put together is not read
again. An identity has its macros expanded, and a property value has its metadata expanded, element by
element, and then its macros. So a marker may be left in three ways: it is put together where two
literals meet; it is a marker of metadata that no expansion of metadata sees, in an identity or in a
macro that is used by one; or it comes in with the value of a macro after the metadata were expanded.

`build_leaves` says that there is no other way, for every item of every build, and that nothing is left
where none of the three is there.
-/

namespace CompilationDatabase

/-! ## Expansions of one text -/

namespace Expander

variable {e : Expander} {root t : Text}

/-- Some characters stand in a literal of a value that is put in place of a name. -/
def Imports (e : Expander) (root part : Text) : Prop :=
  ∃ p t, p ≠ [] ∧ e.Reaches root p t ∧ ∃ l ∈ e.marker.literals t, part <:+: l

/-- While no name is pending the text itself is expanded. -/
theorem Reaches.eq_root {p : List Text} (h : e.Reaches root p t) (hp : p = []) : t = root := by
  cases h with
  | root => rfl
  | value => exact absurd (List.append_eq_nil_iff.mp hp).2 (List.cons_ne_nil _ _)

/-- What stands in a literal stands in the text, or comes in with a value. -/
theorem infix_or_imports (hm : e.marker.Apart) {l part : Text} (hl : e.Literal root l)
    (h : part <:+: l) : part <:+: root ∨ e.Imports root part := by
  obtain ⟨p, t, hreach, hmem⟩ := hl
  by_cases hp : p = []
  · obtain rfl := hreach.eq_root hp
    exact Or.inl (h.trans (Marker.infix_of_mem_literals hm hmem))
  · exact Or.inr ⟨p, t, hp, hreach, l, hmem, h⟩

/-- No literal of an expansion ends with a first character of a marker. -/
def EndsPlain (e : Expander) (root : Text) : Prop :=
  ∀ l, e.Literal root l → l.getLast? ≠ some '$' ∧ l.getLast? ≠ some '%'

/-- A seam has a literal that ends with its first character. -/
theorem Seam.exists_literal {v : Text} {x y : Char} (h : e.Seam root v x y) :
    ∃ l, e.Literal root l ∧ l.getLast? = some x := by
  obtain ⟨before, after, -, hliterals, hlast, -⟩ := h
  rw [List.getLast?_flatten] at hlast
  obtain ⟨l, hl, hx⟩ := List.exists_of_findSome?_eq_some hlast
  exact ⟨l, hliterals l (List.mem_append_left after (List.mem_reverse.mp hl)), hx⟩

theorem EndsPlain.not_seam_macros (h : e.EndsPlain root) (v : Text) (y : Char) :
    ¬ e.Seam root v '$' y := by
  intro hseam
  obtain ⟨l, hl, hlast⟩ := hseam.exists_literal
  exact (h l hl).1 hlast

theorem EndsPlain.not_seam_metadata (h : e.EndsPlain root) (v : Text) (y : Char) :
    ¬ e.Seam root v '%' y := by
  intro hseam
  obtain ⟨l, hl, hlast⟩ := hseam.exists_literal
  exact (h l hl).2 hlast

end Expander

namespace NameTable

variable {m : Matching} {macros : NameTable m} {location : Option Text} {t v : Text}

/-- A marker of macros that is left was put together. -/
theorem seam_of_expand (h : macros.expand location t = .ok v) (hv : Marker.macros.text <:+: v) :
    (macros.expander location).Seam t v '$' '(' :=
  Expander.seam_of_marker Marker.macros_apart rfl
    (h ▸ macros.gives_expand location (Nat.le_refl _) t) hv

/-- A marker of metadata that is left was put together, or is in a literal. -/
theorem seam_or_literal_of_expand (h : macros.expand location t = .ok v)
    (hv : Marker.metadata.text <:+: v) :
    (macros.expander location).Seam t v '%' '(' ∨
      ∃ l, (macros.expander location).Literal t l ∧ Marker.metadata.text <:+: l :=
  Expander.seam_or_literal (h ▸ macros.gives_expand location (Nat.le_refl _) t) hv

/-- What comes in with the value of a macro is in that value. -/
theorem exists_entry_of_imports {part : Text}
    (h : (macros.expander location).Imports t part) : ∃ e ∈ macros.entries, part <:+: e.value := by
  obtain ⟨p, s, hp, hreach, l, hl, hpart⟩ := h
  cases hreach with
  | root => exact absurd rfl hp
  | value _ _ _ hlookup =>
      obtain ⟨e, he, -, hvalue⟩ := Entry.exists_of_find? (macroValue_eq_ok.mp hlookup)
      rw [← hvalue] at hl
      exact ⟨e, he, hpart.trans (Marker.infix_of_mem_literals Marker.macros_apart hl)⟩

end NameTable

theorem exists_mem_of_forall₂ {α β : Type} {R : α → β → Prop} {l : List α} {l' : List β}
    (h : List.Forall₂ R l l') {y : β} (hy : y ∈ l') : ∃ x ∈ l, R x y := by
  induction h with
  | nil => exact nomatch hy
  | cons hxy _ ih =>
      rcases List.mem_cons.mp hy with rfl | hy
      · exact ⟨_, List.mem_cons_self, hxy⟩
      · obtain ⟨x, hx, hr⟩ := ih hy
        exact ⟨x, List.mem_cons_of_mem _ hx, hr⟩

/-- Neighbours in joined parts are neighbours in a part, if neither is the separator. -/
theorem Text.exists_infix_of_join {x y separator : Char} (hx : x ≠ separator) (hy : y ≠ separator)
    {parts : List Text} (h : [x, y] <:+: Text.join separator parts) :
    ∃ part ∈ parts, [x, y] <:+: part := by
  induction parts with
  | nil => exact nomatch List.infix_nil.mp h
  | cons part parts ih =>
      cases parts with
      | nil =>
          rw [show Text.join separator [part] = part from List.append_nil part] at h
          exact ⟨part, List.mem_cons_self, h⟩
      | cons next parts =>
          have hjoin : Text.join separator (part :: next :: parts)
              = part ++ separator :: Text.join separator (next :: parts) := rfl
          rw [hjoin, List.infix_append_iff, List.infix_cons_iff] at h
          rcases h with h | (h | h) | ⟨a, b, hab, ha, hb⟩
          · exact ⟨part, List.mem_cons_self, h⟩
          · exact absurd (List.cons_prefix_cons.mp h).1 hx
          · obtain ⟨found, hmem, hfound⟩ := ih h
            exact ⟨found, List.mem_cons_of_mem _ hmem, hfound⟩
          · -- what follows the part starts with the separator, so nothing of the two is there
            cases b with
            | nil =>
                rw [List.append_nil] at hab
                exact ⟨part, List.mem_cons_self, hab ▸ ha.isInfix⟩
            | cons c cs =>
                have hc : c = separator := (List.cons_prefix_cons.mp hb).1
                have hmem : c ∈ [x, y] := hab ▸ List.mem_append_right a List.mem_cons_self
                rcases List.mem_cons.mp hmem with heq | hmem
                · exact absurd (heq.symm.trans hc) hx
                · exact absurd ((List.mem_singleton.mp hmem).symm.trans hc) hy

/-! ## Items -/

/-- What may be left in an identity. -/
structure NameTable.LeavesIdentity (macros : NameTable .ignoringCase) (location : Option Text)
    (raw resolved : Text) : Prop where
  macros_left : Marker.macros.text <:+: resolved → (macros.expander location).Seam raw resolved '$' '('
  metadata_left : Marker.metadata.text <:+: resolved →
    (macros.expander location).Seam raw resolved '%' '(' ∨ Marker.metadata.text <:+: raw ∨
      (macros.expander location).Imports raw Marker.metadata.text

/-- What may be left in the value of a property: each element has its metadata expanded to a text, and
    that has its macros expanded. -/
structure Origin.LeavesValue (files : FileTree) (location : Option Text)
    (macros : NameTable .ignoringCase) (o : Origin) (property raw resolved : Text) : Prop where
  macros_left : Marker.macros.text <:+: resolved →
    ∃ element ∈ raw.pieces listSeparator, ∃ text value,
      o.expandMetadata files.times location property element.strip = .ok text ∧
      macros.expand location text = .ok value ∧ (macros.expander location).Seam text value '$' '('
  metadata_left : Marker.metadata.text <:+: resolved →
    ∃ element ∈ raw.pieces listSeparator, ∃ text value,
      o.expandMetadata files.times location property element.strip = .ok text ∧
      macros.expand location text = .ok value ∧
      ((o.expander files.times location property).Seam element.strip text '%' '(' ∨
        (macros.expander location).Seam text value '%' '(' ∨
        (macros.expander location).Imports text Marker.metadata.text)

/-- An item as it was left by the walk and as it is resolved, and what may be left in it. -/
structure Item.Leaves (files : FileTree) (location : Option Text) (macros : NameTable .ignoringCase)
    (i : Item) (p : PropertyTable) (j : Item) (q : PropertyTable) : Prop where
  identity   : macros.LeavesIdentity location i.identity j.identity
  properties : List.Forall₂ (fun e e' => e'.name = e.name ∧
    j.origin.LeavesValue files location macros e.name e.value e'.value) p.entries q.entries

theorem NameTable.leavesIdentity {macros : NameTable .ignoringCase} {location : Option Text}
    {raw resolved : Text}
    (h : macros.expand location raw = .ok resolved) : macros.LeavesIdentity location raw resolved where
  macros_left := seam_of_expand h
  metadata_left hv := by
    rcases seam_or_literal_of_expand h hv with hseam | ⟨l, hl, hin⟩
    · exact Or.inl hseam
    · exact Or.inr (Expander.infix_or_imports Marker.macros_apart hl hin)

namespace Origin

variable {files : FileTree} {location : Option Text} {macros : NameTable .ignoringCase}
  {o : Origin} {property : Text}

/-- An element is expanded in two passes. -/
theorem ok_of_expandElement {m : Matching} {macros : NameTable m} {element v : Text}
    (h : o.expandElement files.times location property macros element = .ok v) :
    ∃ text, o.expandMetadata files.times location property element.strip = .ok text ∧
      macros.expand location text = .ok v := by
  obtain ⟨text, htext, h⟩ := ok_of_bind h
  refine ⟨text, htext, ?_⟩
  cases hv : macros.expand location text with
  | error f => simp only [hv] at h; exact nomatch h
  | ok v' => simp only [hv] at h; exact h

/-- A value is expanded element by element, and what is not empty then is joined. -/
theorem ok_of_expandProperty {m : Matching} {macros : NameTable m} {raw resolved : Text}
    (h : o.expandProperty files.times location property macros raw = .ok resolved) :
    ∃ elements, List.Forall₂
        (fun element v =>
          o.expandElement files.times location property macros element = .ok v)
        (raw.pieces listSeparator) elements ∧
      Text.join listSeparator (elements.filter (· ≠ [])) = resolved := by
  obtain ⟨elements, hmap, h⟩ := ok_of_bind h
  exact ⟨elements, forall₂_of_mapM_eq_ok hmap, Except.ok.inj h⟩

/-- What stands in the value of a property stands in one of its elements. -/
theorem exists_element {x y : Char} (hx : x ≠ listSeparator) (hy : y ≠ listSeparator)
    {raw resolved : Text}
    (h : o.expandProperty files.times location property macros raw = .ok resolved)
    (hin : [x, y] <:+: resolved) :
    ∃ element ∈ raw.pieces listSeparator, ∃ text v,
      o.expandMetadata files.times location property element.strip = .ok text ∧
      macros.expand location text = .ok v ∧ [x, y] <:+: v := by
  obtain ⟨elements, hexpanded, rfl⟩ := ok_of_expandProperty h
  obtain ⟨v, hv, hin'⟩ := Text.exists_infix_of_join hx hy hin
  obtain ⟨element, helement, hexpand⟩ :=
    exists_mem_of_forall₂ hexpanded (List.mem_of_mem_filter hv)
  obtain ⟨text, htext, hexpand'⟩ := ok_of_expandElement hexpand
  exact ⟨element, helement, text, v, htext, hexpand', hin'⟩

/-- A marker of metadata that is left after their expansion was put together. -/
theorem seam_of_expandMetadata {t v : Text}
    (h : o.expandMetadata files.times location property t = .ok v) (hv : Marker.metadata.text <:+: v) :
    (o.expander files.times location property).Seam t v '%' '(' :=
  Expander.seam_of_marker Marker.metadata_apart rfl
    (h ▸ o.gives_expandMetadata files.times location property (Nat.le_refl _) t) hv

theorem leavesValue {raw resolved : Text}
    (h : o.expandProperty files.times location property macros raw = .ok resolved) :
    o.LeavesValue files location macros property raw resolved where
  macros_left hv := by
    obtain ⟨element, helement, text, v, htext, hexpand, hin⟩ :=
      exists_element (by decide) (by decide) h hv
    exact ⟨element, helement, text, v, htext, hexpand, NameTable.seam_of_expand hexpand hin⟩
  metadata_left hv := by
    obtain ⟨element, helement, text, v, htext, hexpand, hin⟩ :=
      exists_element (by decide) (by decide) h hv
    refine ⟨element, helement, text, v, htext, hexpand, ?_⟩
    rcases NameTable.seam_or_literal_of_expand hexpand hin with hseam | ⟨l, hl, hin'⟩
    · exact Or.inr (Or.inl hseam)
    · -- a literal of the text itself is one that the first pass has left
      rcases Expander.infix_or_imports Marker.macros_apart hl hin' with htextIn | himports
      · exact Or.inl (seam_of_expandMetadata htext htextIn)
      · exact Or.inr (Or.inr himports)

end Origin

/-! ## Items without a marker -/

namespace Item

/-- No literal ends with a first character of a marker in the expansions that an item is resolved by:
    of its identity, and of the elements of its properties in both passes. -/
structure EndsPlain (files : FileTree) (location : Option Text) (macros : NameTable .ignoringCase)
    (i : Item) (p : PropertyTable) (j : Item) : Prop where
  identity : (macros.expander location).EndsPlain i.identity
  elements : ∀ e ∈ p.entries, ∀ element ∈ e.value.pieces Origin.listSeparator,
    (j.origin.expander files.times location e.name).EndsPlain element.strip
  texts    : ∀ e ∈ p.entries, ∀ element ∈ e.value.pieces Origin.listSeparator, ∀ text,
    j.origin.expandMetadata files.times location e.name element.strip = .ok text →
      (macros.expander location).EndsPlain text

/-- An item with no marker in its identity and none in a property. -/
def IsMarkerFree (i : Item) (p : PropertyTable) : Prop :=
  ∀ text ∈ i.identity :: p.entries.map (·.value),
    ¬ Marker.macros.text <:+: text ∧ ¬ Marker.metadata.text <:+: text

variable {files : FileTree} {location : Option Text} {macros : NameTable .ignoringCase}
  {i j : Item} {p q : PropertyTable}

/-- Of the ways in which a marker is left none is there, if nothing ends like one begins, and if neither
    the identity nor a macro holds one of metadata. -/
theorem Leaves.isMarkerFree (h : i.Leaves files location macros p j q)
    (hplain : i.EndsPlain files location macros p j)
    (hidentity : ¬ Marker.metadata.text <:+: i.identity)
    (hmacros : ∀ e ∈ macros.entries, ¬ Marker.metadata.text <:+: e.value) : j.IsMarkerFree q := by
  have himports (t : Text) :
      ¬ (macros.expander location).Imports t Marker.metadata.text := fun hin =>
    let ⟨e, he, hvalue⟩ := NameTable.exists_entry_of_imports hin
    hmacros e he hvalue
  intro text htext
  rcases List.mem_cons.mp htext with rfl | htext
  · constructor
    · exact fun hin => hplain.identity.not_seam_macros _ _ (h.identity.macros_left hin)
    · intro hin
      rcases h.identity.metadata_left hin with hseam | hraw | hvalue
      · exact hplain.identity.not_seam_metadata _ _ hseam
      · exact hidentity hraw
      · exact himports _ hvalue
  · obtain ⟨e', he', rfl⟩ := List.mem_map.mp htext
    obtain ⟨e, he, -, hleaves⟩ := exists_mem_of_forall₂ h.properties he'
    constructor
    · intro hin
      obtain ⟨element, helement, text, value, hexpand, -, hseam⟩ := hleaves.macros_left hin
      exact (hplain.texts e he element helement text hexpand).not_seam_macros _ _ hseam
    · intro hin
      obtain ⟨element, helement, text, value, hexpand, -, hways⟩ := hleaves.metadata_left hin
      rcases hways with hseam | hseam | hvalue
      · exact (hplain.elements e he element helement).not_seam_metadata _ _ hseam
      · exact (hplain.texts e he element helement text hexpand).not_seam_metadata _ _ hseam
      · exact himports _ hvalue

theorem Resolves.leaves {path : Text} (h : i.Resolves files path macros p j q) :
    i.Leaves files (some path) macros p j q where
  identity := NameTable.leavesIdentity h.identity
  properties := h.properties.imp fun _ _ he => ⟨he.1, Origin.leavesValue he.2⟩

end Item

namespace Builder

/-- **What a build leaves in its items.** If a build ends, its items are those that its walk has left,
    and a marker is in one of them only where the literals of an expansion met, where no expansion of
    metadata has seen it, or where it came in with the value of a macro after that expansion. So no
    marker is in an item if none of its literals ends with `$` or `%` and neither its identity nor any
    macro holds `%(`. -/
theorem build_leaves {m : Matching} {files : FileTree} {path : Path} {macros : NameTable m}
    {p : Project} {b' : Builder} (h : (build files).run (start files path macros) = .ok p b') :
    ∃ b, (walkFile files).run (start files path macros) = .ok () b ∧
      List.Forall₂ (fun i j =>
        i.Leaves files (some b.location) b.macros (i.properties b.store) j (j.properties p.store) ∧
        (i.EndsPlain files (some b.location) b.macros (i.properties b.store) j →
          ¬ Marker.metadata.text <:+: i.identity →
          (∀ e ∈ b.macros.entries, ¬ Marker.metadata.text <:+: e.value) →
          j.IsMarkerFree (j.properties p.store))) b.items p.items := by
  obtain ⟨b, hwalk, -, hitems⟩ := build_resolves h
  refine ⟨b, hwalk, hitems.imp fun i j hresolves => ?_⟩
  have hleaves := hresolves.leaves
  exact ⟨hleaves, hleaves.isMarkerFree⟩

/-! ## Markers that are left -/

/-- The project file at a path with some content. -/
def fileTree (name content : String) : FileTree :=
  { root := .directory [(name.toList, .file { content := Text.Utf8.encode content.toList })]
    current := [] }

/-- In the identity a marker of metadata is not looked for, in the first property a marker is put
    together from a literal and the value of a macro, and in the second one it is the value. -/
def leftoverFiles : FileTree := fileTree "p" "<Project>
  <PropertyGroup><A>(B)</A><B>x</B><M>%(RootDir)</M></PropertyGroup>
  <ItemGroup><ClCompile Include='%(RootDir)m'><P>$$(A)</P><Q>$(M)</Q></ClCompile></ItemGroup>
</Project>"

/-- The result of building that project. -/
def leftoverBuild : EStateM.Result Fault Builder Project :=
  (build leftoverFiles).run
    (start leftoverFiles ⟨['/'], [['p']]⟩ (NameTable.empty : NameTable .ignoringCase))

/-- The identities of a built project, and the values of its properties. -/
def resolvedTexts : EStateM.Result Fault Builder Project → Option (List (Text × List Text))
  | .ok p _ => some (p.items.map fun i => (i.identity, (i.properties p.store).entries.map (·.value)))
  | .error .. => none

/-- The project can be built, into one item. -/
theorem resolvedTexts_leftoverBuild :
    ∃ p b' i, leftoverBuild = .ok p b' ∧ p.items = [i] ∧ i.identity = "%(RootDir)m".toList ∧
      (i.properties p.store).entries.map (·.value) = ["$(B)".toList, "%(RootDir)".toList] := by
  have h : resolvedTexts leftoverBuild
      = some [("%(RootDir)m".toList, ["$(B)".toList, "%(RootDir)".toList])] := by
    decide +kernel
  cases hbuild : leftoverBuild with
  | error fault b' => rw [hbuild] at h; exact nomatch h
  | ok p b' =>
      rw [hbuild] at h
      obtain ⟨i, hitems, htexts⟩ := List.map_eq_singleton_iff.mp (Option.some.inj h)
      obtain ⟨hidentity, hvalues⟩ := Prod.mk.inj htexts
      exact ⟨p, b', i, rfl, hitems, hidentity, hvalues⟩

/-- What is left in that project has come there in one of the ways that there are. -/
theorem build_leaves_leftoverBuild :
    ∃ p b', leftoverBuild = .ok p b' ∧
      ∃ b, (walkFile leftoverFiles).run
          (start leftoverFiles ⟨['/'], [['p']]⟩ (NameTable.empty : NameTable .ignoringCase))
        = .ok () b ∧
        List.Forall₂ (fun i j => i.Leaves leftoverFiles (some b.location) b.macros
          (i.properties b.store) j (j.properties p.store)) b.items p.items := by
  obtain ⟨p, b', -, hbuild, -⟩ := resolvedTexts_leftoverBuild
  obtain ⟨b, hwalk, hitems⟩ := build_leaves hbuild
  exact ⟨p, b', hbuild, b, hwalk, hitems.imp fun _ _ h => h.1⟩

/-- Items that are built may hold markers: one of metadata in the identity, and one of either kind in
    the values of properties. -/
theorem exists_leftover :
    ∃ p b', leftoverBuild = .ok p b' ∧ ∃ i ∈ p.items, Marker.metadata.text <:+: i.identity ∧
      (∃ e ∈ (i.properties p.store).entries, Marker.macros.text <:+: e.value) ∧
      ∃ e ∈ (i.properties p.store).entries, Marker.metadata.text <:+: e.value := by
  obtain ⟨p, b', i, hbuild, hitems, hidentity, hvalues⟩ := resolvedTexts_leftoverBuild
  have hvalue : ∀ v ∈ ["$(B)".toList, "%(RootDir)".toList],
      ∃ e ∈ (i.properties p.store).entries, e.value = v := by
    intro v hv
    rw [← hvalues] at hv
    exact List.mem_map.mp hv
  obtain ⟨e, he, hspliced⟩ := hvalue _ List.mem_cons_self
  obtain ⟨e', he', himported⟩ := hvalue _ (List.mem_cons_of_mem _ List.mem_cons_self)
  refine ⟨p, b', hbuild, i, ?_, ?_, ⟨e, he, ?_⟩, ⟨e', he', ?_⟩⟩
  · rw [hitems]
    exact List.mem_cons_self
  · rw [hidentity]
    decide
  · rw [hspliced]
    decide
  · rw [himported]
    decide

end Builder

end CompilationDatabase
