import CompilationDatabase.Proofs.Sharing

/-!
# Resolved items — what the end of a walk makes of each item

When a walk is over, the items are gone through once: the identity of each is expanded, and then the
value of each of its properties, one after the other, each with the item as it is then. All this is
done in one store of tables. `build_resolves` says what comes out in terms of one item alone: its
properties keep their names and their order, and every value is the expanded one.

A builder goes the same way as the reading by value, so it is enough to look at an item by value
(`Scope.resolve_ok`). The induction over its properties is `Scope.resolveProperties_eq`.
-/

namespace CompilationDatabase

/-- Setting a name that is there changes its value in its place. -/
theorem Entry.insert_append {m : Matching} {before after : List Entry} {e new : Entry}
    (hkey : m.key e.name = m.key new.name) (h : m.key new.name ∉ before.map (m.key ·.name)) :
    Entry.insert m new (before ++ e :: after) = before ++ new :: after := by
  induction before with
  | nil => exact if_pos hkey
  | cons d ds ih =>
      rw [List.map_cons, List.mem_cons, not_or] at h
      show Entry.insert m new (d :: (ds ++ e :: after)) = _
      rw [Entry.insert, if_neg (Ne.symm h.1), ih h.2]
      rfl

/-- A property that is set takes the place of the one with its name. -/
theorem ItemValue.entries_setProperty {i : ItemValue} {before after : List Entry} {e : Entry}
    {name : Text} (hkey : i.properties.matching.key e.name = i.properties.matching.key name)
    (h : i.properties.entries = before ++ e :: after) (value : Text) :
    (i.setProperty name value).properties.entries = before ++ ⟨name, value⟩ :: after := by
  have hnodup := i.properties.table.keys_nodup
  rw [show i.properties.table.entries = before ++ e :: after from h, List.map_append,
    List.nodup_append] at hnodup
  have hnew : i.properties.matching.key name ∉ before.map (i.properties.matching.key ·.name) :=
    fun hmem => hnodup.2.2 _ hmem _ (hkey ▸ List.mem_cons_self) rfl
  show Entry.insert _ ⟨name, value⟩ i.properties.entries = _
  rw [h]
  exact Entry.insert_append hkey hnew

/-- A property with its value expanded for an item of the project at a location. -/
def Origin.Expands (files : FileTree) (location : Text) (macros : NameTable .ignoringCase)
    (o : Origin) (e e' : Entry) : Prop :=
  e'.name = e.name ∧
    o.expandProperty files.times (some location) e.name macros e.value = .ok e'.value

/-- An item of the project at a location, with what it shows, as it was left by the walk and as it is
    resolved. -/
structure Item.Resolves (files : FileTree) (location : Text) (macros : NameTable .ignoringCase)
    (i : Item) (p : PropertyTable) (j : Item) (q : PropertyTable) : Prop where
  type       : j.type = i.type
  directory  : j.projectDir = Path.dirName location
  identity   : macros.expand (some location) i.identity = .ok j.identity
  properties : List.Forall₂ (j.origin.Expands files location macros) p.entries q.entries

namespace Scope

variable {s : Scope} {files : FileTree}

/-! Each property of an item is expanded by itself: none of the others is looked at. -/

/-- What comes of a value of a property for an item. -/
def expandValue (s : Scope) (times : FileTimes (Except Fault)) (o : Origin)
    (property value : Text) : Except Fault Text :=
  o.expandProperty times (some s.location) property s.macros value

/-- A property with the value that is computed for an item. -/
def expandEntry (s : Scope) (times : FileTimes (Except Fault)) (o : Origin) (e : Entry) :
    Except Fault Entry := do
  let value ← s.expandValue times o e.name e.value
  return ⟨e.name, value⟩

/-- Properties are expanded one after the other, in their places; those before them are kept. -/
theorem resolveProperties_eq {times : FileTimes (Except Fault)} {i : ItemValue}
    {es before : List Entry} (hentries : i.properties.entries = before ++ es) :
    (es.foldlM (s.resolveProperty times) i).map (fun j => (j.type, j.origin, j.properties.entries))
      = (do
        let es' ← es.mapM (s.expandEntry times i.origin)
        return (i.type, i.origin, before ++ es')) := by
  induction es generalizing i before with
  | nil => exact congrArg (fun entries => Except.ok (i.type, i.origin, entries)) hentries
  | cons e es ih =>
      simp only [List.foldlM_cons, List.mapM_cons, resolveProperty, expandEntry, expandValue]
      cases i.origin.expandProperty times (some s.location) e.name s.macros e.value with
      | error fault => rfl
      | ok value =>
          have hentries' : (i.setProperty e.name value).properties.entries
              = (before ++ [⟨e.name, value⟩]) ++ es := by
            rw [ItemValue.entries_setProperty rfl hentries value, List.append_assoc]
            rfl
          refine (ih hentries').trans ?_
          simp only [pure_bind, bind_assoc, List.append_assoc, List.singleton_append]
          rfl

theorem resolveProperties_ok {i j : ItemValue} {es before : List Entry}
    (hentries : i.properties.entries = before ++ es)
    (h : es.foldlM (s.resolveProperty files.times) i = .ok j) :
    j.type = i.type ∧ j.origin = i.origin ∧ ∃ es',
      List.Forall₂ (i.origin.Expands files s.location s.macros) es es' ∧
        j.properties.entries = before ++ es' := by
  have heach : (es.foldlM (s.resolveProperty files.times) i).map _ = _ :=
    resolveProperties_eq hentries
  rw [h] at heach
  obtain ⟨es', hmap, heach⟩ := ok_of_bind heach.symm
  obtain ⟨htype, hrest⟩ := Prod.mk.inj (Except.ok.inj heach)
  obtain ⟨horigin, hproperties⟩ := Prod.mk.inj hrest
  refine ⟨htype.symm, horigin.symm, es', (forall₂_of_mapM_eq_ok hmap).imp ?_, hproperties.symm⟩
  intro e e' he
  obtain ⟨value, hvalue, he⟩ := ok_of_bind he
  obtain rfl := Except.ok.inj he
  exact ⟨rfl, hvalue⟩

/-- What becomes of an item: its identity is expanded, and so are its properties in their places. -/
theorem resolve_ok {i j : ItemValue} (h : s.resolve files.times i = .ok j) :
    j.type = i.type ∧ j.projectDir = Path.dirName s.location ∧
      s.macros.expand (some s.location) i.identity = .ok j.identity ∧
      List.Forall₂ (j.origin.Expands files s.location s.macros) i.properties.entries
        j.properties.entries := by
  obtain ⟨identity, hidentity, h⟩ := ok_of_bind h
  obtain ⟨htype, horigin, es', hexpands, hentries⟩ := resolveProperties_ok (List.nil_append _).symm h
  obtain ⟨hidentity', hdirectory⟩ := Origin.mk.inj horigin
  refine ⟨htype, hdirectory, ?_, ?_⟩
  · rw [hidentity']
    exact hidentity
  · rw [horigin, hentries]
    exact hexpands

end Scope

namespace Builder

variable {files : FileTree} {b' : Builder}

/-- **What a build makes of each item.** A build that ends has walked through the file, and its items
    are those of the walk, in their order, each resolved with the macros that were set last. -/
theorem build_resolves {m : Matching} {path : Path} {macros : NameTable m} {p : Project}
    (h : (build files).run (start files path macros) = .ok p b') :
    ∃ b, (walkFile files).run (start files path macros) = .ok () b ∧ p.macros = b.macros ∧
      List.Forall₂ (fun i j => i.Resolves files b.location b.macros (i.properties b.store) j
        (j.properties p.store)) b.items p.items := by
  obtain ⟨_, b, hwalk, h⟩ := ok_of_bind h
  obtain ⟨_, b₁, hresolve, h⟩ := ok_of_bind h
  obtain ⟨_, b₂, hget, h⟩ := ok_of_bind h
  cases hget
  cases h
  have hsound := keeps_walkFile files (sound_start files path macros) hwalk
  obtain ⟨vs, hvalues, -, hmacros, rfl⟩ := (follows_resolveItems hsound).exists_ok hresolve
  refine ⟨b, hwalk, hmacros, ?_⟩
  -- each item shows what the reading by value makes of it
  have hitems := forall₂_of_mapM_eq_ok hvalues
  rw [values, values, List.forall₂_map_left_iff, List.forall₂_map_right_iff] at hitems
  refine hitems.imp fun i j hresolved => ?_
  obtain ⟨htype, hdirectory, hidentity, hproperties⟩ := Scope.resolve_ok hresolved
  exact ⟨htype, hdirectory, hidentity, hproperties⟩

end Builder

end CompilationDatabase
