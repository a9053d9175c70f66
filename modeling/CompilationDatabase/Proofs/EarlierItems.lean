import CompilationDatabase.Proofs.Contents
import CompilationDatabase.Proofs.Sharing
import CompilationDatabase.Proofs.Termination

/-!
# Earlier items — what the rest of a project does to them

Two versions of a project file may go on in different ways. Up to where they differ the walk is the
same, so there it has included the same items, with the same definitions and under the same
conditions. What is still to come for these items is the end of the walk, where they are expanded with
the macros that were set last. If these give every name the same value in both versions, the items
come out the same: `earlier_items`.

* `NameTable.expand_congr` says that expansion depends on a table by its look-ups alone, and
  `Scope.resolve_lookups` that the same is true of what becomes of an item.
* `Scope.build_append` takes a build apart: the items of the first part, and the others.
-/

namespace CompilationDatabase

/-! ## Tables that give every name the same value -/

/-- Expansion depends on the values that names have, and not on the order or the spelling of the
    names in the table. -/
theorem NameTable.expand_congr {m n : Matching} {t : NameTable m} {u : NameTable n}
    (h : ∀ name, t.get? name = u.get? name) (location : Option Text) :
    t.expand location = u.expand location := by
  have hvalue : t.macroValue location = u.macroValue location := by
    funext name
    rw [macroValue, macroValue, h]
  have hexpander : t.expander location = u.expander location := by
    rw [expander, expander, hvalue]
  -- the tables may differ in size, but the depth never runs out
  funext text
  have ht := t.gives_expand location (Nat.le_refl _) text
  have hu := u.gives_expand location (Nat.le_refl _) text
  rw [hexpander] at ht
  exact ht.unique hu

theorem Origin.expandProperty_congr {m n : Matching} {t : NameTable m} {u : NameTable n}
    {location : Option Text} (h : t.expand location = u.expand location)
    (times : FileTimes (Except Fault)) (o : Origin) (property : Text) :
    o.expandProperty times location property t = o.expandProperty times location property u := by
  have helement :
      o.expandElement times location property t = o.expandElement times location property u := by
    funext element
    rw [expandElement, expandElement, h]
  funext value
  rw [expandProperty, expandProperty, helement]

namespace Scope

variable {s s' : Scope} {times : FileTimes (Except Fault)}

/-- What becomes of an item depends on the macros by their values alone. -/
theorem resolve_lookups (hpath : s.path = s'.path)
    (hmacros : ∀ name, s.macros.get? name = s'.macros.get? name) :
    s.resolve times = s'.resolve times := by
  have hlocation : s.location = s'.location := congrArg Path.text hpath
  have hexpand := NameTable.expand_congr hmacros (some s'.location)
  have hproperty : s.resolveProperty times = s'.resolveProperty times := by
    funext i e
    rw [resolveProperty, resolveProperty, hlocation, Origin.expandProperty_congr hexpand]
  funext i
  rw [resolve, resolve, hlocation, hexpand, hproperty]

/-! ## The first part of a document -/

/-- The items of the first part of a document come first, and they are resolved with the macros that
    were set last. -/
theorem build_append {before after : ProjectDocument} {v : ProjectValue}
    (h : s.build times (before ++ after) = .ok v) :
    ∃ s₁ made items rest, s.walk before = .ok (s₁, made) ∧
      made.mapM (({ s₁ with macros := v.macros } : Scope).resolve times) = .ok items ∧
      v.items = items ++ rest := by
  obtain ⟨⟨s₂, all⟩, hwalk, h⟩ := ok_of_bind h
  obtain ⟨resolved, hresolve, h⟩ := ok_of_bind h
  cases h
  rw [walk_append] at hwalk
  obtain ⟨⟨s₁, made⟩, hbefore, hwalk⟩ := ok_of_bind hwalk
  obtain ⟨⟨s₃, more⟩, hafter, hwalk⟩ := ok_of_bind hwalk
  cases hwalk
  rw [List.mapM_append] at hresolve
  obtain ⟨items, hitems, hresolve⟩ := ok_of_bind hresolve
  obtain ⟨rest, -, hresolve⟩ := ok_of_bind hresolve
  cases hresolve
  refine ⟨s₁, made, items, rest, hbefore, ?_, rfl⟩
  rw [← hitems]
  exact congrArg (made.mapM ·) (resolve_congr (path_of_walk hafter).symm rfl)

end Scope

namespace Builder

variable {m : Matching} {files files' : FileTree} {path : Path} {macros : NameTable m}
  {before after after' : ProjectDocument} {p p' : Project} {b₁ b₂ : Builder}

/-- **What follows changes earlier items by the last macros alone.** Two versions of a project file
    start with the same groups, and both can be built, with macros that give every name the same value
    in the end. Then the walk through the first groups ends, and the items that it has left are the
    first ones of both projects, each resolved in the same way. -/
theorem earlier_items (halike : files.Alike files')
    (hdoc : files.Holds (files.absolute path) (before ++ after))
    (hdoc' : files'.Holds (files'.absolute path) (before ++ after'))
    (h : (build files).run (start files path macros) = .ok p b₁)
    (h' : (build files').run (start files' path macros) = .ok p' b₂)
    (hmacros : ∀ name, p.macros.get? name = p'.macros.get? name) :
    ∃ b items rest rest', (walk before).run (start files path macros) = .ok () b ∧
      b.values.mapM (({ b.scope with macros := p.macros } : Scope).resolve files.times) = .ok items ∧
      p.value.items = items ++ rest ∧ p'.value.items = items ++ rest' := by
  obtain ⟨s₁, made, items, rest, hbefore, hitems, hall⟩ := Scope.build_append (value_of_build hdoc h)
  obtain ⟨s₂, made', items', rest', hbefore', hitems', hall'⟩ :=
    Scope.build_append (value_of_build hdoc' h')
  -- both walks go through the same groups, from the same start
  rw [halike.absolute_eq, hbefore] at hbefore'
  cases hbefore'
  have hwalk : Follows (walk before) (start files path macros)
      ((Scope.start (files.absolute path) macros).walk before) _ :=
    follows_walk (sound_start files path macros) before
  rw [hbefore] at hwalk
  obtain ⟨_, b, hrun, -, rfl, hvalues⟩ := hwalk.exists_run
  obtain rfl : b.values = made := hvalues
  refine ⟨b, items, rest, rest', hrun, hitems, hall, ?_⟩
  have hresolve : ({ b.scope with macros := p.value.macros } : Scope).resolve files.times
      = ({ b.scope with macros := p'.value.macros } : Scope).resolve files.times :=
    Scope.resolve_lookups rfl hmacros
  rw [halike.times, ← hresolve, hitems] at hitems'
  rw [Except.ok.inj hitems']
  exact hall'

/-- After an item, defaults for its type are defined. -/
def definedLater : FileTree := .ofFiles [("p",
  "<P><ItemGroup><C Include='a'/></ItemGroup><ItemDefinitionGroup><C/></ItemDefinitionGroup></P>")]

/-- After the same item there is another one. -/
def continued : FileTree := .ofFiles [("p",
  "<P><ItemGroup><C Include='a'/></ItemGroup><ItemGroup><C Include='b'/></ItemGroup></P>")]

/-- The first item is the same in both projects. -/
theorem earlier_items_definedLater :
    let p : Path := ⟨['/'], [['p']]⟩
    let macros : NameTable .ignoringCase := .empty
    let common : ProjectDocument := [.items none none [⟨['C'], ['a'], none, []⟩]]
    ∃ first b₁ second b₂ b items rest rest',
      (build definedLater).run (start definedLater p macros) = .ok first b₁ ∧
      (build continued).run (start continued p macros) = .ok second b₂ ∧
      (walk common).run (start definedLater p macros) = .ok () b ∧
      b.values.mapM (({ b.scope with macros := first.macros } : Scope).resolve definedLater.times)
        = .ok items ∧
      first.value.items = items ++ rest ∧ second.value.items = items ++ rest' := by
  intro p macros common
  have hdoc : definedLater.Holds (definedLater.absolute p)
      (common ++ [.definitions none [⟨['C'], none, []⟩]]) :=
    FileTree.holds_of_load (by decide +kernel)
  have hdoc' : continued.Holds (continued.absolute p)
      (common ++ [.items none none [⟨['C'], ['b'], none, []⟩]]) :=
    FileTree.holds_of_load (by decide +kernel)
  -- no macro is set in either project
  obtain ⟨first, b₁, hfirst, hnone⟩ : ∃ q b,
      (build definedLater).run (start definedLater p macros) = .ok q b ∧ q.value.macros.entries = [] :=
    exists_build_of_map hdoc (f := (·.macros.entries)) (by decide +kernel)
  obtain ⟨second, b₂, hsecond, hnone'⟩ : ∃ q b,
      (build continued).run (start continued p macros) = .ok q b ∧ q.value.macros.entries = [] :=
    exists_build_of_map hdoc' (f := (·.macros.entries)) (by decide +kernel)
  have hmacros : ∀ name, first.macros.get? name = second.macros.get? name := by
    have hentries : first.macros.entries = second.macros.entries := hnone.trans hnone'.symm
    intro name
    rw [NameTable.get?, NameTable.get?, hentries]
  have halike : definedLater.Alike continued := FileTree.alike_ofFiles rfl
  obtain ⟨b, items, rest, rest', hwalk, hitems, hall, hall'⟩ :=
    earlier_items halike hdoc hdoc' hfirst hsecond hmacros
  exact ⟨first, b₁, second, b₂, b, items, rest, rest', hfirst, hsecond, hwalk, hitems, hall, hall'⟩

end Builder

end CompilationDatabase
