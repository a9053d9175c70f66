import CompilationDatabase.Project.Basic
import CompilationDatabase.Proofs.Borrowing

/-!
# The walk — what holds of a builder on its way through a project

A walk is a sequence of steps on a `Builder`, each of which may fail. `Keeps P` says that a step that
does not fail leaves a property of the builder as it is, and a walk does so if its steps do.

`Sound` is the property that matters later: no item owns a table that another item or a definition
refers to. So what is done to one item when the walk is over does not show in another one.
-/

namespace CompilationDatabase

namespace Builder

variable {α β : Type} {b b' b'' : Builder}

/-- A step that is made of two ends where the second one ends. -/
theorem ok_of_bind {x : Building α} {f : α → Building β} {r : β}
    (h : (x >>= f).run b = .ok r b'') :
    ∃ a b', x.run b = .ok a b' ∧ (f a).run b' = .ok r b'' := by
  rw [EStateM.run_bind] at h
  cases hx : x.run b with
  | error fault s => rw [hx] at h; exact nomatch h
  | ok a s => rw [hx] at h; exact ⟨a, s, rfl, h⟩

/-- A value that was computed is handed on, and nothing else happens. -/
theorem ok_of_ofExcept {x : Except Fault α} {a : α}
    (h : (ofExcept x : Building α).run b = .ok a b') :
    x = .ok a ∧ b = b' := by
  cases x with
  | error fault => exact nomatch h
  | ok a' => cases h; exact ⟨rfl, rfl⟩

/-- What is done to the tables is done to nothing else. -/
theorem ok_of_withTables {f : StateM PropertyStore α} {a : α}
    (h : (withTables f).run b = .ok a b') :
    a = (f.run b.store).1 ∧ b' = { b with store := (f.run b.store).2 } := by
  injection h with ha hb
  exact ⟨ha.symm, hb.symm⟩

/-! ## Steps that only tell something -/

/-- Nothing has changed but what was told. -/
def Tells (b b' : Builder) : Prop := ∃ notices, b' = { b with notices }

theorem Tells.refl (b : Builder) : b.Tells b := ⟨b.notices, rfl⟩

theorem Tells.trans (h : b.Tells b') (h' : b'.Tells b'') : b.Tells b'' := by
  obtain ⟨notices, rfl⟩ := h
  obtain ⟨notices', rfl⟩ := h'
  exact ⟨notices', rfl⟩

/-- Conditions are looked at, and no more. -/
theorem tells_isActive {name : Text} {condition : Option Text} {active : Bool}
    (h : (isActive name condition).run b = .ok active b') : b.Tells b' := by
  obtain ⟨_, b₁, hget, h⟩ := ok_of_bind h
  cases hget
  obtain ⟨holds, b₂, hholds, h⟩ := ok_of_bind h
  obtain ⟨-, rfl⟩ := ok_of_ofExcept hholds
  cases holds with
  | true => cases h; exact Tells.refl _
  | false => cases h; exact ⟨_, rfl⟩

theorem tells_collect {elements : List PropertyElement} {table : NameTable .ignoringCase}
    (h : (collect elements).run b = .ok table b') : b.Tells b' := by
  rw [collect] at h
  generalize NameTable.empty = t at h
  induction elements generalizing t b with
  | nil => cases h; exact Tells.refl _
  | cons e es ih =>
      rw [List.foldlM_cons] at h
      obtain ⟨t', b₁, hstep, h⟩ := ok_of_bind h
      obtain ⟨active, b₂, hactive, hstep⟩ := ok_of_bind hstep
      have hb : b₂ = b₁ := by
        cases active <;> cases hstep <;> rfl
      exact (hb ▸ tells_isActive hactive).trans (ih t' h)

/-! ## Steps that keep a property -/

/-- A step that does not fail leaves a property of the builder. -/
def Keeps (P : Builder → Prop) (x : Building α) : Prop :=
  ∀ {b : Builder} {a : α} {b' : Builder}, P b → x.run b = .ok a b' → P b'

variable {P : Builder → Prop}

/-- Steps one after the other keep what each of them keeps. -/
theorem Keeps.forM {f : α → Building PUnit} (h : ∀ a, Keeps P (f a)) (l : List α) :
    Keeps P (l.forM f) := by
  intro b _ b' hb hrun
  induction l generalizing b with
  | nil => cases hrun; exact hb
  | cons a l ih =>
      obtain ⟨_, b₁, hstep, hrun⟩ := ok_of_bind hrun
      exact ih (h a hb hstep) hrun

/-- What is done on a condition keeps what it keeps without. -/
theorem Keeps.onCondition {x : Building PUnit} (htells : ∀ {b b'}, b.Tells b' → P b → P b')
    (hx : Keeps P x) (name : Text) (condition : Option Text) :
    Keeps P (do if ← isActive name condition then x) := by
  intro b _ b' hb hrun
  obtain ⟨active, b₁, hactive, hrun⟩ := ok_of_bind hrun
  have hb₁ := htells (tells_isActive hactive) hb
  cases active with
  | true => exact hx hb₁ hrun
  | false => cases hrun; exact hb₁

end Builder

/-! ## Items and tables -/

/-- Setting properties touches no more than the item. -/
theorem Item.touches_extend {i : Item} {s : PropertyStore} (hi : i.Placed s)
    (overrides : List Entry) :
    i.Touches s ((i.extend overrides).run s).1 ((i.extend overrides).run s).2 := by
  induction overrides generalizing i s with
  | nil => exact Touches.refl i s
  | cons e es ih =>
      let value := inherit e.name (((i.properties s).get? e.name).getD []) e.value
      have hset := shows_setProperty hi e.name value
      exact hset.toTouches.trans (ih (hi.setProperty e.name value))

namespace Builder

/-- The places of the tables that new items may borrow. -/
def Lends (b : Builder) (place : Nat) : Prop := ∃ type, (type, place) ∈ b.definitions

/-- No item owns a table that another one shows, or that is lent. -/
def Sound (b : Builder) : Prop := Isolated b.Lends b.items b.store

theorem sound_of_tells {b b' : Builder} (h : b.Tells b') (hb : b.Sound) : b'.Sound := by
  obtain ⟨notices, rfl⟩ := h
  exact hb

theorem sound_start {m : Matching} (files : FileTree) (path : Path) (macros : NameTable m) :
    (start files path macros).Sound where
  anyCase := nofun
  placed := nofun
  there := nofun
  kept := nofun
  apart := nofun

/-- The tables that are lent after a definition is set. -/
theorem mem_setDefinition {type : Text} {table : Nat} {ds : List (Text × Nat)} {d : Text × Nat}
    (h : d ∈ setDefinition type table ds) : d = (type, table) ∨ d ∈ ds := by
  induction ds with
  | nil => exact Or.inl (List.mem_singleton.mp h)
  | cons d' ds ih =>
      rw [setDefinition] at h
      split at h
      · exact (List.mem_cons.mp h).imp_right (List.mem_cons_of_mem _)
      · rcases List.mem_cons.mp h with rfl | h
        · exact Or.inr List.mem_cons_self
        · exact (ih h).imp_right (List.mem_cons_of_mem _)

theorem lends_of_lookup {b : Builder} {type : Text} {place : Nat}
    (h : b.definitions.lookup type = some place) : b.Lends place := by
  exact ⟨type, Text.mem_of_lookup h⟩

/-- An item that is included joins the others. -/
theorem keeps_addItem (e : ItemElement) : Keeps Sound (addItem e) := by
  refine Keeps.onCondition sound_of_tells ?_ e.type e.condition
  intro b _ b' hb h
  obtain ⟨_, _, hget, h⟩ := ok_of_bind h
  cases hget
  obtain ⟨item, b₁, hcreate, h⟩ := ok_of_bind h
  let made := (Item.create e.type e.identity (b.definitions.lookup (definedType e.type))).run b.store
  obtain ⟨hitem, rfl⟩ : item = made.1 ∧ b₁ = { b with store := made.2 } := ok_of_withTables hcreate
  obtain ⟨overrides, b₂, hcollect, h⟩ := ok_of_bind h
  obtain ⟨notices, rfl⟩ := tells_collect hcollect
  obtain ⟨item', b₃, hextend, h⟩ := ok_of_bind h
  obtain ⟨hitem', rfl⟩ := ok_of_withTables hextend
  cases h
  -- the item joins the others when it is made, and then it is changed
  have hjoined : Isolated b.Lends (b.items ++ [item]) made.2 :=
    hitem ▸ hb.create e.type e.identity fun _ => lends_of_lookup
  have hnew : (b.items ++ [item])[b.items.length]? = some item := List.getElem?_concat_length
  have hset := hjoined.set hnew (Item.touches_extend (hjoined.item_placed hnew) overrides.entries)
  rw [List.set_append_right _ _ (Nat.le_refl _), Nat.sub_self] at hset
  rw [hitem']
  exact hset

/-- A table of defaults belongs to no item. -/
theorem keeps_addDefinition (e : DefinitionElement) : Keeps Sound (addDefinition e) := by
  refine Keeps.onCondition sound_of_tells ?_ e.type e.condition
  intro b _ b' hb h
  obtain ⟨properties, b₁, hcollect, h⟩ := ok_of_bind h
  obtain ⟨notices, rfl⟩ := tells_collect hcollect
  obtain ⟨table, b₂, hadd, h⟩ := ok_of_bind h
  obtain ⟨rfl, rfl⟩ := ok_of_withTables hadd
  cases h
  have hpush : Isolated b.Lends b.items (b.store.push ⟨.ignoringCase, properties⟩) := hb.push rfl
  have hlt : b.store.size < (b.store.push ⟨.ignoringCase, properties⟩).size :=
    b.store.size_push _ ▸ Nat.lt_succ_self _
  have hlend := hpush.lend hlt fun i hi _ => Nat.ne_of_lt (hb.placed i hi)
  refine hlend.mono ?_
  rintro place ⟨type, hmem⟩
  rcases mem_setDefinition hmem with heq | hold
  · exact Or.inl (Prod.mk.inj heq).2
  · exact Or.inr ⟨type, hold⟩

theorem keeps_addMacro (e : PropertyElement) : Keeps Sound (addMacro e) := by
  refine Keeps.onCondition sound_of_tells ?_ e.name e.condition
  intro b _ b' hb h
  cases h
  exact hb

/-- Every walk keeps a builder sound. -/
theorem keeps_walk (document : ProjectDocument) : Keeps Sound (walk document) := by
  refine Keeps.forM (fun g => ?_) document
  cases g with
  | items label condition members =>
      cases label with
      | some label =>
          intro b _ b' hb h
          cases h
          exact hb
      | none => exact Keeps.onCondition sound_of_tells (Keeps.forM keeps_addItem members) _ condition
  | definitions condition members =>
      exact Keeps.onCondition sound_of_tells (Keeps.forM keeps_addDefinition members) _ condition
  | properties condition members =>
      exact Keeps.onCondition sound_of_tells (Keeps.forM keeps_addMacro members) _ condition

theorem keeps_walkFile (files : FileTree) : Keeps Sound (walkFile files) := by
  intro b _ b' hb h
  obtain ⟨_, _, hget, h⟩ := ok_of_bind h
  cases hget
  cases hload : Source.load files b.location with
  | error fault => rw [hload] at h; exact nomatch h
  | ok root => rw [hload] at h; exact keeps_walk _ hb h

end Builder

end CompilationDatabase
