import CompilationDatabase.Proofs.Scope
import CompilationDatabase.Proofs.Walk

/-!
# Sharing — tables that are shared do not show

A builder and the reading of its file by value go the same way: they fail with the same fault, or both
end, and then the project that was built shows what was read by value (`outcome_build`). So whatever
is said of projects by value holds of those that share tables.

* `Follows` ties a step of a builder to a computation by value, and `Follows.bind` puts two of them
  together.
* `Builder.scope` and `Builder.values` are what a builder holds by value. `follows_walk` is the walk,
  `follows_resolveItems` its end; the builder is `Sound` all along.
-/

namespace CompilationDatabase

/-! ## What is held, by value -/

/-- An item with what it shows. -/
def Item.value (s : PropertyStore) (i : Item) : ItemValue :=
  ⟨i.type, i.identity, i.projectDir, i.owns, i.properties s⟩

/-- A project with what its items show. -/
def Project.value (p : Project) : ProjectValue :=
  ⟨p.name, p.path, p.macros, p.items.map (·.value p.store)⟩

namespace Item

variable {i j : Item} {s t : PropertyStore} {p : PropertyTable}

theorem Touches.origin_eq (h : i.Touches s j t) : j.type = i.type ∧ j.origin = i.origin := by
  rcases h.item with rfl | ⟨-, place, -, -, rfl⟩
  · exact ⟨rfl, rfl⟩
  · exact ⟨rfl, rfl⟩

theorem value_congr (h : i.properties t = i.properties s) : i.value t = i.value s :=
  congrArg (ItemValue.mk i.type i.identity i.projectDir i.owns) h

/-- After a change an item shows the properties that are said, and is the same in all else. -/
theorem Shows.value_eq (h : i.Shows s p j t) :
    j.value t = { i.value s with owns := true, properties := p } := by
  obtain ⟨htype, horigin⟩ := h.toTouches.origin_eq
  obtain ⟨hidentity, hdirectory⟩ := Origin.mk.inj horigin
  show ItemValue.mk _ _ _ _ _ = ItemValue.mk _ _ _ _ _
  rw [htype, hidentity, hdirectory, h.owns, h.shown]
  rfl

/-- An item shows what it showed before, and the properties that were set. -/
theorem value_extend (hi : i.Placed s) (overrides : List Entry) :
    ((i.extend overrides).run s).1.value ((i.extend overrides).run s).2
      = (i.value s).extend overrides := by
  induction overrides generalizing i s with
  | nil => rfl
  | cons e es ih =>
      let value := inherit e.name (((i.properties s).get? e.name).getD []) e.value
      refine (ih (hi.setProperty e.name value)).trans ?_
      rw [(shows_setProperty hi e.name value).value_eq]
      rfl

/-- A new item shows its defaults. -/
theorem value_create (type identity : Text) (defaults : Option Nat) (s : PropertyStore) :
    ((create type identity defaults).run s).1.value ((create type identity defaults).run s).2
      = ItemValue.create type identity (defaults.map s.table) := by
  cases defaults with
  | some place => rfl
  | none => exact congrArg (ItemValue.mk type identity [] true) (s.table_push_size .empty)

theorem table_create (type identity : Text) (defaults : Option Nat) {place : Nat}
    (h : place < s.size) :
    ((create type identity defaults).run s).2.table place = s.table place := by
  cases defaults with
  | some place => rfl
  | none => exact PropertyStore.table_push_of_lt h .empty

end Item

namespace Builder

/-- What is in effect where a builder is. -/
def scope (b : Builder) : Scope :=
  ⟨b.path, b.macros, fun type => (b.definitions.lookup type).map b.store.table⟩

/-- The items of a builder, with what they show. -/
def values (b : Builder) : List ItemValue := b.items.map (·.value b.store)

/-! ## Steps and computations -/

variable {α β γ δ : Type} {b b' : Builder}

/-- Results of a step and of a computation: both are there, and related, or both are the same fault. -/
inductive Agree (R : α → Builder → β → Prop) :
    EStateM.Result Fault Builder α → Except Fault β → Prop
  | ok {a b v} : R a b v → Agree R (.ok a b) (.ok v)
  | error {fault b} : Agree R (.error fault b) (.error fault)

/-- A step goes the same way as a computation. -/
def Follows (x : Building α) (b : Builder) (r : Except Fault β) (R : α → Builder → β → Prop) :
    Prop :=
  Agree R (x.run b) r

namespace Follows

variable {x : Building α} {f : α → Building γ} {r : Except Fault β} {k : β → Except Fault δ}
  {R : α → Builder → β → Prop} {S : γ → Builder → δ → Prop}

theorem ok (a : α) (b' : Builder) {v : β} (hx : x.run b = .ok a b') (h : R a b' v) :
    Follows x b (.ok v) R := by
  rw [Follows, hx]
  exact .ok h

/-- What goes on the same way goes the same way. -/
theorem bind (h : Follows x b r R) (hk : ∀ a b' v, R a b' v → Follows (f a) b' (k v) S) :
    Follows (x >>= f) b (r >>= k) S := by
  rw [Follows] at h
  rw [Follows, EStateM.run_bind]
  generalize x.run b = result at h
  cases h with
  | ok h => exact hk _ _ _ h
  | error => exact .error

theorem after (a : α) (b' : Builder) {r : Except Fault δ} (hx : x.run b = .ok a b')
    (h : Follows (f a) b' r S) : Follows (x >>= f) b r S := by
  rw [Follows, EStateM.run_bind, hx]
  exact h

theorem andThen {S : γ → Builder → β → Prop} (h : Follows x b r R)
    (hf : ∀ a b' v, R a b' v → ∃ c b'', (f a).run b' = .ok c b'' ∧ S c b'' v) :
    Follows (x >>= f) b r S := by
  rw [← bind_pure r]
  refine h.bind fun a b' v hR => ?_
  obtain ⟨c, b'', hrun, hS⟩ := hf a b' v hR
  exact ok c b'' hrun hS

/-- A computation may return something else in the end. -/
theorem andReturn {g : β → δ} {S : α → Builder → δ → Prop} (h : Follows x b r R)
    (hS : ∀ a b' v, R a b' v → S a b' (g v)) :
    Follows x b (do let v ← r; return g v) S := by
  rw [← bind_pure x]
  exact h.bind fun a b' v hR => ok a b' rfl (hS a b' v hR)

theorem mono {S : α → Builder → β → Prop} (h : Follows x b r R)
    (hR : ∀ a b' v, x.run b = .ok a b' → R a b' v → S a b' v) : Follows x b r S := by
  rw [Follows] at h ⊢
  generalize hx : x.run b = result at h
  cases h with
  | ok h => exact .ok (hR _ _ _ hx h)
  | error => exact .error

theorem exists_run {v : β} (h : Follows x b (.ok v) R) : ∃ a b', x.run b = .ok a b' ∧ R a b' v := by
  rw [Follows] at h
  generalize x.run b = result at h
  cases h with
  | ok hR => exact ⟨_, _, rfl, hR⟩

theorem exists_ok {a : α} {b' : Builder} (h : Follows x b r R) (hx : x.run b = .ok a b') :
    ∃ v, r = .ok v ∧ R a b' v := by
  rw [Follows, hx] at h
  cases h with
  | ok hR => exact ⟨_, rfl, hR⟩

theorem foldlM {f : α → γ → Building α} {g : β → γ → Except Fault β}
    {R : α → Builder → β → Prop} {l : List γ}
    (step : ∀ a b v e, R a b v → Follows (f a e) b (g v e) R) {a : α} {v : β} (h : R a b v) :
    Follows (l.foldlM f a) b (l.foldlM g v) R := by
  induction l generalizing a b v with
  | nil => exact ok _ _ rfl h
  | cons e es ih =>
      rw [List.foldlM_cons, List.foldlM_cons]
      exact (step a b v e h).bind fun a' b' v' h' => ih h'

/-- Steps without results go the same way as computations that each take the result of the last. -/
theorem forM {f : γ → Building PUnit} {g : β → γ → Except Fault β}
    {R : PUnit → Builder → β → Prop} {l : List γ}
    (step : ∀ b v e, R ⟨⟩ b v → Follows (f e) b (g v e) R) {v : β} (h : R ⟨⟩ b v) :
    Follows (l.forM f) b (l.foldlM g v) R := by
  induction l generalizing b v with
  | nil => exact ok _ _ rfl h
  | cons e es ih =>
      rw [List.foldlM_cons]
      exact (step b v e h).bind fun _ b' v' h' => ih h'

end Follows

theorem follows_ofExcept (r : Except Fault α) :
    Follows (ofExcept r) b r fun a b' v => a = v ∧ b = b' := by
  cases r with
  | error fault => exact Agree.error
  | ok a => exact Follows.ok _ _ rfl ⟨rfl, rfl⟩

theorem scope_of_tells (h : b.Tells b') : b'.scope = b.scope := by
  obtain ⟨notices, rfl⟩ := h
  rfl

theorem follows_isActive (name : Text) (condition : Option Text) :
    Follows (isActive name condition) b (b.scope.holds condition)
      fun a b' v => a = v ∧ b.Tells b' := by
  refine Follows.after _ _ rfl ((follows_ofExcept _).andThen ?_)
  rintro holds _ v ⟨rfl, rfl⟩
  cases holds with
  | true => exact ⟨_, _, rfl, rfl, Tells.refl _⟩
  | false => exact ⟨_, _, rfl, rfl, _, rfl⟩

theorem follows_collect (elements : List PropertyElement) :
    Follows (collect elements) b (b.scope.collect elements)
      fun a b' v => a = v ∧ b.Tells b' := by
  refine Follows.foldlM ?_ ⟨rfl, Tells.refl b⟩
  rintro table b₁ _ e ⟨rfl, htells⟩
  rw [← scope_of_tells htells]
  refine (follows_isActive e.name e.condition).bind ?_
  rintro active b₂ _ ⟨rfl, htells'⟩
  cases active with
  | true => exact Follows.ok _ _ rfl ⟨rfl, htells.trans htells'⟩
  | false => exact Follows.ok _ _ rfl ⟨rfl, htells.trans htells'⟩

/-! ## The walk -/

/-- What is done on a condition goes the same way as the computation on that condition. -/
theorem follows_onCondition {x : Building PUnit} {r : Except Fault β} {v : β}
    {R : PUnit → Builder → β → Prop} (name : Text) (condition : Option Text)
    (hx : ∀ b', b.Tells b' → Follows x b' r R) (hskip : ∀ b', b.Tells b' → R ⟨⟩ b' v) :
    Follows (do if ← isActive name condition then x) b
      (do if ← b.scope.holds condition then r else return v) R := by
  refine (follows_isActive name condition).bind ?_
  rintro active b₁ _ ⟨rfl, htells⟩
  cases active with
  | true => exact hx b₁ htells
  | false => exact Follows.ok _ _ rfl (hskip b₁ htells)

/-- A scope is the same as long as the tables that are lent are. -/
theorem scope_congr {store : PropertyStore} {items : List Item} {notices : List Notice}
    (h : ∀ place, b.Lends place → store.table place = b.store.table place) :
    ({ b with store, items, notices } : Builder).scope = b.scope := by
  refine congrArg (Scope.mk b.path b.macros) (funext fun type => ?_)
  cases hlookup : b.definitions.lookup type with
  | none => rfl
  | some place => exact congrArg some (h place (lends_of_lookup hlookup))

/-- An item that is included shows what it does by value, and the others what they did. -/
theorem follows_addItem (hb : b.Sound) (e : ItemElement) :
    Follows (addItem e) b (b.scope.item? e)
      fun _ b' v => b'.scope = b.scope ∧ b'.values = b.values ++ v.toList := by
  refine follows_onCondition e.type e.condition ?_ ?_
  · rintro _ ⟨notices, rfl⟩
    let defaults := b.definitions.lookup (definedType e.type)
    let made := (Item.create e.type e.identity defaults).run b.store
    have hjoined : Isolated b.Lends (b.items ++ [made.1]) made.2 :=
      hb.create e.type e.identity fun _ => lends_of_lookup
    have hnew : (b.items ++ [made.1])[b.items.length]? = some made.1 := List.getElem?_concat_length
    have hplaced := hjoined.item_placed hnew
    refine Follows.after _ _ rfl (Follows.after made.1 _ rfl ?_)
    refine (follows_collect e.properties).bind ?_
    rintro overrides _ _ ⟨rfl, notices, rfl⟩
    let changed := (made.1.extend overrides.entries).run made.2
    have htouches := Item.touches_extend hplaced overrides.entries
    refine Follows.ok ⟨⟩ { b with items := b.items ++ [changed.1], store := changed.2, notices } rfl
      ⟨?_, ?_⟩
    · -- no definition is the table of an item
      refine scope_congr fun place hplace => ?_
      rw [hjoined.table_of_lent hnew htouches hplace]
      exact Item.table_create _ _ _ (hb.there place hplace)
    · show (b.items ++ [changed.1]).map (·.value changed.2) = _
      rw [List.map_append, List.map_singleton, Item.value_extend hplaced, Item.value_create]
      refine congrArg (· ++ _) (List.map_congr_left fun i hi => Item.value_congr ?_)
      -- neither is the table of an item that was there before
      obtain ⟨k, hlt, hk⟩ := List.getElem_of_mem hi
      have hk' : (b.items ++ [made.1])[k]? = some i := by
        rw [List.getElem?_append_left hlt, List.getElem?_eq_getElem hlt, hk]
      rw [hjoined.properties_of_ne hnew htouches hk' (Nat.ne_of_gt hlt)]
      exact Item.table_create _ _ _ (hb.placed i hi)
  · rintro _ ⟨notices, rfl⟩
    exact ⟨rfl, (List.append_nil _).symm⟩

theorem lookup_setDefinition (type : Text) (table : Nat) (ds : List (Text × Nat)) (other : Text) :
    (setDefinition type table ds).lookup other
      = if other = type then some table else ds.lookup other := by
  induction ds with
  | nil => grind [setDefinition]
  | cons d ds ih =>
      rw [setDefinition]
      grind

theorem follows_addDefinition (hb : b.Sound) (e : DefinitionElement) :
    Follows (addDefinition e) b (b.scope.define e)
      fun _ b' s => b'.scope = s ∧ b'.values = b.values := by
  refine follows_onCondition e.type e.condition ?_ ?_
  · rintro _ ⟨notices, rfl⟩
    refine (follows_collect e.properties).bind ?_
    rintro properties _ _ ⟨rfl, notices, rfl⟩
    refine Follows.after _ _ rfl (Follows.ok _ _ rfl ⟨?_, ?_⟩)
    · refine congrArg (Scope.mk b.path b.macros) (funext fun type => ?_)
      show ((setDefinition e.type b.store.size b.definitions).lookup type).map
        (b.store.push ⟨.ignoringCase, properties⟩).table = _
      rw [lookup_setDefinition]
      split
      · exact congrArg some (b.store.table_push_size _)
      · show _ = (b.definitions.lookup type).map b.store.table
        -- what was lent before stands in front of the new table
        cases hlookup : b.definitions.lookup type with
        | none => rfl
        | some place =>
            have hlt := hb.there place (lends_of_lookup hlookup)
            exact congrArg some (PropertyStore.table_push_of_lt hlt _)
    · refine List.map_congr_left fun i hi => Item.value_congr ?_
      exact PropertyStore.table_push_of_lt (hb.placed i hi) _
  · rintro _ ⟨notices, rfl⟩
    exact ⟨rfl, rfl⟩

theorem follows_addMacro (e : PropertyElement) :
    Follows (addMacro e) b (b.scope.assign e)
      fun _ b' s => b'.scope = s ∧ b'.values = b.values := by
  refine follows_onCondition e.name e.condition ?_ ?_
  · rintro _ ⟨notices, rfl⟩
    exact Follows.ok _ _ rfl ⟨rfl, rfl⟩
  · rintro _ ⟨notices, rfl⟩
    exact ⟨rfl, rfl⟩

theorem follows_addItems (hb : b.Sound) (members : List ItemElement) :
    Follows (members.forM addItem) b (b.scope.items members)
      fun _ b' v => b'.Sound ∧ b'.scope = b.scope ∧ b'.values = b.values ++ v := by
  induction members generalizing b with
  | nil => exact Follows.ok _ _ rfl ⟨hb, rfl, (List.append_nil _).symm⟩
  | cons e es ih =>
      have hfirst := (follows_addItem hb e).mono fun _ b' v hrun h =>
        And.intro (keeps_addItem e hb hrun) h
      refine hfirst.bind ?_
      rintro _ b₁ item ⟨hb₁, hscope, hvalues⟩
      rw [← hscope]
      refine (ih hb₁).andReturn ?_
      rintro _ b₂ items ⟨hb₂, hscope', hvalues'⟩
      exact ⟨hb₂, hscope', by rw [hvalues', hvalues, List.append_assoc]⟩

/-- A group that includes no items changes the scope as it does by value. -/
theorem follows_members {f : γ → Building PUnit} {g : Scope → γ → Except Fault Scope}
    (hkeeps : ∀ e, Keeps Sound (f e))
    (hf : ∀ {b : Builder}, b.Sound → ∀ e, Follows (f e) b (g b.scope e)
      fun _ b' s => b'.scope = s ∧ b'.values = b.values)
    (hb : b.Sound) (name : Text) (condition : Option Text) (members : List γ) :
    Follows (do if ← isActive name condition then members.forM f) b
      (do
        let s ← b.scope.change condition g members
        return (s, []))
      fun _ b' v => b'.Sound ∧ b'.scope = v.1 ∧ b'.values = b.values ++ v.2 := by
  have hchange : Follows (do if ← isActive name condition then members.forM f) b
      (b.scope.change condition g members)
      fun _ b' s => b'.Sound ∧ b'.scope = s ∧ b'.values = b.values := by
    refine follows_onCondition name condition ?_ ?_
    · rintro _ ⟨notices, rfl⟩
      refine Follows.forM ?_ ⟨hb, rfl, rfl⟩
      rintro b₁ _ e ⟨hb₁, rfl, hvalues⟩
      refine (hf hb₁ e).mono fun _ b₂ s hrun h => ?_
      exact ⟨hkeeps e hb₁ hrun, h.1, h.2.trans hvalues⟩
    · rintro _ ⟨notices, rfl⟩
      exact ⟨hb, rfl, rfl⟩
  refine hchange.andReturn ?_
  rintro _ b₁ s ⟨hb₁, hscope, hvalues⟩
  exact ⟨hb₁, hscope, by rw [hvalues, List.append_nil]⟩

theorem follows_addGroup (hb : b.Sound) (g : Group) :
    Follows (addGroup g) b (b.scope.step g)
      fun _ b' v => b'.Sound ∧ b'.scope = v.1 ∧ b'.values = b.values ++ v.2 := by
  cases g with
  | items label condition members =>
      cases label with
      | some label => exact Follows.ok _ _ rfl ⟨hb, rfl, (List.append_nil _).symm⟩
      | none =>
          refine follows_onCondition _ condition ?_ ?_
          · rintro _ ⟨notices, rfl⟩
            exact (follows_addItems (b := { b with notices }) hb members).andReturn fun _ _ _ h => h
          · rintro _ ⟨notices, rfl⟩
            exact ⟨hb, rfl, (List.append_nil _).symm⟩
  | definitions condition members =>
      exact follows_members keeps_addDefinition follows_addDefinition hb _ condition members
  | properties condition members =>
      exact follows_members keeps_addMacro (fun _ => follows_addMacro) hb _ condition members

/-- A document is walked through as it is read by value. -/
theorem follows_walk (hb : b.Sound) (document : ProjectDocument) :
    Follows (walk document) b (b.scope.walk document)
      fun _ b' v => b'.Sound ∧ b'.scope = v.1 ∧ b'.values = b.values ++ v.2 := by
  induction document generalizing b with
  | nil => exact Follows.ok _ _ rfl ⟨hb, rfl, (List.append_nil _).symm⟩
  | cons g gs ih =>
      -- a group leaves the builder sound, which is what the rest of the walk starts from
      refine (follows_addGroup hb g).bind ?_
      rintro _ b₁ ⟨_, items⟩ ⟨hb₁, rfl, hvalues⟩
      refine (ih hb₁).andReturn ?_
      rintro _ b₂ ⟨_, more⟩ ⟨hb₂, rfl, hvalues'⟩
      refine ⟨hb₂, rfl, ?_⟩
      rw [hvalues', hvalues, List.append_assoc]

/-! ## The end of the walk -/

variable {files : FileTree}

/-- An item is put in the place of another one, and only the tables that this touches change. -/
def Replaces (b : Builder) (place : Nat) (i j : Item) (b' : Builder) : Prop :=
  ∃ store, b' = { b with items := b.items.set place j, store } ∧ i.Touches b.store j store

theorem Replaces.refl {place : Nat} {i : Item} (h : b.items[place]? = some i) :
    b.Replaces place i i b := by
  obtain ⟨hlt, hget⟩ := List.getElem?_eq_some_iff.mp h
  refine ⟨b.store, ?_, Item.Touches.refl i _⟩
  rw [← hget, List.set_getElem_self]

theorem Replaces.trans {b'' : Builder} {place : Nat} {i j k : Item} (h : b.Replaces place i j b')
    (h' : b'.Replaces place j k b'') : b.Replaces place i k b'' := by
  obtain ⟨store, rfl, htouches⟩ := h
  obtain ⟨store', rfl, htouches'⟩ := h'
  refine ⟨store', ?_, htouches.trans htouches'⟩
  simp only [List.set_set]

theorem follows_resolveProperty {place : Nat} {i : Item} (hi : i.Placed b.store) (e : Entry) :
    Follows (resolveProperty files place i e) b
      (b.scope.resolveProperty files.times (i.value b.store) e)
      fun j b' v => b.Replaces place i j b' ∧ j.Placed b'.store ∧ j.value b'.store = v := by
  refine Follows.after _ _ rfl ((follows_ofExcept _).bind ?_)
  rintro value _ _ ⟨rfl, rfl⟩
  let changed := (i.setProperty e.name value).run b.store
  have hset := Item.shows_setProperty hi e.name value
  exact Follows.ok changed.1 { b with items := b.items.set place changed.1, store := changed.2 } rfl
    ⟨⟨changed.2, rfl, hset.toTouches⟩, hi.setProperty e.name value, hset.value_eq⟩

/-- An item is resolved as it is by value, and the others show what they did. -/
theorem follows_resolveItem {place : Nat} {i : Item} (hb : b.Sound)
    (hat : b.items[place]? = some i) :
    Follows (resolveItem files place i) b (b.scope.resolve files.times (i.value b.store))
      fun _ b' v => b'.Sound ∧ b'.path = b.path ∧ b'.macros = b.macros ∧
        (∃ j, b'.items = b.items.set place j) ∧ b'.values = b.values.set place v := by
  refine Follows.after _ _ rfl (Follows.after _ _ rfl ((follows_ofExcept _).bind ?_))
  rintro identity _ _ ⟨rfl, rfl⟩
  -- with its directory and its identity the item refers to the same table
  let named : Item := { i with projectDir := Path.dirName b.location, identity }
  let b₁ : Builder := { b with items := b.items.set place named }
  have hput : (putItem place named).run
      { b with items := b.items.set place { i with projectDir := Path.dirName b.location } }
        = .ok ⟨⟩ b₁ := by
    show EStateM.Result.ok _ { b with items := (b.items.set place _).set place named } = _
    rw [List.set_set]
  have hnamed : Isolated b.Lends b₁.items b.store := hb.relabel hat rfl rfl
  have hat₁ : b₁.items[place]? = some named := getElem?_set_of_eq_some hat named
  have hfold : Follows ((named.properties b.store).entries.foldlM (resolveProperty files place) named)
      b₁ ((named.properties b.store).entries.foldlM (b.scope.resolveProperty files.times)
        (named.value b.store))
      fun j b' v => b₁.Replaces place named j b' ∧ j.Placed b'.store ∧ j.value b'.store = v := by
    refine Follows.foldlM ?_ ⟨Replaces.refl hat₁, hnamed.item_placed hat₁, rfl⟩
    rintro j b₂ _ e ⟨hreplaces, hplaced, rfl⟩
    obtain ⟨store, rfl, -⟩ := id hreplaces
    refine (follows_resolveProperty hplaced e).mono fun k b₃ v _ h => ?_
    exact ⟨hreplaces.trans h.1, h.2⟩
  refine Follows.after _ _ hput (hfold.andThen ?_)
  rintro j b₂ _ ⟨⟨store, rfl, htouches⟩, -, rfl⟩
  refine ⟨⟨⟩, _, rfl, hnamed.set hat₁ htouches, rfl, rfl, ⟨j, List.set_set _⟩, ?_⟩
  show (b₁.items.set place j).map (·.value store) = _
  rw [List.set_set, List.map_set]
  -- the other items show the same in both stores
  refine List.ext_getElem? fun k => ?_
  by_cases hk : place = k
  · rw [hk, List.getElem?_set_self', List.getElem?_set_self', values, List.getElem?_map,
      List.getElem?_map]
    cases b.items[k]? <;> rfl
  · rw [List.getElem?_set_ne hk, List.getElem?_set_ne hk, values, List.getElem?_map,
      List.getElem?_map]
    cases hi' : b.items[k]? with
    | none => rfl
    | some i' =>
        have hi₁ : b₁.items[k]? = some i' := (List.getElem?_set_ne hk).trans hi'
        exact congrArg some (Item.value_congr (hnamed.properties_of_ne hat₁ htouches hi₁ hk))

/-- Items are resolved as they are by value; those before them show what they did. -/
theorem follows_resolveEach (before : List Item) {items : List Item} (hb : b.Sound)
    (hitems : b.items = before ++ items) :
    Follows ((items.zipIdx before.length).forM fun (i, place) => resolveItem files place i) b
      ((items.map (·.value b.store)).mapM (b.scope.resolve files.times))
      fun _ b' vs => b'.path = b.path ∧ b'.macros = b.macros ∧
        b'.values = before.map (·.value b.store) ++ vs := by
  induction items generalizing b before with
  | nil =>
      refine Follows.ok _ _ rfl ⟨rfl, rfl, ?_⟩
      rw [values, hitems, List.append_nil]
      exact (List.append_nil _).symm
  | cons i items ih =>
      have hat : b.items[before.length]? = some i := by
        rw [hitems, List.getElem?_append_right (Nat.le_refl _), Nat.sub_self]
        rfl
      rw [List.map_cons, List.mapM_cons]
      refine (follows_resolveItem hb hat).bind ?_
      rintro _ b₁ v ⟨hb₁, hpath, hmacros, ⟨j, hset⟩, hvalues⟩
      -- the item is replaced, and what stands before and after it shows the same
      rw [hitems, List.set_append_right _ _ (Nat.le_refl _), Nat.sub_self, List.set_cons_zero]
        at hset
      rw [values, values, hset, hitems, List.map_append, List.map_append, List.map_cons,
        List.map_cons, List.set_append_right _ _ (Nat.le_of_eq (List.length_map ..)),
        List.length_map, Nat.sub_self, List.set_cons_zero] at hvalues
      obtain ⟨hbefore, hrest⟩ := List.append_inj hvalues (by simp only [List.length_map])
      obtain ⟨hv, hitems₁⟩ := List.cons.inj hrest
      have hresolve : b₁.scope.resolve files.times = b.scope.resolve files.times :=
        Scope.resolve_congr hpath hmacros
      have hrun := ih (before ++ [j]) hb₁ (by rw [hset, List.append_assoc]; rfl)
      rw [List.length_append, hitems₁, hresolve] at hrun
      refine hrun.andReturn ?_
      rintro _ b₂ vs ⟨hpath₂, hmacros₂, hvalues₂⟩
      refine ⟨hpath₂.trans hpath, hmacros₂.trans hmacros, ?_⟩
      rw [hvalues₂, List.map_append, hbefore, List.append_assoc, List.map_singleton, hv]
      rfl

theorem follows_resolveItems (hb : b.Sound) :
    Follows (resolveItems files) b (b.values.mapM (b.scope.resolve files.times))
      fun _ b' vs => b'.path = b.path ∧ b'.macros = b.macros ∧ b'.values = vs :=
  Follows.after _ _ rfl (follows_resolveEach [] hb rfl)

end Builder

/-! ## Whole builds -/

/-- The project file at a path holds a document. -/
def FileTree.Holds (files : FileTree) (path : Path) (document : ProjectDocument) : Prop :=
  ∃ root, Source.load files path.text = .ok root ∧ ProjectDocument.ofElement root = document

theorem FileTree.holds_of_load {files : FileTree} {path : Path} {document : ProjectDocument}
    (h : (Source.load files path.text).toOption.map ProjectDocument.ofElement = some document) :
    files.Holds path document :=
  exists_ok_of_map h

namespace Builder

variable {files : FileTree} {path : Path} {m : Matching} {macros : NameTable m}
  {document : ProjectDocument}

/-- What a build shows when it is over: the project, or the fault. -/
def outcome : EStateM.Result Fault Builder Project → Except Fault ProjectValue
  | .ok p _ => .ok p.value
  | .error fault _ => .error fault

theorem walkFile_of_load {b : Builder} {root : Xml.Element}
    (h : Source.load files b.location = .ok root) :
    (walkFile files).run b = (walk (.ofElement root)).run b := by
  simp only [walkFile, EStateM.run_bind, EStateM.run_get, h]

theorem walkFile_of_fault {b : Builder} {fault : Fault}
    (h : Source.load files b.location = .error fault) :
    (walkFile files).run b = .error fault b := by
  simp only [walkFile, EStateM.run_bind, EStateM.run_get, h]
  rfl

/-- A file is walked through as its document is read by value. -/
theorem follows_walkFile {b : Builder} (hb : b.Sound) (h : files.Holds b.path document) :
    Follows (walkFile files) b (b.scope.walk document)
      fun _ b' v => b'.Sound ∧ b'.scope = v.1 ∧ b'.values = b.values ++ v.2 := by
  obtain ⟨root, hload, rfl⟩ := h
  rw [Follows, walkFile_of_load hload]
  exact follows_walk hb _

/-- A project is built as its document is read by value. -/
theorem follows_build (h : files.Holds (files.absolute path) document) :
    Follows (build files) (start files path macros)
      ((Scope.start (files.absolute path) macros).build files.times document)
      fun p _ v => p.value = v := by
  have hstart := sound_start files path macros
  refine (follows_walkFile hstart h).bind ?_
  rintro _ b₁ ⟨_, items⟩ ⟨hb₁, rfl, hvalues⟩
  obtain rfl : b₁.values = items := hvalues
  refine (follows_resolveItems hb₁).bind ?_
  rintro _ b₂ _ ⟨hpath, hmacros, rfl⟩
  refine Follows.ok _ _ rfl ?_
  show ProjectValue.mk ((b₂.macros.get? Project.nameMacro).getD b₂.path.stem) b₂.path b₂.macros
    b₂.values = _
  rw [hpath, hmacros]
  rfl

/-- **A build shows what its document says by value.** Whatever the tables are that items share while
    a project is built, the project that comes out, or the fault, is that of the reading in which
    nothing is shared. -/
theorem outcome_build (h : files.Holds (files.absolute path) document) :
    outcome ((build files).run (start files path macros))
      = (Scope.start (files.absolute path) macros).build files.times document := by
  have hfollows : Follows (build files) (start files path macros) _ _ := follows_build h
  rw [Follows] at hfollows
  generalize (build files).run (start files path macros) = result at hfollows
  generalize Scope.build _ _ _ = value at hfollows
  cases hfollows with
  | ok hvalue => exact congrArg Except.ok hvalue
  | error => rfl

theorem value_of_build {p : Project} {b : Builder} (hdoc : files.Holds (files.absolute path) document)
    (h : (build files).run (start files path macros) = .ok p b) :
    (Scope.start (files.absolute path) macros).build files.times document = .ok p.value := by
  rw [← outcome_build hdoc, h]
  rfl

/-- What can be read by value can be built. -/
theorem exists_build {v : ProjectValue} (hdoc : files.Holds (files.absolute path) document)
    (h : (Scope.start (files.absolute path) macros).build files.times document = .ok v) :
    ∃ p b, (build files).run (start files path macros) = .ok p b ∧ p.value = v := by
  have hfollows : Follows (build files) (start files path macros) _ _ := follows_build hdoc
  rw [h] at hfollows
  exact hfollows.exists_run

/-- What can be read by value, and shows something then, can be built, and shows it too. -/
theorem exists_build_of_map {α : Type} {f : ProjectValue → α} {a : α}
    (hdoc : files.Holds (files.absolute path) document)
    (h : ((Scope.start (files.absolute path) macros).build files.times document).toOption.map f
      = some a) :
    ∃ p b, (build files).run (start files path macros) = .ok p b ∧ f p.value = a := by
  obtain ⟨v, hvalue, rfl⟩ := exists_ok_of_map h
  obtain ⟨p, b, hrun, rfl⟩ := exists_build hdoc hvalue
  exact ⟨p, b, hrun, rfl⟩

end Builder

end CompilationDatabase
