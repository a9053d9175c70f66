import CompilationDatabase.Proofs.Scope

/-!
# Faults — what a computation may end with

`FailsOnly P` says that a computation ends with a value or with a fault of which `P` holds. What is made
of computations that fail only so fails only so.

Names, texts and conditions go wrong for a cause, at the location that they are given. So it is enough
that `P` holds of every cause at that location, and this goes from each function to those that it hands
the location down to, through values, names of tokens and the look-ups of names. A scope gives them the
path of its project file, which stays the same on the way through the project. What is left are the
times of files: `Scope.failsOnly_build` asks of them that they fail only with faults of `P` too.
-/

namespace CompilationDatabase

/-- A computation ends, or with one of certain faults. -/
def FailsOnly {α : Type} (P : Fault → Prop) : Except Fault α → Prop
  | .ok _ => True
  | .error fault => P fault

namespace FailsOnly

variable {α β : Type} {P : Fault → Prop} {r : Except Fault α}

theorem bind {f : α → Except Fault β} (h : FailsOnly P r)
    (hf : ∀ a, r = .ok a → FailsOnly P (f a)) : FailsOnly P (r >>= f) := by
  cases r with
  | ok a => exact hf a rfl
  | error fault => exact h

/-- Steps one after the other, each of which keeps what the next one needs. -/
theorem foldlM {I : β → Prop} {f : β → α → Except Fault β} {l : List α}
    (hf : ∀ b a, I b → FailsOnly P (f b a)) (hkeep : ∀ {b a b'}, I b → f b a = .ok b' → I b')
    {b : β} (hb : I b) : FailsOnly P (l.foldlM f b) := by
  induction l generalizing b with
  | nil => trivial
  | cons a l ih =>
      rw [List.foldlM_cons]
      exact (hf b a hb).bind fun b' hstep => ih (hkeep hb hstep)

theorem mapM {f : α → Except Fault β} (hf : ∀ a, FailsOnly P (f a)) (l : List α) :
    FailsOnly P (l.mapM f) := by
  induction l with
  | nil => trivial
  | cons a l ih =>
      rw [List.mapM_cons]
      exact (hf a).bind fun b _ => ih.bind fun bs _ => trivial

theorem forM {f : α → Except Fault PUnit} (hf : ∀ a, FailsOnly P (f a)) (l : List α) :
    FailsOnly P (l.forM f) := by
  induction l with
  | nil => trivial
  | cons a l ih =>
      rw [List.forM_eq_forM, List.forM_cons]
      exact (hf a).bind fun _ _ => ih

end FailsOnly

/-- The times of items can be told, or with certain faults cannot. -/
structure FileTimes.FailOnly (P : Fault → Prop) (times : FileTimes (Except Fault)) : Prop where
  modified : ∀ o : Origin, FailsOnly P (times.modified o.fullPath)
  created : ∀ o : Origin, FailsOnly P (times.created o.fullPath)
  accessed : ∀ o : Origin, FailsOnly P (times.accessed o.fullPath)

/-! ## Expansion

What is read of a project, but for the times of files, goes wrong only for a cause. -/

section Causes

variable {P : Fault → Prop} {location : Option Text} (hP : ∀ cause, P (.failed cause location))
  {m : Matching}
include hP

omit hP in
theorem failsOnly_template {value : Text → Except Fault Text} (hvalue : ∀ n, FailsOnly P (value n))
    (t : Template) : FailsOnly P (t.fill value) := by
  induction t with
  | done => trivial
  | char c rest ih => exact ih.bind fun after _ => trivial
  | token name rest ihname ihrest =>
      exact ihname.bind fun n _ => (hvalue n).bind fun here _ => ihrest.bind fun after _ => trivial

theorem failsOnly_fill {value : Text → Except Fault Text} (hvalue : ∀ n, FailsOnly P (value n))
    (marker : Marker) (r : Reading) : FailsOnly P (r.fill marker location value) := by
  refine (failsOnly_template hvalue r.template).bind fun filled _ => ?_
  cases r.unclosed with
  | none => trivial
  | some u => exact hP _

theorem failsOnly_request {lookup : Text → Except Fault Text}
    (hlookup : ∀ n, FailsOnly P (lookup n)) {expandValue : List Text → Text → Except Fault Text}
    (hexpand : ∀ pending v, FailsOnly P (expandValue pending v)) (pending : List Text) (n : Text) :
    FailsOnly P (request location lookup expandValue pending n) := by
  rw [request]
  split
  · exact hP _
  · exact (hlookup n).bind fun v _ => hexpand _ v

theorem failsOnly_expandWithin {lookup : Text → Except Fault Text}
    (hlookup : ∀ n, FailsOnly P (lookup n)) (marker : Marker) (depth : Nat) (pending : List Text)
    (text : Text) : FailsOnly P (expandWithin marker location lookup depth pending text) := by
  induction depth generalizing pending text with
  | zero =>
      refine failsOnly_fill hP (fun n => failsOnly_request hP hlookup (fun _ _ => ?_) pending n) marker _
      exact hP _
  | succ depth ih =>
      exact failsOnly_fill hP (fun n => failsOnly_request hP hlookup ih pending n) marker _

theorem NameTable.failsOnly_expand (macros : NameTable m) (text : Text) :
    FailsOnly P (macros.expand location text) := by
  refine failsOnly_expandWithin hP (fun n => ?_) _ _ _ text
  rw [macroValue]
  cases macros.get? n with
  | none => exact hP _
  | some v => trivial

theorem NameTable.failsOnly_resolved (macros : NameTable m) :
    FailsOnly P (macros.resolved location) := by
  refine (FailsOnly.mapM (fun e => ?_) macros.entries).bind fun _ _ => trivial
  exact (macros.failsOnly_expand hP e.value).bind fun _ _ => trivial

theorem Condition.failsOnly_holds? (macros : NameTable m) (condition : Option Text) :
    FailsOnly P (holds? location macros condition) := by
  cases condition with
  | none => trivial
  | some condition =>
      rw [holds?, holds]
      cases Text.breakAt? equals condition with
      | none => exact hP _
      | some sides =>
          have hside (t : Text) : FailsOnly P (side location macros t) :=
            (macros.failsOnly_expand hP t).bind fun _ _ => trivial
          exact (hside _).bind fun _ _ => (hside _).bind fun _ _ => trivial

namespace Origin

variable {times : FileTimes (Except Fault)} (htimes : times.FailOnly P)
include htimes

theorem failsOnly_valueOf (o : Origin) (n : Text) :
    FailsOnly P (o.valueOf times location n) := by
  rw [valueOf]
  cases Metadata.ofName? n with
  | none => exact hP _
  | some d =>
      cases d with
      | modifiedTime => exact htimes.modified _
      | createdTime => exact htimes.created _
      | accessedTime => exact htimes.accessed _
      | _ => trivial

theorem failsOnly_expandMetadata (o : Origin) (property text : Text) :
    FailsOnly P (o.expandMetadata times location property text) := by
  refine failsOnly_expandWithin hP (fun n => ?_) _ _ _ text
  rw [valueWithin]
  split
  · trivial
  · exact o.failsOnly_valueOf hP htimes n

theorem failsOnly_expandProperty (o : Origin) (property value : Text) (macros : NameTable m) :
    FailsOnly P (o.expandProperty times location property macros value) := by
  refine (FailsOnly.mapM (fun element => ?_) _).bind fun _ _ => trivial
  refine (o.failsOnly_expandMetadata hP htimes property _).bind fun text _ => ?_
  have hmacros := macros.failsOnly_expand hP text
  cases hexpand : macros.expand location text with
  | ok t => trivial
  | error fault =>
      rw [hexpand] at hmacros
      exact hmacros

end Origin

end Causes

/-! ## The walk -/

namespace Scope

variable {P : Fault → Prop} {place : Text} (hP : ∀ cause, P (.failed cause (some place)))
  {s : Scope} (hs : s.location = place)
include hP hs

theorem failsOnly_holds (condition : Option Text) : FailsOnly P (s.holds condition) := by
  subst hs
  exact Condition.failsOnly_holds? hP s.macros condition

theorem failsOnly_collect (elements : List PropertyElement) : FailsOnly P (s.collect elements) := by
  refine FailsOnly.foldlM (I := fun _ => True) (fun table e _ => ?_) (fun _ _ => trivial) trivial
  refine (failsOnly_holds hP hs e.condition).bind fun active _ => ?_
  cases active <;> trivial

theorem failsOnly_items (elements : List ItemElement) : FailsOnly P (s.items elements) := by
  induction elements with
  | nil => trivial
  | cons e es ih =>
      have hitem : FailsOnly P (s.item? e) := by
        refine (failsOnly_holds hP hs e.condition).bind fun active _ => ?_
        cases active with
        | false => trivial
        | true => exact (failsOnly_collect hP hs e.properties).bind fun _ _ => trivial
      exact hitem.bind fun _ _ => ih.bind fun _ _ => trivial

omit hP hs in
theorem location_of_path {s' : Scope} (hpath : s'.path = s.path) (hs : s.location = place) :
    s'.location = place := by
  rw [← hs, location, location, hpath]

theorem failsOnly_change {α : Type} {f : Scope → α → Except Fault Scope}
    (hf : ∀ {s' : Scope}, s'.location = place → ∀ a, FailsOnly P (f s' a))
    (hpath : ∀ {s s' : Scope} {a : α}, f s a = .ok s' → s'.path = s.path)
    (condition : Option Text) (members : List α) :
    FailsOnly P (s.change condition f members) := by
  refine (failsOnly_holds hP hs condition).bind fun active _ => ?_
  cases active with
  | false => trivial
  | true =>
      exact FailsOnly.foldlM (fun s' a hs' => hf hs' a)
        (fun hs' hstep => location_of_path (hpath hstep) hs') hs

theorem failsOnly_define (e : DefinitionElement) : FailsOnly P (s.define e) := by
  refine (failsOnly_holds hP hs e.condition).bind fun active _ => ?_
  cases active with
  | false => trivial
  | true => exact (failsOnly_collect hP hs e.properties).bind fun _ _ => trivial

theorem failsOnly_assign (e : PropertyElement) : FailsOnly P (s.assign e) := by
  refine (failsOnly_holds hP hs e.condition).bind fun active _ => ?_
  cases active <;> trivial

theorem failsOnly_step (g : Group) : FailsOnly P (s.step g) := by
  cases g with
  | items label condition members =>
      cases label with
      | some label => trivial
      | none =>
          refine (failsOnly_holds hP hs condition).bind fun active _ => ?_
          cases active with
          | false => trivial
          | true => exact (failsOnly_items hP hs members).bind fun _ _ => trivial
  | definitions condition members =>
      exact (failsOnly_change hP hs (failsOnly_define hP) path_of_define condition members).bind
        fun _ _ => trivial
  | properties condition members =>
      exact (failsOnly_change hP hs (failsOnly_assign hP) path_of_assign condition members).bind
        fun _ _ => trivial

theorem failsOnly_walk (document : ProjectDocument) : FailsOnly P (s.walk document) := by
  induction document generalizing s with
  | nil => trivial
  | cons g gs ih =>
      refine (failsOnly_step hP hs g).bind fun first hstep => ?_
      exact (ih (location_of_path (path_of_step hstep) hs)).bind fun _ _ => trivial

/-! ### The end of the walk -/

variable {times : FileTimes (Except Fault)} (htimes : times.FailOnly P)
include htimes

theorem failsOnly_resolve (i : ItemValue) : FailsOnly P (s.resolve times i) := by
  subst hs
  refine (s.macros.failsOnly_expand hP i.identity).bind fun identity _ => ?_
  refine FailsOnly.foldlM (I := fun _ => True) (fun i e _ => ?_) (fun _ _ => trivial) trivial
  exact (i.origin.failsOnly_expandProperty hP htimes e.name e.value s.macros).bind fun _ _ => trivial

theorem failsOnly_build (document : ProjectDocument) : FailsOnly P (s.build times document) := by
  refine (failsOnly_walk hP hs document).bind fun walked hwalk => ?_
  have hend := location_of_path (path_of_walk hwalk) hs
  exact (FailsOnly.mapM (failsOnly_resolve hP hend htimes) _).bind fun _ _ => trivial

end Scope

end CompilationDatabase
