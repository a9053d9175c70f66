import CompilationDatabase.Metadata

/-!
# Derivations — expansion as rules, without a bound on depth

`expandWithin` is given a number of names that may be pending. The rules of this file are not: a
derivation of `Expander.Gives` is one finite expansion, however deep it goes.

* `Expander` is what an expansion depends on. `Expander.checked` refuses a name that is pending,
  and `Expander.unchecked` is the same expander when it refuses nothing.
* `Gives pending task result` is evaluation in big steps: of a text, of a template, of a name.
* `Gives.unique` says that a task has at most one result, and `Gives.mirrored` when another expander
  has it as well; so a value found under the check is found without it (`Gives.unchecked_of_ok`).
* `Asks` says which names an expansion looks up, and `Reaches` which values it comes to expand, under
  which pending names.
-/

namespace CompilationDatabase

/-- What an expansion depends on: how tokens open, where faults are found, what names stand for, and
    which names are refused while others are pending. -/
structure Expander where
  marker : Marker
  location : Option Text
  lookup : Text → Except Fault Text
  refuse : List Text → Text → Option Fault

/-- What is to be done while a text is expanded. -/
inductive Task
  /-- A text is expanded. -/
  | text (text : Text)
  /-- A template is filled in. -/
  | template (template : Template)
  /-- A name is replaced by its expanded value. -/
  | request (name : Text)

/-- The fault of a name that is met while it is pending: the pending names from there on, and the
    name again. -/
def circularFault (location : Option Text) (pending : List Text) (name : Text) : Option Fault :=
  if pending.contains name.lower then
    some (.failed (.circularReference (pending.dropWhile (· ≠ name.lower) ++ [name.lower])) location)
  else none

/-- Names that are not pending are not refused. -/
theorem circularFault_eq_none {location : Option Text} {pending : List Text} {name : Text} :
    circularFault location pending name = none ↔ name.lower ∉ pending := by
  rw [circularFault]
  by_cases h : name.lower ∈ pending <;> simp [h]

/-- Names that are pending are refused with the chain that leads back to them. -/
theorem circularFault_eq_some {location : Option Text} {pending : List Text} {name : Text}
    {f : Fault} :
    circularFault location pending name = some f ↔ name.lower ∈ pending ∧
      .failed (.circularReference (pending.dropWhile (· ≠ name.lower) ++ [name.lower])) location
        = f := by
  rw [circularFault]
  by_cases h : name.lower ∈ pending <;> simp [h]

/-- What becomes of a text once its tokens are filled in: a token that is never closed is a fault. -/
def Reading.close (marker : Marker) (location : Option Text) (r : Reading) (filled : Text) :
    Except Fault Text :=
  match r.unclosed with
  | none => .ok filled
  | some u => .error (.failed (u.cause marker) location)

/-- A reading that is closed without a fault is closed alike at every location. -/
theorem Reading.close_ok {marker : Marker} {location location' : Option Text} {r : Reading}
    {filled t : Text} (h : r.close marker location filled = .ok t) :
    r.close marker location' filled = .ok t := by
  rw [Reading.close] at h ⊢
  cases hu : r.unclosed with
  | none => rw [hu] at h; exact h
  | some u => rw [hu] at h; exact nomatch h

/-- A reading is filled in by its template, and then closed. -/
theorem Reading.fill_eq (marker : Marker) (location : Option Text)
    (value : Text → Except Fault Text) (r : Reading) :
    r.fill marker location value = (r.template.fill value).bind (r.close marker location) := by
  refine congrArg (r.template.fill value).bind (funext fun filled => ?_)
  rw [Reading.close]
  cases r.unclosed <;> rfl

namespace Expander

/-- The expander that refuses a name while it is pending. -/
def checked (marker : Marker) (location : Option Text) (lookup : Text → Except Fault Text) :
    Expander :=
  ⟨marker, location, lookup, circularFault location⟩

/-- The same expander without its check. -/
def unchecked (e : Expander) : Expander := { e with refuse := fun _ _ => none }

/-- How the expander reads a text. -/
def reading (e : Expander) (text : Text) : Reading := Reading.ofText e.marker text

/-- The result of a task while names are pending, by finite derivations: tokens from left to right,
    the name of a token first, and a value again as a text. -/
inductive Gives (e : Expander) : List Text → Task → Except Fault Text → Prop
  /-- A text is read, filled in and closed. -/
  | text {p t r} : Gives e p (.template (e.reading t).template) r →
      Gives e p (.text t) (r.bind ((e.reading t).close e.marker e.location))
  /-- The end of a template. -/
  | done {p} : Gives e p (.template .done) (.ok [])
  /-- A character stands for itself. -/
  | char {p c rest r} : Gives e p (.template rest) r →
      Gives e p (.template (.char c rest)) (r.map (c :: ·))
  /-- A token is replaced, and what follows it is filled in. -/
  | token {p name rest n here r} : Gives e p (.template name) (.ok n) →
      Gives e p (.request n) (.ok here) → Gives e p (.template rest) r →
      Gives e p (.template (.token name rest)) (r.map (here ++ ·))
  /-- The name of a token cannot be filled in. -/
  | badName {p name rest f} : Gives e p (.template name) (.error f) →
      Gives e p (.template (.token name rest)) (.error f)
  /-- A token cannot be replaced. -/
  | badToken {p name rest n f} : Gives e p (.template name) (.ok n) →
      Gives e p (.request n) (.error f) → Gives e p (.template (.token name rest)) (.error f)
  /-- A name is refused. -/
  | refused {p n f} : e.refuse p n = some f → Gives e p (.request n) (.error f)
  /-- A name stands for nothing. -/
  | missing {p n f} : e.refuse p n = none → e.lookup n = .error f →
      Gives e p (.request n) (.error f)
  /-- The value of a name is expanded while the name is pending. -/
  | value {p n v r} : e.refuse p n = none → e.lookup n = .ok v →
      Gives e (p ++ [n.lower]) (.text v) r → Gives e p (.request n) r

variable {e : Expander} {p : List Text}

/-- A text without a token that stays open is expanded by filling it in. -/
theorem Gives.text_of_closed {t filled : Text}
    (h : e.Gives p (.template (e.reading t).template) (.ok filled))
    (hclosed : (e.reading t).unclosed = none) : e.Gives p (.text t) (.ok filled) := by
  have hclose : (e.reading t).close e.marker e.location filled = .ok filled := by
    rw [Reading.close, hclosed]
  exact hclose ▸ Gives.text h

/-- A task has at most one result. -/
theorem Gives.unique {task : Task} {r₁ r₂ : Except Fault Text} (h₁ : e.Gives p task r₁)
    (h₂ : e.Gives p task r₂) : r₁ = r₂ := by
  induction h₁ generalizing r₂ with
  | text _ ih =>
      cases h₂ with
      | text h => rw [ih h]
  | done =>
      cases h₂ with
      | done => rfl
  | char _ ih =>
      cases h₂ with
      | char h => rw [ih h]
  | token _ _ _ ihn ihq ihr =>
      cases h₂ with
      | token hn hq hr =>
          obtain rfl := Except.ok.inj (ihn hn)
          obtain rfl := Except.ok.inj (ihq hq)
          rw [ihr hr]
      | badName hn => exact nomatch ihn hn
      | badToken hn hq =>
          obtain rfl := Except.ok.inj (ihn hn)
          exact nomatch ihq hq
  | badName _ ih =>
      cases h₂ with
      | token hn _ _ => exact nomatch ih hn
      | badName hn => exact ih hn
      | badToken hn _ => exact nomatch ih hn
  | badToken _ _ ihn ihq =>
      cases h₂ with
      | token hn hq _ =>
          obtain rfl := Except.ok.inj (ihn hn)
          exact nomatch ihq hq
      | badName hn => exact nomatch ihn hn
      | badToken hn hq =>
          obtain rfl := Except.ok.inj (ihn hn)
          exact ihq hq
  | refused h =>
      cases h₂ with
      | refused h' => rw [Option.some.inj (h.symm.trans h')]
      | missing h' _ => exact nomatch h.symm.trans h'
      | value h' _ _ => exact nomatch h.symm.trans h'
  | missing h hl =>
      cases h₂ with
      | refused h' => exact nomatch h.symm.trans h'
      | missing _ hl' => rw [Except.error.inj (hl.symm.trans hl')]
      | value _ hl' _ => exact nomatch hl.symm.trans hl'
  | value h hl _ ih =>
      cases h₂ with
      | refused h' => exact nomatch h.symm.trans h'
      | missing _ hl' => exact nomatch hl.symm.trans hl'
      | value _ hl' hv =>
          obtain rfl := Except.ok.inj (hl.symm.trans hl')
          exact ih hv

/-- What one expander does another one does as well: it reads texts alike, finds every value that is
    found, and fails with the faults that are kept, if any are, at the same location. The names that
    are pending in the two are related. -/
structure Mirrors (e e' : Expander) (related : List Text → List Text → Prop) (kept : Fault → Prop) :
    Prop where
  marker   : e'.marker = e.marker
  location : ∀ {f : Fault}, kept f → e'.location = e.location
  push     : ∀ {p q : List Text} (key : Text), related p q → related (p ++ [key]) (q ++ [key])
  accepted : ∀ {p q : List Text} {n : Text}, related p q → e.refuse p n = none →
    e'.refuse q n = none
  refused  : ∀ {p q : List Text} {n : Text} {f : Fault}, related p q → e.refuse p n = some f →
    kept f → e'.refuse q n = some f
  found    : ∀ {n v : Text}, e.lookup n = .ok v → e'.lookup n = .ok v
  missing  : ∀ {n : Text} {f : Fault}, e.lookup n = .error f → kept f → e'.lookup n = .error f

/-- A derivation goes through in an expander that mirrors the first one, if its fault is kept. -/
theorem Gives.mirrored {e' : Expander} {related : List Text → List Text → Prop}
    {kept : Fault → Prop} (hm : e.Mirrors e' related kept) {task : Task} {r : Except Fault Text}
    (h : e.Gives p task r) (hr : ∀ f, r = .error f → kept f) {q : List Text} (hpq : related p q) :
    e'.Gives q task r := by
  -- a fault of a part is the fault of the whole, so it is kept in the part as well
  induction h generalizing q with
  | @text p t r _ ih =>
      have hreading : e'.reading t = e.reading t := by rw [reading, reading, hm.marker]
      have htemplate : e'.Gives q (.template (e'.reading t).template) r := by
        refine hreading ▸ ih (fun f hf => hr f ?_) hpq
        rw [hf]; rfl
      -- the location is read only where a token stays open, and that fault is kept
      have hclose : r.bind ((e'.reading t).close e'.marker e'.location)
          = r.bind ((e.reading t).close e.marker e.location) := by
        rw [hreading, hm.marker]
        cases r with
        | error f => rfl
        | ok filled =>
            show (e.reading t).close _ _ filled = (e.reading t).close _ _ filled
            cases hc : (e.reading t).close e.marker e.location filled with
            | error f => rw [hm.location (hr f hc), hc]
            | ok v => exact Reading.close_ok hc
      exact hclose ▸ .text htemplate
  | done => exact .done
  | char _ ih =>
      refine .char (ih (fun f hf => hr f ?_) hpq)
      rw [hf]; rfl
  | token _ _ _ ihn ihq ihr =>
      refine .token (ihn nofun hpq) (ihq nofun hpq) (ihr (fun f hf => hr f ?_) hpq)
      rw [hf]; rfl
  | badName _ ih => exact .badName (ih hr hpq)
  | badToken _ _ ihn ihq => exact .badToken (ihn nofun hpq) (ihq hr hpq)
  | refused hf => exact .refused (hm.refused hpq hf (hr _ rfl))
  | missing hf hl => exact .missing (hm.accepted hpq hf) (hm.missing hl (hr _ rfl))
  | value hf hl _ ih => exact .value (hm.accepted hpq hf) (hm.found hl) (ih hr (hm.push _ hpq))

/-- Without its check an expander does what it does with it, unless the check fails. -/
theorem mirrors_unchecked (e : Expander) :
    e.Mirrors e.unchecked (fun _ _ => True) (fun f => ∀ q n, e.refuse q n ≠ some f) where
  marker := rfl
  location _ := rfl
  push _ _ := trivial
  accepted _ _ := rfl
  refused _ hf hkept := absurd hf (hkept _ _)
  found hl := hl
  missing hl _ := hl

/-- What is found under the check is found without it, unless the check is what failed. -/
theorem Gives.without_check {task : Task} {r : Except Fault Text} (h : e.Gives p task r)
    (hr : ∀ q n f, e.refuse q n = some f → r ≠ .error f) (q : List Text) :
    e.unchecked.Gives q task r :=
  h.mirrored e.mirrors_unchecked (fun f hf q n hrefuse => hr q n f hrefuse hf) trivial

/-- A value is found alike at every location, as long as what the names stand for is. -/
theorem Gives.relocated {marker : Marker} {location location' : Option Text}
    {lookup lookup' : Text → Except Fault Text}
    (hlookup : ∀ {n v : Text}, lookup n = .ok v → lookup' n = .ok v) {task : Task} {t : Text}
    (h : (checked marker location lookup).Gives p task (.ok t)) :
    (checked marker location' lookup').Gives p task (.ok t) := by
  have hmirrors : (checked marker location lookup).Mirrors (checked marker location' lookup') Eq
      (fun _ => False) :=
    { marker := rfl
      location := False.elim
      push := fun key hpq => hpq ▸ rfl
      accepted := fun hpq hf =>
        hpq ▸ circularFault_eq_none.mpr (circularFault_eq_none.mp hf)
      refused := fun _ _ => False.elim
      found := hlookup
      missing := fun _ => False.elim }
  exact h.mirrored hmirrors (fun _ => nofun) rfl

/-- A value that is found under the check is found without it. -/
theorem Gives.unchecked_of_ok {task : Task} {t : Text} (h : e.Gives p task (.ok t))
    (q : List Text) : e.unchecked.Gives q task (.ok t) :=
  h.without_check (fun _ _ _ _ => nofun) q

/-- Without the check it does not matter which names are pending. -/
theorem Gives.forget_pending {task : Task} {r : Except Fault Text}
    (h : e.unchecked.Gives p task r) (q : List Text) : e.unchecked.Gives q task r :=
  h.without_check (fun _ _ _ hf => nomatch hf) q

/-- A template is filled in by the results of its requests. -/
theorem gives_fill {value : Text → Except Fault Text}
    (hvalue : ∀ n, e.Gives p (.request n) (value n)) (t : Template) :
    e.Gives p (.template t) (t.fill value) := by
  induction t with
  | done => exact .done
  | char c rest ih => exact .char ih
  | token name rest ihn ihr =>
      show e.Gives p _ ((name.fill value).bind fun n => (value n).bind fun here =>
        (rest.fill value).map (here ++ ·))
      cases hn : name.fill value with
      | error f => exact .badName (hn ▸ ihn)
      | ok n =>
          have hname : e.Gives p (.template name) (.ok n) := hn ▸ ihn
          show e.Gives p _ ((value n).bind fun here => (rest.fill value).map (here ++ ·))
          cases hv : value n with
          | error f => exact .badToken hname (hv ▸ hvalue n)
          | ok here => exact .token hname (hv ▸ hvalue n) ihr

/-- A text is expanded by the results of its requests. -/
theorem gives_reading_fill {value : Text → Except Fault Text}
    (hvalue : ∀ n, e.Gives p (.request n) (value n)) (t : Text) :
    e.Gives p (.text t) ((e.reading t).fill e.marker e.location value) := by
  rw [Reading.fill_eq]
  exact .text (gives_fill hvalue _)

/-! ## What is looked up, and what is pending -/

/-- The names that are looked up while a template is filled in, in names of tokens or for tokens
    themselves: what comes after a token is reached only if the token is replaced. -/
inductive Asks (e : Expander) (p : List Text) : Template → Text → Prop
  /-- After a character. -/
  | char {c rest n} : Asks e p rest n → Asks e p (.char c rest) n
  /-- In the name of a token. -/
  | name {name rest n} : Asks e p name n → Asks e p (.token name rest) n
  /-- For the token itself. -/
  | token {name rest n} : e.Gives p (.template name) (.ok n) → Asks e p (.token name rest) n
  /-- After a token. -/
  | rest {name rest n n' here} : e.Gives p (.template name) (.ok n) →
      e.Gives p (.request n) (.ok here) → Asks e p rest n' → Asks e p (.token name rest) n'

/-- The values that are expanded while a text is, and the names that are pending then. -/
inductive Reaches (e : Expander) (root : Text) : List Text → Text → Prop
  /-- The text itself, before any name is met. -/
  | root : Reaches e root [] root
  /-- The value of a name that is looked up. -/
  | value {p t n v} : Reaches e root p t → e.Asks p (e.reading t).template n →
      e.refuse p n = none → e.lookup n = .ok v → Reaches e root (p ++ [n.lower]) v

/-- A name that is looked up under the check is looked up without it. -/
theorem Asks.unchecked {t : Template} {n : Text} (h : e.Asks p t n) (q : List Text) :
    e.unchecked.Asks q t n := by
  induction h with
  | char _ ih => exact .char ih
  | name _ ih => exact .name ih
  | token hn => exact .token (hn.unchecked_of_ok q)
  | rest hn hq _ ih => exact .rest (hn.unchecked_of_ok q) (hq.unchecked_of_ok q) ih

/-- The fault of a template is the fault of a name that it looks up. -/
theorem exists_asks_of_fault {t : Template} {r : Except Fault Text} {f : Fault}
    (h : e.Gives p (.template t) r) (hr : r = .error f) :
    ∃ n, e.Asks p t n ∧ e.Gives p (.request n) (.error f) := by
  induction t generalizing r with
  | done => cases h; exact nomatch hr
  | char c rest ih =>
      cases h with
      | @char _ _ _ r h =>
          cases r with
          | ok _ => exact nomatch hr
          | error g =>
              obtain rfl := Except.error.inj hr
              obtain ⟨n, hn, hq⟩ := ih h rfl
              exact ⟨n, .char hn, hq⟩
  | token name rest ihn ihr =>
      cases h with
      | @token _ _ _ _ _ r hn hq h =>
          cases r with
          | ok _ => exact nomatch hr
          | error g =>
              obtain rfl := Except.error.inj hr
              obtain ⟨n', hn', hq'⟩ := ihr h rfl
              exact ⟨n', .rest hn hq hn', hq'⟩
      | badName h =>
          obtain ⟨n, hn, hq⟩ := ihn h hr
          exact ⟨n, .name hn, hq⟩
      | badToken hn hq => exact ⟨_, .token hn, hr ▸ hq⟩

end Expander

end CompilationDatabase
