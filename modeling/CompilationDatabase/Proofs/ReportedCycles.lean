import CompilationDatabase.Proofs.Cycle

/-!
# Reported cycles — what the chain of a circular reference says

The fault of a circular reference shows a chain of names. It is cut out of the names that are pending
where a name is refused, and these are handed on both into values and into the names of tokens. So it
has to be said of the pending names themselves how each of them has come in: `Reaches.requests_next` is
that invariant. Two names next to each other are pending because the value of the first one was being
expanded, with all names up to it pending, and the second one was looked up there.

`NameTable.IsCycle` collects what this says of a chain, and `reported_cycles` that every chain that is
reported is such a cycle.
-/

namespace CompilationDatabase

namespace Expander

variable {e : Expander} {root : Text}

/-- While some names are pending, the expansion of a text looks up a name: for one of its tokens, or
    inside the name of one. The name is given in lower case. -/
def Requests (e : Expander) (pending : List Text) (text key : Text) : Prop :=
  ∃ name, e.Asks pending (e.reading text).template name ∧ name.lower = key

/-- The value of a name that is pending requests the next one, and the last one that is pending
    requests the name that is looked up. -/
theorem Reaches.requests_next {pending : List Text} {t n : Text} (h : e.Reaches root pending t)
    (hask : e.Asks pending (e.reading t).template n) {before after : List Text} {key next : Text}
    (hsplit : pending ++ [n.lower] = before ++ key :: next :: after) :
    ∃ name v, name.lower = key ∧ e.lookup name = .ok v ∧ e.Reaches root (before ++ [key]) v ∧
      e.Requests (before ++ [key]) v next := by
  induction h generalizing n after with
  | root =>
      have hlength := congrArg List.length hsplit
      simp only [List.length_append, List.length_cons, List.length_nil] at hlength
      omega
  | @value p t n' v hreach hask' hrefuse hl ih =>
      rcases List.eq_nil_or_concat after with rfl | ⟨after, last, rfl⟩
      · -- the two names are the last ones: the value that is expanded here, and what it looks up
        have hinit : p ++ [n'.lower] ++ [n.lower] = before ++ [key] ++ [next] := by
          simpa using hsplit
        obtain ⟨hpending, hnext⟩ := List.append_inj' hinit rfl
        obtain ⟨rfl, hkey⟩ := List.append_inj' hpending rfl
        obtain rfl := List.singleton_inj.mp hkey
        exact ⟨n', v, rfl, hl, hreach.value hask' hrefuse hl, n, hask, List.singleton_inj.mp hnext⟩
      · have hinit : p ++ [n'.lower] ++ [n.lower] = before ++ key :: next :: after ++ [last] := by
          simpa using hsplit
        exact ih hask' (List.append_inj' hinit rfl).1

/-- The names that are pending differ, since one that is pending is refused. -/
theorem Reaches.nodup {marker : Marker} {lookup : Text → Except Fault Text} {pending : List Text}
    {t : Text} {location : Option Text}
    (h : (checked marker location lookup).Reaches root pending t) : pending.Nodup := by
  induction h with
  | root => exact List.nodup_nil
  | @value p t n v _ _ hrefuse _ ih =>
      have hnew : n.lower ∉ p := circularFault_eq_none.mp hrefuse
      rw [← List.concat_eq_append]
      exact ih.concat hnew

end Expander

/-- What is left from the first place of a name on. -/
theorem exists_dropWhile_ne {key : Text} {names : List Text} (h : key ∈ names) :
    ∃ outer rest, names = outer ++ key :: rest ∧ names.dropWhile (· ≠ key) = key :: rest := by
  obtain ⟨outer, rest, rfl, hfirst⟩ := List.eq_append_cons_of_mem h
  refine ⟨outer, rest, rfl, ?_⟩
  rw [List.dropWhile_append_of_pos, List.dropWhile_cons_of_neg]
  · simp
  · intro name hname
    simp only [ne_eq, decide_not, Bool.not_eq_eq_eq_not, Bool.not_true, decide_eq_false_iff_not]
    rintro rfl
    exact hfirst hname

/-- In a chain that comes back to its first name, all other names are followed by one. -/
theorem exists_next {first name : Text} {rest : List Text} (h : name ∈ first :: rest) :
    ∃ before next after, first :: (rest ++ [first]) = before ++ name :: next :: after := by
  obtain ⟨before, after, hsplit⟩ := List.append_of_mem h
  rw [← List.cons_append, hsplit]
  cases after with
  | nil => exact ⟨before, first, [], List.append_assoc ..⟩
  | cons next after => exact ⟨before, next, after ++ [first], List.append_assoc ..⟩

namespace NameTable

variable {location : Option Text}

/-- A chain of names that comes back to the first of them, met while a text is expanded. The names are
    in lower case, and each of them is that of an entry. After the names in `outer` the values of the
    names in the chain are expanded inside one another, and each requests the name that follows. -/
structure IsCycle (macros : NameTable .ignoringCase) (location : Option Text) (text : Text)
    (chain : List Text) : Prop where
  closed   : ∃ first rest, chain = first :: (rest ++ [first])
  distinct : chain.dropLast.Nodup
  defined  : ∀ name ∈ chain, ∃ e ∈ macros.entries, e.name.lower = name
  linked   : ∃ outer, ∀ before name next after, chain = before ++ name :: next :: after →
    ∃ e ∈ macros.entries, e.name.lower = name ∧
      (macros.expander location).Reaches text (outer ++ before ++ [name]) e.value ∧
      (macros.expander location).Requests (outer ++ before ++ [name]) e.value next

/-- What is looked up is the value of an entry with that name. -/
theorem exists_entry_of_macroValue {m : Matching} {macros : NameTable m} {name value : Text}
    (h : macros.macroValue location name = .ok value) :
    ∃ e ∈ macros.entries, e.name.lower = name.lower ∧ e.value = value := by
  obtain ⟨e, he, hkey, hvalue⟩ := Entry.exists_of_find? (macroValue_eq_ok.mp h)
  exact ⟨e, he, Matching.lower_eq_of_key_eq hkey, hvalue⟩

/-- Where a name is refused, the value of each name of the chain requests the next one. -/
theorem linked_of_refused {macros : NameTable .ignoringCase} {text t n : Text} {outer rest : List Text}
    (hreach : (macros.expander location).Reaches text (outer ++ n.lower :: rest) t)
    (hask : (macros.expander location).Asks (outer ++ n.lower :: rest)
      ((macros.expander location).reading t).template n)
    {before after : List Text} {name next : Text}
    (hsplit : n.lower :: (rest ++ [n.lower]) = before ++ name :: next :: after) :
    ∃ e ∈ macros.entries, e.name.lower = name ∧
      (macros.expander location).Reaches text (outer ++ before ++ [name]) e.value ∧
      (macros.expander location).Requests (outer ++ before ++ [name]) e.value next := by
  have hpending : outer ++ n.lower :: rest ++ [n.lower]
      = outer ++ before ++ name :: next :: after := by
    rw [List.append_assoc, List.append_assoc, ← hsplit]
    rfl
  obtain ⟨spelling, value, rfl, hl, hvalue, hnext⟩ := hreach.requests_next hask hpending
  obtain ⟨e, he, hname, rfl⟩ := exists_entry_of_macroValue hl
  exact ⟨e, he, hname, hvalue, hnext⟩

theorem isCycle_of_circular {macros : NameTable .ignoringCase} {text : Text} {chain : List Text}
    (h : macros.expand location text = .error (.failed (.circularReference chain) location)) :
    macros.IsCycle location text chain := by
  obtain ⟨pending, t, n, hreach, hask, hrefuse⟩ := exists_refused_of_circular h
  -- the chain is what is pending from the refused name on, and that name again
  obtain ⟨hmem, hchain⟩ := circularFault_eq_some.mp hrefuse
  obtain ⟨outer, rest, rfl, hdrop⟩ := exists_dropWhile_ne hmem
  obtain rfl : n.lower :: (rest ++ [n.lower]) = chain := by
    rw [hdrop] at hchain
    simpa using hchain
  refine ⟨⟨n.lower, rest, rfl⟩, ?_, ?_, outer, fun _ _ _ _ => linked_of_refused hreach hask⟩
  · have hnodup : (outer ++ n.lower :: rest).Nodup := hreach.nodup
    rw [← List.cons_append, List.dropLast_concat]
    exact (List.nodup_append.mp hnodup).2.1
  · intro name hname
    -- the last name is the first one, and every other one is followed by a name
    have hname' : name ∈ n.lower :: rest := by
      simp only [List.mem_cons, List.mem_append, List.not_mem_nil, or_false] at hname ⊢
      tauto
    obtain ⟨before, next, after, hsplit⟩ := exists_next hname'
    obtain ⟨e, he, hlower, -⟩ := linked_of_refused hreach hask hsplit
    exact ⟨e, he, hlower⟩

/-- **A circular reference that is reported is one.** Whenever the expansion of a text fails with a
    circular reference, the chain of the fault comes back to its first name, all others differ, each is
    a name of the table, the first one is reached from the text, and the expansion of the value of each
    requests the next one. And the names that are pending at any moment of any expansion differ. -/
theorem reported_cycles :
    (∀ {macros : NameTable .ignoringCase} {location : Option Text} {text : Text} {chain : List Text},
      macros.expand location text = .error (.failed (.circularReference chain) location) →
      macros.IsCycle location text chain) ∧
    ∀ {marker : Marker} {location : Option Text} {lookup : Text → Except Fault Text}
      {root inner : Text} {pending : List Text},
      (Expander.checked marker location lookup).Reaches root pending inner →
      pending.Nodup :=
  ⟨isCycle_of_circular, Expander.Reaches.nodup⟩

/-- Macros of which two lead to each other, one of them in the name of a token. -/
def roundMacros : NameTable .ignoringCase :=
  .ofList [⟨"A".toList, "x$(B)".toList⟩, ⟨"B".toList, "$(N)$(C$($(n)))".toList⟩,
    ⟨"N".toList, "M".toList⟩, ⟨"M".toList, "$(b)".toList⟩]

/-- The chain is reported without the name before it, and the first of its names is reached while that
    one is pending. -/
theorem reported_cycles_roundMacros :
    roundMacros.expand none "$(a)".toList
      = .error (.failed (.circularReference ["b".toList, "m".toList, "b".toList]) none) ∧
    roundMacros.IsCycle none "$(a)".toList ["b".toList, "m".toList, "b".toList] ∧
    (roundMacros.expander none).Reaches "$(a)".toList ["a".toList, "b".toList]
      "$(N)$(C$($(n)))".toList ∧
    ["a".toList, "b".toList].Nodup := by
  have h : roundMacros.expand none "$(a)".toList
      = .error (.failed (.circularReference ["b".toList, "m".toList, "b".toList]) none) := rfl
  have hreach : (roundMacros.expander none).Reaches "$(a)".toList ["a".toList, "b".toList]
      "$(N)$(C$($(n)))".toList := by
    have hname : ∀ (p : List Text) (c : Char), (roundMacros.expander none).Gives p
        (.template (.char c .done)) (.ok [c]) := fun p c => .char .done
    have hfirst : (roundMacros.expander none).Reaches "$(a)".toList ["a".toList] "x$(B)".toList :=
      Expander.Reaches.value (n := ['a']) .root (.token (hname _ _)) rfl rfl
    exact Expander.Reaches.value (n := ['B']) hfirst (.char (.token (hname _ _))) rfl rfl
  exact ⟨h, reported_cycles.1 h, hreach, reported_cycles.2 hreach⟩

end NameTable

end CompilationDatabase
