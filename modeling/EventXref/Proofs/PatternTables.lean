import EventXref.Event.Extraction
import EventXref.Proofs.CallPatterns

namespace EventXref

namespace LanguageEvents

def names (e : LanguageEvents) : List String := e.triggers ++ e.listeners

def IsPlain (e : LanguageEvents) : Prop := ∀ n ∈ e.names, Regex.IsPlain n.toList

/-- The pattern of the language can be compiled. -/
structure Compiles (e : LanguageEvents) : Prop where
  listed : e.names ≠ []
  fits : (Regex.callRegex e.names).fits = true

end LanguageEvents

variable {e e' : LanguageEvents}

namespace Pattern

def ofNames (e : LanguageEvents) : Pattern :=
  ⟨.ofRegex (.callRegex e.names), 1, 2, e.triggers, e.listeners⟩

theorem two_le_groups (names : List String) : 2 ≤ (Regex.callRegex names).groups := by
  simp only [Regex.callRegex, Regex.row, Regex.groups]
  omega

theorem compile_default (plain : e.IsPlain) (p : Pattern) :
    compile Template.default e = .ok p ↔ e.Compiles ∧ p = ofNames e := by
  have groups := two_le_groups e.names
  have empty : (e.triggers.isEmpty && e.listeners.isEmpty) = true ↔ e.names = [] := by
    simp [LanguageEvents.names]
  unfold compile
  by_cases listed : e.names = []
  · rw [if_pos (empty.mpr listed)]
    exact ⟨nofun, fun h => absurd listed h.1.listed⟩
  · rw [if_neg (mt empty.mp listed)]
    have parsed := Regex.parse?_call listed plain
    rw [LanguageEvents.names] at parsed
    simp only [parsed, Option.filter_some]
    by_cases fits : (Regex.callRegex e.names).fits = true
    · have first : checkGroup .function 1 (Regex.callRegex e.names).groups = .ok () :=
        if_neg (by omega)
      have second : checkGroup .event 2 (Regex.callRegex e.names).groups = .ok () :=
        if_neg (by omega)
      rw [LanguageEvents.names] at fits first second
      simp only [fits, if_true, Template.default, first, second]
      constructor
      · rintro ⟨⟩
        exact ⟨⟨listed, fits⟩, rfl⟩
      · rintro ⟨-, rfl⟩
        rfl
    · have unfit := fits
      rw [LanguageEvents.names] at unfit
      simp only [unfit]
      exact ⟨nofun, fun h => absurd h.1.fits fits⟩

end Pattern

namespace PatternTable

variable {es : List LanguageEvents} {t u : PatternTable}

theorem get?_insert (t : PatternTable) (language : String) (p : Pattern) (other : String) :
    (PatternTable.mk (t.patterns.insert language p)).get? other =
      if language = other then some p else t.get? other := by
  simp only [get?, Std.ExtTreeMap.getElem?_insert, Std.compare_eq_iff_eq]

theorem compileAll_cons (plain : e.IsPlain) :
    compileAll Template.default t (e :: es) = .ok u ↔ e.Compiles ∧ t.get? e.language = none ∧
      compileAll Template.default ⟨t.patterns.insert e.language (.ofNames e)⟩ es = .ok u := by
  have new : t.patterns.contains e.language = true ↔ ¬ t.get? e.language = none := by
    rw [get?, Std.ExtTreeMap.contains_eq_isSome_getElem?, Option.isSome_iff_ne_none]
  rw [compileAll]
  cases compiled : Pattern.compile Template.default e with
  | error reason =>
    have fails : ¬ e.Compiles := fun compiles => by
      have ok := (Pattern.compile_default plain _).mpr ⟨compiles, rfl⟩
      rw [compiled] at ok
      cases ok
    exact ⟨nofun, fun h => absurd h.1 fails⟩
  | ok p =>
    obtain ⟨compiles, rfl⟩ := (Pattern.compile_default plain p).mp compiled
    by_cases known : t.patterns.contains e.language = true
    · simp only [bind, Except.bind, known, if_true]
      exact ⟨nofun, fun h => absurd h.2.1 (new.mp known)⟩
    · have fresh : t.get? e.language = none := Decidable.not_not.mp (mt new.mpr known)
      simp only [bind, Except.bind, known, compiles, fresh, true_and]
      exact Iff.rfl

theorem compileAll_ok_iff (plain : ∀ e ∈ es, e.IsPlain) :
    (∃ u, compileAll Template.default t es = .ok u) ↔ (∀ e ∈ es, e.Compiles) ∧
      (es.map LanguageEvents.language).Nodup ∧ ∀ e ∈ es, t.get? e.language = none := by
  induction es generalizing t with
  | nil => simp [compileAll]
  | cons e es ih =>
    obtain ⟨here, later⟩ := List.forall_mem_cons.mp plain
    simp only [compileAll_cons here, exists_and_left, ih later, get?_insert, List.forall_mem_cons,
      List.map_cons, List.nodup_cons, List.mem_map]
    constructor
    · rintro ⟨compiles, fresh, all, distinct, others⟩
      refine ⟨⟨compiles, all⟩, ⟨?_, distinct⟩, fresh, fun e' member => ?_⟩
      · rintro ⟨e', member, eq⟩
        simpa [eq] using others e' member
      · have other := others e' member
        split at other
        · cases other
        · exact other
    · rintro ⟨⟨compiles, all⟩, ⟨new, distinct⟩, fresh, others⟩
      refine ⟨compiles, fresh, all, distinct, fun e' member => ?_⟩
      rw [if_neg fun eq => new ⟨e', member, eq.symm⟩]
      exact others e' member

/-- Later languages leave a pattern as it is. -/
theorem compileAll_keeps (plain : ∀ e ∈ es, e.IsPlain)
    (compiled : compileAll Template.default t es = .ok u) {language : String} {p : Pattern}
    (known : t.get? language = some p) : u.get? language = some p := by
  induction es generalizing t with
  | nil =>
    cases compiled
    exact known
  | cons e es ih =>
    obtain ⟨here, later⟩ := List.forall_mem_cons.mp plain
    obtain ⟨-, fresh, rest⟩ := (compileAll_cons here).mp compiled
    refine ih later rest ?_
    rw [get?_insert, if_neg]
    · exact known
    · rintro rfl
      rw [fresh] at known
      cases known

theorem compileAll_get? (plain : ∀ e ∈ es, e.IsPlain)
    (compiled : compileAll Template.default t es = .ok u) (member : e ∈ es) :
    e.Compiles ∧ u.get? e.language = some (.ofNames e) := by
  induction es generalizing t with
  | nil => cases member
  | cons e' es ih =>
    obtain ⟨here, later⟩ := List.forall_mem_cons.mp plain
    obtain ⟨compiles, -, rest⟩ := (compileAll_cons here).mp compiled
    rcases List.mem_cons.mp member with rfl | there
    · exact ⟨compiles, compileAll_keeps later rest (by rw [get?_insert, if_pos rfl])⟩
    · exact ih later rest there

end PatternTable

/-- The languages are distinct, and the pattern of each one can be compiled. -/
structure Config.Compiles (c : Config) : Prop where
  distinct : c.languages.Nodup
  each : ∀ e ∈ c.events, e.Compiles

theorem PatternTable.compile_eq {c : Config} (usual : c.template = Template.default) :
    compile c = compileAll Template.default ⟨∅⟩ c.events := by
  have placeholder :
      Text.occursIn Template.placeholder.toList Template.default.regex.toList = true := by decide
  rw [compile, usual, if_pos placeholder]

theorem PatternTable.compile_ok_iff {c : Config} (usual : c.template = Template.default)
    (plain : ∀ e ∈ c.events, e.IsPlain) :
    (∃ t, compile c = .ok t) ↔ c.Compiles := by
  rw [compile_eq usual, compileAll_ok_iff plain]
  exact ⟨fun h => ⟨h.2.1, h.1⟩, fun h => ⟨h.each, h.distinct, by simp [get?]⟩⟩

end EventXref
