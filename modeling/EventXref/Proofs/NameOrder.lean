import Mathlib.Data.List.Forall2
import EventXref.Proofs.AllMatches
import EventXref.Proofs.PatternTables
import EventXref.Proofs.Room
import EventXref.Proofs.WordChars

/-!
The order of function names. The names of a language become alternatives of its pattern in the order
of the settings, and an earlier alternative goes before a later one. Yet the rest of the pattern
tells where a name ends, so only the names themselves count, and what is found in a document depends
neither on their order nor on how often they are listed.
-/
namespace EventXref

/-- A name of a function: word characters only. -/
def IsWord (name : String) : Prop := name ≠ "" ∧ ∀ c ∈ name.toList, Text.wordChars.contains c = true

namespace LanguageEvents

def size (e : LanguageEvents) : Nat := (e.names.map fun n => Text.size n.toList).sum

/-- The same functions on each side, in any order and any number of times. -/
structure Alike (e e' : LanguageEvents) : Prop where
  language : e.language = e'.language
  triggers : ∀ n, n ∈ e.triggers ↔ n ∈ e'.triggers
  listeners : ∀ n, n ∈ e.listeners ↔ n ∈ e'.listeners

theorem Alike.names {e e' : LanguageEvents} (alike : e.Alike e') (n : String) :
    n ∈ e.names ↔ n ∈ e'.names := by
  simp [LanguageEvents.names, alike.triggers n, alike.listeners n]

theorem words_congr {es es' : List LanguageEvents} (same : List.Forall₂ Alike es es')
    (words : ∀ e ∈ es, ∀ n ∈ e.names, IsWord n) : ∀ e ∈ es', ∀ n ∈ e.names, IsWord n := by
  induction same with
  | nil => exact words
  | cons first _ ih =>
    obtain ⟨here, later⟩ := List.forall_mem_cons.mp words
    exact List.forall_mem_cons.mpr ⟨fun n member => here n ((first.names n).mpr member), ih later⟩

theorem isPlain_of_words {e : LanguageEvents} (words : ∀ n ∈ e.names, IsWord n) : e.IsPlain :=
  fun n member => Regex.isPlain_of_word (words n member).1 (words n member).2

end LanguageEvents

variable {e e' : LanguageEvents}

namespace Pattern

/-- Two patterns that find and classify the same. -/
structure Alike (p p' : Pattern) : Prop where
  candidates : ∀ text, Extraction.candidates p text = Extraction.candidates p' text
  classify : ∀ function, p.classify function = p'.classify function

theorem classify_congr (alike : e.Alike e') (function : String) :
    (ofNames e).classify function = (ofNames e').classify function := by
  simp [classify, ofNames, alike.triggers function, alike.listeners function]

theorem alike_ofNames (alike : e.Alike e') (listed : e.names ≠ [])
    (plain : e.IsPlain) : (ofNames e).Alike (ofNames e') := by
  have plain' : e'.IsPlain :=
    fun n member => plain n ((alike.names n).mpr member)
  have listed' : e'.names ≠ [] := by
    obtain ⟨n, rest, eq⟩ := List.exists_cons_of_ne_nil listed
    exact List.ne_nil_of_mem ((alike.names n).mp (eq ▸ List.mem_cons_self))
  refine ⟨fun text => ?_, classify_congr alike⟩
  have found := Program.findAll_congr (Regex.callRegex_definite listed plain)
    (Regex.callRegex_definite listed' plain')
    (Regex.on_callRegex_congr listed plain alike.names) text
  simp only [Extraction.candidates, ofNames, found]

theorem Alike.examine {p p' : Pattern} (alike : p.Alike p') {τ : Type}
    (scopeAt : τ → Position → Option ScopeInfo × τ) (d : Document) (cs : List Extraction.Candidate)
    (t : τ) (cancel : Option Cancellation) :
    Extraction.examine scopeAt p d t cancel cs = Extraction.examine scopeAt p' d t cancel cs := by
  induction cs generalizing t cancel with
  | nil => rfl
  | cons c cs ih =>
    have confirm : ∀ info, Extraction.confirm p d c info = Extraction.confirm p' d c info := by
      intro info
      simp only [Extraction.confirm, alike.classify]
    simp only [Extraction.examine, ih, confirm]

end Pattern

namespace PatternTable

/-- Two tables with the same languages and patterns that find the same. -/
def Alike (t t' : PatternTable) : Prop :=
  ∀ language, Option.Rel Pattern.Alike (t.get? language) (t'.get? language)

theorem Alike.extract {t t' : PatternTable} (alike : t.Alike t') {τ : Type} (maxFileSize : Nat)
    (scopeAt : τ → Position → Option ScopeInfo × τ) (d : Document) (cancel : Option Cancellation)
    (s : τ) : Extraction.extract t maxFileSize scopeAt d cancel s =
      Extraction.extract t' maxFileSize scopeAt d cancel s := by
  have known := alike d.language
  unfold Extraction.extract
  cases one : t.get? d.language with
  | none =>
    rw [one] at known
    cases two : t'.get? d.language with
    | none => rfl
    | some p' => rw [two] at known; cases known
  | some p =>
    rw [one] at known
    cases two : t'.get? d.language with
    | none => rw [two] at known; cases known
    | some p' =>
      rw [two] at known
      cases known with
      | some same => simp only [same.candidates, same.examine]

variable {es es' : List LanguageEvents} {t t' u u' : PatternTable}

theorem compileAll_alike (same : List.Forall₂ LanguageEvents.Alike es es')
    (plain : ∀ e ∈ es, e.IsPlain)
    (compiled : compileAll Template.default t es = .ok u)
    (compiled' : compileAll Template.default t' es' = .ok u') (alike : t.Alike t') : u.Alike u' := by
  induction same generalizing t t' with
  | nil =>
    cases compiled
    cases compiled'
    exact alike
  | @cons e e' es es' first _ ih =>
    obtain ⟨here, later⟩ := List.forall_mem_cons.mp plain
    have here' : e'.IsPlain := fun n member => here n ((first.names n).mpr member)
    obtain ⟨compiles, -, rest⟩ := (compileAll_cons here).mp compiled
    obtain ⟨-, -, rest'⟩ := (compileAll_cons here').mp compiled'
    refine ih later rest rest' fun language => ?_
    rw [get?_insert, get?_insert, ← first.language]
    split
    · exact .some (Pattern.alike_ofNames first compiles.listed here)
    · exact alike language

end PatternTable

theorem LanguageEvents.compiles_of_size_le (words : ∀ n ∈ e.names, IsWord n) (listed : e.names ≠ [])
    (small : e.size ≤ 60000) : e.Compiles :=
  ⟨listed, Regex.fits_of_size_le listed
    (fun n member => (isPlain_of_words words n member).1) small⟩

/-- Of the function names of a language only the set counts. Two configurations that list the same
names, in any order and any number of times, give the same extraction of every document if both
compile; and each compiles if its languages differ and the names of each are not too many. -/
theorem function_names_count_as_a_set {c c' : Config} (usual : c.template = Template.default)
    (usual' : c'.template = Template.default)
    (same : List.Forall₂ LanguageEvents.Alike c.events c'.events)
    (words : ∀ e ∈ c.events, ∀ n ∈ e.names, IsWord n) :
    (∀ k ∈ [c, c'],
      ((∃ t, PatternTable.compile k = .ok t) ↔ k.Compiles) ∧
      (k.languages.Nodup → (∀ e ∈ k.events, e.names ≠ [] ∧ e.size ≤ 60000) →
        ∃ t, PatternTable.compile k = .ok t)) ∧
    ∀ t t', PatternTable.compile c = .ok t → PatternTable.compile c' = .ok t' →
      ∀ (τ : Type) (scopeAt : τ → Position → Option ScopeInfo × τ) (maxFileSize : Nat)
        (d : Document) (cancel : Option Cancellation) (s : τ),
        Extraction.extract t maxFileSize scopeAt d cancel s =
          Extraction.extract t' maxFileSize scopeAt d cancel s := by
  have words' := LanguageEvents.words_congr same words
  constructor
  · intro k member
    have settings : k.template = Template.default ∧ ∀ e ∈ k.events, ∀ n ∈ e.names, IsWord n := by
      simp only [List.mem_cons, List.not_mem_nil, or_false] at member
      rcases member with rfl | rfl
      · exact ⟨usual, words⟩
      · exact ⟨usual', words'⟩
    have ok := PatternTable.compile_ok_iff settings.1
      fun e there => LanguageEvents.isPlain_of_words (settings.2 e there)
    refine ⟨ok, fun distinct moderate => ok.mpr ⟨distinct, fun e there => ?_⟩⟩
    exact LanguageEvents.compiles_of_size_le (settings.2 e there) (moderate e there).1 (moderate e there).2
  · intro t t' compiled compiled' τ scopeAt maxFileSize d cancel s
    rw [PatternTable.compile_eq usual] at compiled
    rw [PatternTable.compile_eq usual'] at compiled'
    have empty : PatternTable.Alike ⟨∅⟩ ⟨∅⟩ := fun language => by simp [PatternTable.get?]
    have plain : ∀ e ∈ c.events, e.IsPlain :=
      fun e there => LanguageEvents.isPlain_of_words (words e there)
    exact (PatternTable.compileAll_alike same plain compiled compiled' empty).extract
      maxFileSize scopeAt d cancel s

def underscores (n : Nat) : String := String.ofList (List.replicate n '_')

theorem size_underscores (n : Nat) : Text.size (underscores n).toList = n := by
  rw [underscores, String.toList_ofList]
  induction n with
  | zero => rfl
  | succ n ih =>
    rw [List.replicate_succ, Text.size_cons, ih, Nat.add_comm]
    rfl

theorem isWord_underscores (n : Nat) : IsWord (underscores (n + 1)) := by
  constructor
  · rw [Ne, ← String.toList_eq_nil_iff, underscores, String.toList_ofList]
    exact List.cons_ne_nil _ _
  · intro c member
    rw [underscores, String.toList_ofList] at member
    rw [List.eq_of_mem_replicate member]
    exact Text.wordChars_underscore

def withEvents (events : List LanguageEvents) : Config := { Config.default with events }

/-- A name that begins another one, listed before it and then behind it. -/
theorem function_names_count_as_a_set_underscores :
    let c := withEvents [⟨"lua", [underscores 1, underscores 2], [underscores 3]⟩]
    let c' := withEvents [⟨"lua", [underscores 2, underscores 1, underscores 2], [underscores 3]⟩]
    ∃ t t', PatternTable.compile c = .ok t ∧ PatternTable.compile c' = .ok t' ∧
      ∀ (τ : Type) (scopeAt : τ → Position → Option ScopeInfo × τ) (maxFileSize : Nat)
        (d : Document) (cancel : Option Cancellation) (s : τ),
        Extraction.extract t maxFileSize scopeAt d cancel s =
          Extraction.extract t' maxFileSize scopeAt d cancel s := by
  intro c c'
  have words : ∀ e ∈ c.events, ∀ n ∈ e.names, IsWord n := by
    simp only [c, withEvents, LanguageEvents.names, List.forall_mem_cons, List.cons_append,
      List.nil_append]
    exact ⟨⟨isWord_underscores 0, isWord_underscores 1, isWord_underscores 2, by simp⟩, by simp⟩
  have same : List.Forall₂ LanguageEvents.Alike c.events c'.events := by
    refine .cons ⟨rfl, fun n => ?_, fun n => Iff.rfl⟩ .nil
    simp only [List.mem_cons, List.not_mem_nil, or_false]
    tauto
  obtain ⟨compiles, found⟩ := @function_names_count_as_a_set c c' rfl rfl same words
  obtain ⟨t, ok⟩ := (compiles c (by simp)).2 (by decide) (by decide)
  obtain ⟨t', ok'⟩ := (compiles c' (by simp)).2 (by decide) (by decide)
  exact ⟨t, t', ok, ok', found t t' ok ok'⟩

/-- A configuration with the default template and words for names that cannot be compiled. -/
structure Config.Refused (k : Config) : Prop where
  usual : k.template = Template.default
  words : ∀ e ∈ k.events, ∀ n ∈ e.names, IsWord n
  fails : ¬ ∃ t, PatternTable.compile k = .ok t

theorem Config.refused_withEvents {events : List LanguageEvents}
    (words : ∀ e ∈ events, ∀ n ∈ e.names, IsWord n) (fails : ¬ (withEvents events).Compiles) :
    (withEvents events).Refused := by
  refine ⟨rfl, words, ?_⟩
  rwa [PatternTable.compile_ok_iff rfl fun e there =>
    LanguageEvents.isPlain_of_words (words e there)]

/-- A name with too many bytes, a language that is listed twice, and one without names. -/
theorem compile_refuses_words :
    (withEvents [⟨"lua", [underscores 400000], []⟩]).Refused ∧
      (withEvents [⟨"lua", [underscores 1], []⟩, ⟨"lua", [underscores 1], []⟩]).Refused ∧
      (withEvents [⟨"lua", [], []⟩]).Refused := by
  refine ⟨Config.refused_withEvents ?_ fun compiles => ?_,
    Config.refused_withEvents ?_ fun compiles => ?_, Config.refused_withEvents ?_ fun compiles => ?_⟩
  · simp [LanguageEvents.names, isWord_underscores 399999]
  · have fits := (compiles.each _ List.mem_cons_self).fits
    have large : 327680 < Text.size (underscores 400000).toList := by
      rw [size_underscores]
      decide
    rw [show LanguageEvents.names ⟨"lua", [underscores 400000], []⟩ = [underscores 400000] from rfl,
      Regex.not_fits_of_size_gt large] at fits
    cases fits
  · simp [LanguageEvents.names, isWord_underscores 0]
  · exact absurd compiles.distinct (by decide)
  · simp [LanguageEvents.names]
  · exact (compiles.each _ List.mem_cons_self).listed rfl

end EventXref
