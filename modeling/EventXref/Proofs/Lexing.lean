import Mathlib.Data.List.DropRight
import EventXref.Grammar.Marker

namespace EventXref

namespace Text

theorem eq_of_after? {marker text rest : List Char} (found : after? marker text = some rest) :
    text = marker ++ rest := by
  fun_induction after? marker text with
  | case1 => simpa using found
  | case2 => cases found
  | case3 ms c t ih => rw [ih found, List.cons_append]
  | case4 => cases found

theorem eq_of_cut? {marker text before rest : List Char}
    (found : cut? marker text = some (before, rest)) : text = before ++ (marker ++ rest) := by
  induction text generalizing before with
  | nil =>
    obtain ⟨rest', here, same⟩ := Option.map_eq_some_iff.mp found
    cases same
    exact (eq_of_after? here).trans (List.nil_append _).symm
  | cons c t ih =>
    simp only [cut?] at found
    split at found
    · rename_i here
      cases found
      exact (eq_of_after? here).trans (List.nil_append _).symm
    · obtain ⟨⟨before', rest'⟩, later, same⟩ := Option.map_eq_some_iff.mp found
      cases same
      rw [ih later, List.cons_append]

theorem trim_eq_nil {p : Char → Bool} {t : List Char} (empty : trim p t = []) :
    ∀ c ∈ t, p c = true := by
  have behind : ∀ c ∈ t.dropWhile p, p c = true := List.rdropWhile_eq_nil_iff.mp empty
  intro c member
  rw [← List.takeWhile_append_dropWhile (p := p) (l := t), List.mem_append] at member
  rcases member with here | there
  · exact List.mem_takeWhile_imp here
  · exact behind c there

/-- A trimmed text does not end in what is trimmed. -/
theorem exists_kept_of_trim {p : Char → Bool} {t before behind : List Char}
    (split : trim p t = before ++ behind) (nonempty : behind ≠ []) :
    ∃ c ∈ behind, p c = false := by
  have whole : (t.dropWhile p).rdropWhile p ≠ [] := by
    intro empty
    exact nonempty (List.append_eq_nil_iff.mp (split.symm.trans empty)).2
  have last := List.rdropWhile_last_not p (t.dropWhile p) whole
  refine ⟨behind.getLast nonempty, List.getLast_mem nonempty, ?_⟩
  have same : ((t.dropWhile p).rdropWhile p).getLast whole = behind.getLast nonempty := by
    have split : (t.dropWhile p).rdropWhile p = before ++ behind := split
    simp only [split]
    exact List.getLast_append_of_ne_nil _ nonempty
  simpa [same] using last

end Text

namespace MarkerGrammar

def Closes (g : MarkerGrammar) : Prop := ∀ markers ∈ g.blockComment, markers.2 ≠ []

theorem Closes.readSetting {g g' : MarkerGrammar} {line : List Char} (closes : g.Closes)
    (read : g.readSetting line = .ok g') : g'.Closes := by
  unfold MarkerGrammar.readSetting at read
  split at read
  · cases read
  dsimp only at read
  split at read
  · cases read
    exact closes
  split at read
  · split at read
    · cases read
    · rename_i opening close cut
      cases read
      rintro _ ⟨⟩ empty
      -- Then the value would end in the blank between the markers.
      have split := Text.eq_of_cut? cut
      obtain ⟨c, member, kept⟩ := Text.exists_kept_of_trim split (by simp)
      rcases List.mem_append.mp member with blank | behind
      · rw [List.mem_singleton.mp blank] at kept
        cases kept
      · rw [Text.trim_eq_nil empty c behind] at kept
        cases kept
  · cases read

theorem Closes.readSettings {g g' : MarkerGrammar} {lines : List (List Char)} (closes : g.Closes)
    (read : g.readSettings lines = .ok g') : g'.Closes := by
  induction lines generalizing g with
  | nil =>
    cases read
    exact closes
  | cons line lines ih =>
    simp only [MarkerGrammar.readSettings, bind, Except.bind] at read
    split at read
    · cases read
    · rename_i next here
      exact ih (closes.readSetting here) read

theorem closes_of_parse {scope source : String} {g : MarkerGrammar}
    (accepted : parse scope source = .ok g) : g.Closes := by
  unfold parse at accepted
  dsimp only at accepted
  split at accepted
  · rename_i read
    cases accepted
    have start : Closes ⟨scope, none, none⟩ := by simp [Closes]
    exact start.readSettings read
  · cases accepted

/-- A name that goes on as long as it can. -/
structure IsName (text rest : List Char) : Prop where
  inside : ∀ c ∈ text, continuesIdentifier c = true
  behind : ∀ c ∈ rest.head?, continuesIdentifier c = false

theorem IsName.append {text rest below : List Char} (name : IsName text rest)
    (ends : ∀ c ∈ below.head?, continuesIdentifier c = false) : IsName text (rest ++ below) := by
  refine ⟨name.inside, ?_⟩
  cases rest with
  | nil => exact ends
  | cons e rest => exact name.behind

/-- A name cannot begin again inside of itself, since it would reach behind its end. -/
theorem IsName.aligned {text behind skipped back : List Char} (name : IsName text behind)
    (again : text ++ behind = skipped ++ (text ++ back))
    (short : Text.size skipped < Text.size text) : skipped = [] := by
  rcases List.append_eq_append_iff.mp again with ⟨beyond, long, -⟩ | ⟨tail, here, left⟩
  · rw [long, Text.size_append] at short
    omega
  by_contra moved
  rcases List.append_eq_append_iff.mp left with ⟨more, long, -⟩ | ⟨beyond, whole, reached⟩
  · -- The text is not longer than a proper part of it.
    have lengths := congrArg List.length here
    have some := List.length_pos_of_ne_nil moved
    simp only [long, List.length_append] at lengths
    omega
  · cases beyond with
    | nil =>
      have lengths := congrArg List.length here
      have some := List.length_pos_of_ne_nil moved
      simp only [whole, List.length_append, List.length_nil] at lengths
      omega
    | cons c beyond =>
      have goesOn := name.inside c (by simp [whole])
      have stops := name.behind c (by simp [reached])
      rw [goesOn] at stops
      cases stops

/-- What a step takes is not empty, stands in front of what it leaves, and is a name if it is a
call. -/
structure Step.Takes (s : Step) (line : List Char) : Prop where
  whole : s.text ++ s.rest = line
  nonempty : s.text ≠ []
  name : s.kind = .call → IsName s.text s.rest

theorem commentStep_takes {close opened body : List Char} (closes : close ≠ [])
    (nonempty : opened ++ body ≠ []) : (commentStep close opened body).Takes (opened ++ body) := by
  unfold commentStep
  split
  · rename_i before rest cut
    refine ⟨?_, by simp [closes], by simp⟩
    simp [Text.eq_of_cut? cut]
  · exact ⟨by simp, nonempty, by simp⟩

theorem splitString_append (quote : Char) (escaped : Bool) (t : List Char) :
    (splitString quote escaped t).1 ++ (splitString quote escaped t).2 = t := by
  induction t generalizing escaped with
  | nil => rfl
  | cons c t ih =>
    unfold splitString
    split
    · rfl
    · simp [ih]

theorem continues_of_starts {c : Char} (starts : startsIdentifier c = true) :
    continuesIdentifier c = true := by
  simp only [startsIdentifier, continuesIdentifier, Text.isAlphanumeric, Bool.or_eq_true] at *
  rcases starts with letter | underscore
  · exact .inl (.inl letter)
  · exact .inr underscore

theorem codeStep_takes (c : Char) (t : List Char) : (codeStep c t).Takes (c :: t) := by
  unfold codeStep
  split
  · exact ⟨by simp [splitString_append], by simp, by simp⟩
  split
  · exact ⟨by simp [List.takeWhile_append_dropWhile], by simp, by simp⟩
  split
  · rename_i starts
    refine ⟨by simp [List.takeWhile_append_dropWhile], by simp, fun _ => ⟨?_, ?_⟩⟩
    · intro x member
      rcases List.mem_cons.mp member with rfl | later
      · exact continues_of_starts starts
      · exact List.mem_takeWhile_imp later
    · intro x next
      have stop := List.head?_dropWhile_not continuesIdentifier t
      rwa [Option.mem_def.mp next] at stop
  · exact ⟨by simp, by simp, by simp⟩

theorem step_takes {g : MarkerGrammar} (closes : g.Closes) (inComment : Bool) (c : Char)
    (t : List Char) : (g.step inComment c t).Takes (c :: t) := by
  unfold step
  dsimp only
  split
  · split
    · rename_i opening close known
      have takes : (commentStep close [] (c :: t)).Takes ([] ++ c :: t) :=
        commentStep_takes (closes _ known) (by simp)
      exact takes
    · exact ⟨by simp, by simp, by simp⟩
  split
  · rename_i s opened
    obtain ⟨⟨opening, close⟩, known, begins⟩ := Option.bind_eq_some_iff.mp opened
    obtain ⟨body, after, rfl⟩ := Option.map_eq_some_iff.mp begins
    rw [Text.eq_of_after? after]
    refine commentStep_takes (closes _ known) ?_
    rw [← Text.eq_of_after? after]
    simp
  split
  · exact ⟨by simp, by simp, by simp⟩
  · exact codeStep_takes c t

/-- Tokens that stand side by side and make up a line which begins at byte `start`. -/
inductive Covers (scope : String) : Nat → List Char → List Token → Prop
  | done (start : Nat) : Covers scope start [] []
  | token (start : Nat) (kind : Kind) (text rest : List Char) (tokens : List Token) : text ≠ [] →
      (kind = .call → IsName text rest) → Covers scope (start + Text.size text) rest tokens →
      Covers scope start (text ++ rest)
        (⟨start, start + Text.size text, [scope, kind.scope]⟩ :: tokens)

theorem scan_covers {g : MarkerGrammar} (closes : g.Closes) {fuel : Nat} (start : Nat)
    (inComment : Bool) {line : List Char} (enough : line.length ≤ fuel) :
    Covers g.scope start line (g.scan fuel start inComment line).1 := by
  induction fuel generalizing start inComment line with
  | zero =>
    obtain rfl := List.length_eq_zero_iff.mp (Nat.le_zero.mp enough)
    exact .done start
  | succ fuel ih =>
    cases line with
    | nil => exact .done start
    | cons c t =>
      obtain ⟨whole, nonempty, name⟩ := step_takes closes inComment c t
      have shorter : (g.step inComment c t).rest.length ≤ fuel := by
        have lengths := congrArg List.length whole
        have some := List.length_pos_of_ne_nil nonempty
        simp only [List.length_append, List.length_cons] at lengths enough
        omega
      have rest := ih (start + Text.size (g.step inComment c t).text)
        (g.step inComment c t).inComment shorter
      have covers := Covers.token start (g.step inComment c t).kind _ _ _ nonempty name rest
      rwa [whole] at covers

variable {scope : String} {start column : Nat} {line : List Char} {tokens : List Token}
  {token : Token}

/-- A token, with the line before, under and behind it. -/
structure Stands (scope : String) (start : Nat) (line : List Char) (token : Token) (kind : Kind)
    (before text rest : List Char) : Prop where
  line_eq : line = before ++ (text ++ rest)
  token_eq : token = ⟨start + Text.size before, start + Text.size before + Text.size text,
    [scope, kind.scope]⟩
  nonempty : text ≠ []
  name : kind = .call → IsName text rest

theorem Covers.stands (covers : Covers scope start line tokens) (member : token ∈ tokens) :
    ∃ kind before text rest, Stands scope start line token kind before text rest := by
  induction covers with
  | done => cases member
  | token start kind text rest tokens nonempty name _ ih =>
    rcases List.mem_cons.mp member with rfl | later
    · exact ⟨kind, [], text, rest, rfl, rfl, nonempty, name⟩
    · obtain ⟨kind', before, text', rest', split, rfl, nonempty', name'⟩ := ih later
      refine ⟨kind', text ++ before, text', rest', by simp [split], ?_, nonempty', name'⟩
      simp [Nat.add_assoc]

theorem Covers.start_le (covers : Covers scope start line tokens) (member : token ∈ tokens) :
    start ≤ token.start := by
  obtain ⟨kind, before, text, rest, -, rfl, -, -⟩ := covers.stands member
  exact Nat.le_add_right _ _

theorem Covers.find?_eq (covers : Covers scope start line tokens) (member : token ∈ tokens)
    (covered : token.contains column = true) :
    tokens.find? (·.contains column) = some token := by
  induction covers with
  | done => cases member
  | token start kind text rest tokens _ _ covers ih =>
    rcases List.mem_cons.mp member with rfl | later
    · exact List.find?_cons_of_pos covered
    · rw [List.find?_cons_of_neg, ih later]
      have behind := covers.start_le later
      simp only [Token.contains, Bool.and_eq_true, decide_eq_true_eq] at covered ⊢
      omega

theorem Covers.exists_contains (covers : Covers scope start line tokens) (start_le : start ≤ column)
    (lt_stop : column < start + Text.size line) : ∃ token ∈ tokens, token.contains column = true := by
  induction covers with
  | done =>
    simp only [Text.size_nil] at lt_stop
    omega
  | token start kind text rest tokens _ _ _ ih =>
    by_cases here : column < start + Text.size text
    · refine ⟨_, List.mem_cons_self, ?_⟩
      simp only [Token.contains, Bool.and_eq_true, decide_eq_true_eq]
      omega
    · simp only [Text.size_append] at lt_stop
      obtain ⟨token, member, covered⟩ := ih (by omega) (by omega)
      exact ⟨token, List.mem_cons_of_mem _ member, covered⟩

/-- The most specific scope of a token tells calls from all else, by the whole of it or by the word
in it. -/
theorem Kind.scope_eq_call (kind : Kind) :
    (kind.scope = "entity.name.function.call" ↔ kind = .call) ∧
      (Text.occursIn "function".toList kind.scope.toList = true ↔ kind = .call) := by
  cases kind <;> decide

end MarkerGrammar

end EventXref
