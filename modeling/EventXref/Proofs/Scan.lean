import EventXref.Proofs.FanOut
import EventXref.Scan
import Mathlib.Data.List.Basic

/-!
What a scan does, from what its steps do. Whatever turns its parts take, a resource either fails at a
folder that cannot be listed or has each of its files parsed once, and only the order of the calls is
open. A property of a state and what a scan makes of it holds of every scan if it holds of parsing a
file, telling of a resource and giving one up, and is passed on from one part to the next. Two scans
in step with each other find the same, or fail alike, if their parsers find the same in every file.
-/
namespace EventXref

namespace Scanner

variable {τ τ' : Type}

section Units

variable {c : Scanner τ} {s s' : ScanState τ} {files : FileTree} {turns : Nat → Nat} {depth : Nat}
  {dir path : Path} {part : Part} {x : ScanError}

def below (c : Scanner τ) (files : FileTree) : Part → List Part
  | .file path => [.file path]
  | .folder depth dir => c.partsBelow files depth dir

/-- The part is a folder that would be listed, but cannot be. -/
def Blocks (c : Scanner τ) (files : FileTree) (part : Part) (dir : Path) : Prop :=
  ∃ depth, part = .folder (depth + 1) dir ∧ c.isExcluded dir = false ∧ files.list? dir = none

theorem flatMap_partsIn (c : Scanner τ) (files : FileTree) (depth : Nat) (dir : Path)
    (entries : List FileTree.Entry) :
    ((c.partsIn depth dir entries).flatMap fun part => part.spread (c.partsBelow files depth)) =
      (c.partsIn depth dir entries).flatMap (c.below files) := by
  refine List.flatMap_congr ?_
  intro part member
  obtain ⟨e, -, rfl⟩ := List.mem_map.mp member
  by_cases folder : e.isFolder = true <;> simp [folder, below, Part.spread]

theorem below_folder (c : Scanner τ) (files : FileTree) (depth : Nat) (dir : Path) :
    c.below files (.folder (depth + 1) dir) = .folder (depth + 1) dir ::
      if c.isExcluded dir then []
      else (c.partsIn depth dir ((files.list? dir).getD [])).flatMap (c.below files) := by
  rw [below, partsBelow, flatMap_partsIn]

theorem below_ne_nil (c : Scanner τ) (files : FileTree) (part : Part) :
    c.below files part ≠ [] := by
  cases part with
  | file path => simp [below]
  | folder depth dir => cases depth <;> simp [below, partsBelow]

/-- All folders that a part has to list can be listed. -/
def Clear (c : Scanner τ) (files : FileTree) (part : Part) : Prop :=
  ∀ inner ∈ c.below files part, ∀ dir, ¬ c.Blocks files inner dir

theorem clear_file (c : Scanner τ) (files : FileTree) (path : Path) : c.Clear files (.file path) := by
  rintro inner here dir ⟨depth, rfl, -⟩
  simp [below] at here

theorem clear_of_inner {inner : List Part} (free : ∀ dir, ¬ c.Blocks files part dir)
    (parts : c.below files part = part :: inner.flatMap (c.below files))
    (clear : ∀ part ∈ inner, c.Clear files part) : c.Clear files part := by
  rw [Clear, parts]
  intro inner' here
  rcases List.mem_cons.mp here with rfl | deeper
  · exact free
  · obtain ⟨part, member, deeper⟩ := List.mem_flatMap.mp deeper
    exact clear part member inner' deeper

/-- What a turn does: it parses a file, or puts the entries of a folder in its place, or fails at a
folder that cannot be listed. -/
theorem advance_cases (going : s.isCancelled = false) (part : Part) :
    (∃ path, part = .file path ∧ c.advance part s = (.ok [.done (c.parse s.files path s.parser).1],
      { s with parser := (c.parse s.files path s.parser).2 })) ∨
    (∃ inner : List Part, part.file? = none ∧ (∀ dir, ¬ c.Blocks s.files part dir) ∧
      c.advance part s = (.ok (inner.map .left), s) ∧
      c.below s.files part = part :: inner.flatMap (c.below s.files)) ∨
    ∃ dir, c.Blocks s.files part dir ∧ c.advance part s = (.error (.unlisted dir), s) := by
  cases part with
  | file path => exact .inl ⟨path, rfl, by simp [advance, going]⟩
  | folder depth dir =>
    refine .inr ?_
    cases depth with
    | zero =>
      refine .inl ⟨[], rfl, ?_, by simp [advance, going], rfl⟩
      rintro dir ⟨depth, same, -⟩
      cases same
    | succ depth =>
      cases excluded : c.isExcluded dir with
      | true =>
        refine .inl ⟨[], rfl, ?_, by simp [advance, going, excluded], ?_⟩
        · rintro _ ⟨_, ⟨⟩, free, -⟩
          rw [excluded] at free
          cases free
        · rw [below_folder, excluded]
          rfl
      | false =>
        cases listed : s.files.list? dir with
        | none => exact .inr ⟨dir, ⟨depth, rfl, excluded, listed⟩, by
            simp [advance, going, excluded, listed]⟩
        | some entries =>
          refine .inl ⟨c.partsIn depth dir entries, rfl, ?_, by
            simp [advance, going, excluded, listed], ?_⟩
          · rintro _ ⟨_, ⟨⟩, -, unlisted⟩
            rw [listed] at unlisted
            cases unlisted
          · rw [below_folder, excluded, listed]
            rfl

/-- Parses files one after the other, and keeps what is found in each. -/
def calls (c : Scanner τ) : List Path → ScanState τ → List (Path × List Occurrence) × ScanState τ
  | [], s => ([], s)
  | path :: paths, s =>
    let (found, parser) := c.parse s.files path s.parser
    let (rest, s') := c.calls paths { s with parser }
    ((path, found) :: rest, s')

/-- The files that slots stand for: those that are done, and those that are below what is left. -/
def paths (c : Scanner τ) (files : FileTree) :
    List (Slot Part (Path × List Occurrence)) → List Path
  | [] => []
  | .done (path, _) :: slots => path :: c.paths files slots
  | .left part :: slots => (c.below files part).filterMap Part.file? ++ c.paths files slots

theorem paths_append (c : Scanner τ) (files : FileTree)
    (slots more : List (Slot Part (Path × List Occurrence))) :
    c.paths files (slots ++ more) = c.paths files slots ++ c.paths files more := by
  fun_induction paths c files slots <;> simp_all [paths]

theorem paths_left (c : Scanner τ) (files : FileTree) (inner : List Part) :
    c.paths files (inner.map .left) =
      (inner.flatMap (c.below files)).filterMap Part.file? := by
  induction inner with
  | nil => rfl
  | cons part inner ih => simp [paths, ih, List.filterMap_append]

theorem paths_done (c : Scanner τ) (files : FileTree)
    {slots : List (Slot Part (Path × List Occurrence))} (nothing : FanOut.tasks slots = []) :
    c.paths files slots = (FanOut.items slots).map Prod.fst := by
  fun_induction paths c files slots with
  | case1 => rfl
  | case2 path found slots ih => simp [FanOut.items, ih nothing]
  | case3 part slots => cases nothing

/-- A slot without the path that its item comes from. -/
def bare : Slot Part (Path × List Occurrence) → Slot Part (List Occurrence)
  | .done (_, found) => .done found
  | .left part => .left part

theorem tasks_bare (slots : List (Slot Part (Path × List Occurrence))) :
    FanOut.tasks (slots.map bare) = FanOut.tasks slots := by
  fun_induction FanOut.tasks slots <;> simp_all [FanOut.tasks, bare]

theorem items_bare (slots : List (Slot Part (Path × List Occurrence))) :
    FanOut.items (slots.map bare) = (FanOut.items slots).map Prod.snd := by
  fun_induction FanOut.items slots <;> simp_all [FanOut.items, bare]

theorem split_bare {slots : List (Slot Part (Path × List Occurrence))} {part : Part}
    {before behind : List (Slot Part (List Occurrence))}
    (same : before ++ .left part :: behind = slots.map bare) :
    ∃ front back, slots = front ++ .left part :: back ∧ front.map bare = before ∧
      back.map bare = behind := by
  obtain ⟨front, rest, rfl, first, second⟩ := List.map_eq_append_iff.mp same.symm
  obtain ⟨slot, back, rfl, here, last⟩ := List.map_eq_cons_iff.mp second
  cases slot with
  | done item => cases here
  | left part' =>
    cases here
    exact ⟨front, back, rfl, first, last⟩

/-- However the turns go, a run that succeeds has parsed every file once and met no folder that
cannot be listed. The slots are taken with the paths of what is done, since items alone do not show
where they come from. -/
theorem runs_calls {bares : List (Slot Part (List Occurrence))}
    {answer : Except ScanError (List (List Occurrence))}
    (runs : FanOut.Runs c.advance bares s answer s')
    (going : s.isCancelled = false) (slots : List (Slot Part (Path × List Occurrence)))
    (same : bares = slots.map bare) {found : List (List Occurrence)} (ok : answer = .ok found) :
    ∃ (order : List Path) (results : List (Path × List Occurrence)),
      found = results.map Prod.snd ∧ s' = (c.calls order s).2 ∧
      results.map Prod.fst = c.paths s.files slots ∧
      results.Perm (FanOut.items slots ++ (c.calls order s).1) ∧
      ∀ part ∈ FanOut.tasks slots, c.Clear s.files part := by
  induction runs generalizing slots with
  | @ends bares s nothing =>
    subst same
    cases ok
    rw [tasks_bare] at nothing
    refine ⟨[], FanOut.items slots, items_bare slots, rfl, (paths_done c _ nothing).symm, ?_, ?_⟩
    · simp [calls]
    · simp [nothing]
  | fails failed => cases ok
  | @turn before new behind part s s₁ s' answer took rest ih =>
    obtain ⟨front, back, rfl, rfl, rfl⟩ := split_bare same
    obtain ⟨path, rfl, went⟩ | ⟨inner, folder, free, went, parts⟩ | ⟨dir, -, went⟩ :=
      advance_cases (c := c) going part
    · -- The file is done, and its call comes before those of the rest.
      rw [went] at took
      cases took
      obtain ⟨order, results, rfl, rfl, places, perm, clear⟩ := ih going
        (front ++ (.done (path, (c.parse s.files path s.parser).1) :: back)) (by simp [bare]) ok
      refine ⟨path :: order, results, rfl, rfl, ?_, ?_, ?_⟩
      · rw [places, paths_append, paths_append]
        rfl
      · refine perm.trans ?_
        simp only [FanOut.items_append, FanOut.items, calls, List.append_assoc, List.cons_append]
        exact (List.Perm.append_left _ List.perm_middle.symm)
      · intro part member
        simp only [FanOut.tasks_append, FanOut.tasks, List.mem_append, List.mem_cons] at member clear
        rcases member with before | rfl | behind
        · exact clear part (.inl before)
        · exact clear_file c s.files path
        · exact clear part (.inr behind)
    · rw [went] at took
      cases took
      obtain ⟨order, results, rfl, rfl, places, perm, clear⟩ := ih going
        (front ++ (inner.map .left ++ back)) (by simp [bare, Function.comp_def]) ok
      refine ⟨order, results, rfl, rfl, ?_, ?_, ?_⟩
      · rw [places, paths_append, paths_append, paths_left, paths_append, paths, parts]
        simp [folder]
      · refine perm.trans (.of_eq ?_)
        simp [FanOut.items]
      · intro part' member
        simp only [FanOut.tasks_append, FanOut.tasks, FanOut.tasks_left, List.mem_append,
          List.mem_cons] at member clear
        rcases member with before | rfl | behind
        · exact clear part' (.inl before)
        · exact clear_of_inner free parts fun part member => clear part (.inr (.inl member))
        · exact clear part' (.inr (.inr behind))
    · rw [went] at took
      cases took

theorem runs_fails {slots : List (Slot Part (List Occurrence))}
    {answer : Except ScanError (List (List Occurrence))}
    (runs : FanOut.Runs c.advance slots s answer s')
    (going : s.isCancelled = false) (failed : answer = .error x) :
    ∃ part ∈ FanOut.tasks slots, ∃ inner ∈ c.below s.files part, ∃ dir,
      c.Blocks s.files inner dir ∧ x = .unlisted dir := by
  induction runs with
  | ends s nothing => cases failed
  | @fails before behind part s s' x went =>
    cases failed
    obtain ⟨path, rfl, goes⟩ | ⟨inner, -, -, goes, -⟩ | ⟨dir, blocks, goes⟩ :=
      advance_cases (c := c) going part
    · rw [goes] at went
      cases went
    · rw [goes] at went
      cases went
    · rw [goes] at went
      cases went
      obtain ⟨depth, rfl, -⟩ := id blocks
      exact ⟨.folder (depth + 1) dir, by simp [FanOut.tasks], .folder (depth + 1) dir,
        by simp [below, partsBelow], dir, blocks, rfl⟩
  | @turn before new behind part s s₁ s' answer took rest ih =>
    obtain ⟨path, rfl, went⟩ | ⟨inner, folder, free, went, parts⟩ | ⟨dir, -, went⟩ :=
      advance_cases (c := c) going part
    · rw [went] at took
      cases took
      obtain ⟨part, member, rest⟩ := ih going failed
      refine ⟨part, ?_, rest⟩
      simp only [FanOut.tasks_append, FanOut.tasks, List.mem_append, List.mem_cons] at member ⊢
      grind
    · rw [went] at took
      cases took
      obtain ⟨part', member, deep, here, rest⟩ := ih going failed
      simp only [FanOut.tasks_append, FanOut.tasks, FanOut.tasks_left, List.mem_append,
        List.mem_cons] at member ⊢
      rcases member with before | within | behind
      · exact ⟨part', .inl before, deep, here, rest⟩
      · refine ⟨part, .inr (.inl rfl), deep, ?_, rest⟩
        rw [parts]
        exact .tail _ (List.mem_flatMap.mpr ⟨part', within, here⟩)
      · exact ⟨part', .inr (.inr behind), deep, here, rest⟩
    · rw [went] at took
      cases took

theorem runs_scanUnit (c : Scanner τ) (turns : Nat → Nat) (depth : Nat) (dir : Path)
    (going : s.isCancelled = false) :
    ∃ answer, c.scanUnit turns depth dir s =
        (answer.map List.flatten, (c.scanUnit turns depth dir s).2) ∧
      FanOut.Runs c.advance [.left (.folder depth dir)] s answer
        (c.scanUnit turns depth dir s).2 := by
  refine ⟨_, rfl, ?_⟩
  refine FanOut.runs_run (I := fun now => now.files = s.files ∧ now.isCancelled = false)
    (below_ne_nil c s.files) ?_ _ _ ⟨rfl, going⟩ ?_
  · rintro part now new next ⟨same, going⟩ took
    obtain ⟨path, rfl, went⟩ | ⟨inner, -, -, went, parts⟩ | ⟨dir, -, went⟩ :=
      advance_cases (c := c) going part
    · rw [went] at took
      cases took
      exact ⟨⟨same, going⟩, by simp [FanOut.tasks, below]⟩
    · rw [went] at took
      cases took
      rw [same] at parts
      refine ⟨⟨same, going⟩, ?_⟩
      rw [parts, FanOut.tasks_left, List.length_cons]
      exact Nat.lt_succ_self _
    · rw [went] at took
      cases took
  · simp [FanOut.tasks, below]

/-- A resource that succeeds has each of its files parsed once, in some order, and lists what is
found in the order of the files. -/
theorem scanUnit_ok {found : List Occurrence} (going : s.isCancelled = false)
    (ok : c.scanUnit turns depth dir s = (.ok found, s')) :
    ∃ (order : List Path) (results : List (Path × List Occurrence)),
      found = results.flatMap Prod.snd ∧ s' = (c.calls order s).2 ∧
      results.map Prod.fst = c.filesBelow s.files depth dir ∧ results.Perm (c.calls order s).1 ∧
      ∀ part ∈ c.partsBelow s.files depth dir, ∀ dir, ¬ c.Blocks s.files part dir := by
  obtain ⟨answer, ended, runs⟩ := runs_scanUnit c turns depth dir going
  rw [ok] at ended runs
  cases answer with
  | error x => cases ended
  | ok founds =>
    obtain ⟨order, results, rfl, rfl, places, perm, clear⟩ :=
      runs_calls runs going [.left (.folder depth dir)] rfl rfl
    refine ⟨order, results, ?_, rfl, ?_, perm, ?_⟩
    · rw [List.flatMap_def]
      exact Except.ok.inj (congrArg Prod.fst ended)
    · rw [places, paths, paths, List.append_nil]
      rfl
    · exact clear (.folder depth dir) (by simp [FanOut.tasks])

/-- A resource fails at one of its folders that cannot be listed. -/
theorem scanUnit_error (going : s.isCancelled = false)
    (failed : c.scanUnit turns depth dir s = (.error x, s')) :
    ∃ part ∈ c.partsBelow s.files depth dir, ∃ dir, c.Blocks s.files part dir ∧
      x = .unlisted dir := by
  obtain ⟨answer, ended, runs⟩ := runs_scanUnit c turns depth dir going
  rw [failed] at ended runs
  cases answer with
  | ok founds => cases ended
  | error x =>
    cases ended
    obtain ⟨part, member, rest⟩ := runs_fails runs going rfl
    simp only [FanOut.tasks, List.mem_singleton] at member
    subst member
    exact rest

end Units

/-- A property that steps of a scan have and that is passed on, also by parts that fail. -/
structure Keeps (c : Scanner τ) (P : ScanState τ → Scanned τ → Prop) : Prop where
  nothing : ∀ s, P s (.ok [], s)
  refused : ∀ s x, P s (.error x, s)
  parse : ∀ s path, P s (.ok (c.parse s.files path s.parser).1,
    { s with parser := (c.parse s.files path s.parser).2 })
  announce : ∀ message s r, P (c.announce message s) r → P s r
  giveUp : ∀ message dir s x, P s (.error x, c.giveUp message dir s)
  more : ∀ {s s' s'' found more}, P s (.ok found, s') → P s' (.ok more, s'') →
    P s (.ok (found ++ more), s'')
  reorder : ∀ {s s' found found'}, P s (.ok found, s') → found.Perm found' → P s (.ok found', s')
  fails : ∀ {s s' s'' found x}, P s (.ok found, s') → P s' (.error x, s'') → P s (.error x, s'')

section Keeps

variable {c : Scanner τ} {P : ScanState τ → Scanned τ → Prop}

theorem Keeps.andThen (keeps : c.Keeps P) {s : ScanState τ} {r : Scanned τ}
    {rest : ScanState τ → Scanned τ} (first : P s r) (later : ∀ s, P s (rest s)) :
    P s (Scanner.andThen r rest) := by
  obtain ⟨answer, s'⟩ := r
  cases answer with
  | error x => exact first
  | ok found =>
    have second := later s'
    simp only [Scanner.andThen]
    generalize rest s' = r at second
    obtain ⟨answer, s''⟩ := r
    cases answer with
    | error x => exact keeps.fails first second
    | ok more => exact keeps.more first second

theorem Keeps.visit (keeps : c.Keeps P) {f : FileTree.Entry → ScanState τ → Scanned τ}
    (step : ∀ e s, P s (f e s)) (entries : List FileTree.Entry) (s : ScanState τ) :
    P s (Scanner.visit f entries s) := by
  induction entries generalizing s with
  | nil => exact keeps.nothing s
  | cons e es ih => exact keeps.andThen (step e s) ih

theorem Keeps.calls (keeps : c.Keeps P) (paths : List Path) (s : ScanState τ) :
    P s (.ok ((c.calls paths s).1.flatMap Prod.snd), (c.calls paths s).2) := by
  induction paths generalizing s with
  | nil => exact keeps.nothing s
  | cons path paths ih => exact keeps.more (keeps.parse s path) (ih _)

theorem Keeps.scanUnit (keeps : c.Keeps P) {turns : Nat → Nat} {depth : Nat} {dir : Path}
    {s s' : ScanState τ} {found : List Occurrence} (going : s.isCancelled = false)
    (ok : c.scanUnit turns depth dir s = (.ok found, s')) : P s (.ok found, s') := by
  obtain ⟨order, results, rfl, rfl, -, perm, -⟩ := scanUnit_ok going ok
  exact keeps.reorder (keeps.calls order s) (perm.symm.flatMap_right _)

theorem Keeps.scanResource (keeps : c.Keeps P) (root path : Path) (s : ScanState τ) :
    P s (c.scanResource root path s) := by
  unfold Scanner.scanResource
  split
  · exact keeps.refused s _
  split
  · apply keeps.announce ("Parsing: " ++ Path.display root path)
    dsimp only
    split
    · exact keeps.refused _ _
    rename_i going
    split
    · exact keeps.giveUp _ _ _ _
    split
    · rename_i found s' unit
      exact keeps.scanUnit (by simpa using going) unit
    · exact keeps.giveUp _ _ _ _
  · exact keeps.nothing s

theorem Keeps.scanGroup (keeps : c.Keeps P) (root : Path) (depth : Nat) (dir : Path)
    (s : ScanState τ) : P s (c.scanGroup root depth dir s) := by
  induction depth generalizing dir s with
  | zero => exact keeps.nothing s
  | succ depth ih =>
    unfold Scanner.scanGroup
    split
    · exact keeps.nothing s
    split
    · exact keeps.refused s _
    apply keeps.visit
    intro e s
    dsimp only
    split
    · exact keeps.refused s _
    split
    · exact keeps.nothing s
    split
    · exact ih _ s
    · exact keeps.scanResource root _ s

theorem Keeps.scan (keeps : c.Keeps P) (root : Path) (s : ScanState τ) : P s (c.scan root s) := by
  unfold Scanner.scan
  split
  · exact keeps.nothing s
  · exact keeps.scanGroup root _ root s

theorem Keeps.scanAll (keeps : c.Keeps P) (roots : List Path) (s : ScanState τ) :
    P s (c.scanAll roots s) := by
  induction roots generalizing s with
  | nil => exact keeps.nothing s
  | cons root roots ih => exact keeps.andThen (keeps.scan root s) ih

end Keeps

/-- What the parts of a scan do that succeed, if they begin where `I` holds. -/
structure Gains (c : Scanner τ) (I : ScanState τ → Prop)
    (P : ScanState τ → List Occurrence → ScanState τ → Prop) : Prop where
  nothing : ∀ s, I s → P s [] s
  parse : ∀ s path, I s → P s (c.parse s.files path s.parser).1
    { s with parser := (c.parse s.files path s.parser).2 }
  announce : ∀ message s, I s → I (c.announce message s) ∧
    ∀ found s', P (c.announce message s) found s' → P s found s'
  more : ∀ {s s' s'' found more}, P s found s' → P s' more s'' → P s (found ++ more) s''
  reorder : ∀ {s s' found found'}, P s found s' → found.Perm found' → P s found' s'
  holds : ∀ {s found s'}, P s found s' → I s'

section Gains

variable {c : Scanner τ} {I : ScanState τ → Prop}
  {P : ScanState τ → List Occurrence → ScanState τ → Prop}

theorem Gains.keeps (gains : c.Gains I P) :
    c.Keeps fun s r => I s → ∀ found, r.1 = .ok found → P s found r.2 where
  nothing s here := by
    rintro _ ⟨⟩
    exact gains.nothing s here
  refused _ _ _ _ never := nomatch never
  parse s path here := by
    rintro _ ⟨⟩
    exact gains.parse s path here
  announce message s _ rest here := by
    obtain ⟨told, back⟩ := gains.announce message s here
    exact fun found ok => back found _ (rest told found ok)
  giveUp _ _ _ _ _ _ never := nomatch never
  more first second here := by
    rintro _ ⟨⟩
    have before := first here _ rfl
    exact gains.more before (second (gains.holds before) _ rfl)
  reorder first perm here := by
    rintro _ ⟨⟩
    exact gains.reorder (first here _ rfl) perm
  fails _ _ _ _ never := nomatch never

theorem Gains.scanAll (gains : c.Gains I P) {roots : List Path} {s s' : ScanState τ}
    {found : List Occurrence} (succeeds : c.scanAll roots s = (.ok found, s')) (here : I s) :
    P s found s' := by
  have all := gains.keeps.scanAll roots s here
  rw [succeeds] at all
  exact all found rfl

end Gains

/-- Every step of a scan leads from a state to one that `R` relates to it. -/
structure Leads (c : Scanner τ) (R : ScanState τ → ScanState τ → Prop) : Prop where
  refl : ∀ s, R s s
  trans : ∀ {s s' s''}, R s s' → R s' s'' → R s s''
  parse : ∀ s path, R s { s with parser := (c.parse s.files path s.parser).2 }
  announce : ∀ message s, R s (c.announce message s)
  abandon : ∀ message path s, R s { s with parser := c.abandon message s.files path s.parser }

section Leads

variable {c : Scanner τ} {R : ScanState τ → ScanState τ → Prop}

theorem Leads.giveUp (leads : c.Leads R) (message : String) (dir : Path) (s : ScanState τ) :
    R s (c.giveUp message dir s) := by
  have run : ∀ (paths : List Path) (now : τ), R { s with parser := now } { s with
      parser := paths.foldl (fun now path => c.abandon message s.files path now) now } := by
    intro paths
    induction paths with
    | nil => exact fun _ => leads.refl _
    | cons path paths ih =>
      exact fun now => leads.trans (leads.abandon message path { s with parser := now }) (ih _)
  exact run _ s.parser

theorem Leads.keeps (leads : c.Leads R) : c.Keeps fun s r => R s r.2 where
  nothing s := leads.refl s
  refused s _ := leads.refl s
  parse s path := leads.parse s path
  announce message s _ rest := leads.trans (leads.announce message s) rest
  giveUp message dir s _ := leads.giveUp message dir s
  more first rest := leads.trans first rest
  reorder first _ := first
  fails first rest := leads.trans first rest

theorem Leads.scanAll (leads : c.Leads R) (roots : List Path) (s : ScanState τ) :
    R s (c.scanAll roots s).2 :=
  leads.keeps.scanAll roots s

end Leads

/-- Two scanners that find the same in a file wherever `Q` relates their states, which no step of
either of them alone changes. -/
structure InStep (files : FileTree) (c : Scanner τ) (c' : Scanner τ')
    (Q : ScanState τ → ScanState τ' → Prop) : Prop where
  excluded : c.isExcluded = c'.isExcluded
  manifests : c.manifests = c'.manifests
  failure : c.failure = c'.failure
  files : ∀ {s s'}, Q s s' → s.files = files ∧ s'.files = files
  cancelled : ∀ {s s'}, Q s s' → s.isCancelled = s'.isCancelled
  found : ∀ {s s'} path, Q s s' →
    (c.parse s.files path s.parser).1 = (c'.parse s'.files path s'.parser).1
  parse : ∀ {s s'} path, Q s s' → Q { s with parser := (c.parse s.files path s.parser).2 } s'
  parse' : ∀ {s s'} path, Q s s' → Q s { s' with parser := (c'.parse s'.files path s'.parser).2 }
  announce : ∀ {s s'} message, Q s s' → Q (c.announce message s) (c'.announce message s')

section InStep

variable {c : Scanner τ} {c' : Scanner τ'} {Q : ScanState τ → ScanState τ' → Prop}
  {E : ScanError → ScanError → Prop} {files : FileTree} {s : ScanState τ} {s' : ScanState τ'}

/-- Both scans found the same and are still in step, or both failed. -/
inductive SameFor (E : ScanError → ScanError → Prop) (Q : ScanState τ → ScanState τ' → Prop) :
    Scanned τ → Scanned τ' → Prop
  | ok {s : ScanState τ} {s' : ScanState τ'} (related : Q s s') (found : List Occurrence) :
      SameFor E Q (.ok found, s) (.ok found, s')
  | error (s : ScanState τ) (s' : ScanState τ') {x x' : ScanError} (alike : E x x') :
      SameFor E Q (.error x, s) (.error x', s')

theorem sameFor_ite {p : Prop} [Decidable p] {a b : Scanned τ} {a' b' : Scanned τ'}
    (yes : p → SameFor E Q a a') (no : ¬ p → SameFor E Q b b') :
    SameFor E Q (if p then a else b) (if p then a' else b') := by
  by_cases holds : p
  · rw [if_pos holds, if_pos holds]
    exact yes holds
  · rw [if_neg holds, if_neg holds]
    exact no holds

theorem sameFor_andThen {r : Scanned τ} {r' : Scanned τ'} {rest : ScanState τ → Scanned τ}
    {rest' : ScanState τ' → Scanned τ'} (first : SameFor E Q r r')
    (later : ∀ s s', Q s s' → SameFor E Q (rest s) (rest' s')) :
    SameFor E Q (andThen r rest) (andThen r' rest') := by
  cases first with
  | error s s' alike => exact .error s s' alike
  | @ok s s' related found =>
    have second := later s s' related
    simp only [andThen]
    generalize rest s = q at second
    generalize rest' s' = q' at second
    cases second with
    | error s s' alike => exact .error s s' alike
    | ok related more => exact .ok related _

theorem sameFor_visit {f : FileTree.Entry → ScanState τ → Scanned τ}
    {f' : FileTree.Entry → ScanState τ' → Scanned τ'}
    (step : ∀ e s s', Q s s' → SameFor E Q (f e s) (f' e s')) (entries : List FileTree.Entry)
    (related : Q s s') : SameFor E Q (visit f entries s) (visit f' entries s') := by
  induction entries generalizing s s' with
  | nil => exact .ok related []
  | cons e es ih => exact sameFor_andThen (step e s s' related) fun _ _ => ih

/-- Folders of one resource that cannot be listed; which of them a scan meets first is open. -/
def Stuck (c : Scanner τ) (files : FileTree) (unit dir : Path) : Prop :=
  ∃ part ∈ c.partsBelow files (files.depth + 1) unit, c.Blocks files part dir

/-- Failures that are the same up to the folder of a resource that could not be listed. -/
def Akin (c : Scanner τ) (files : FileTree) (x x' : ScanError) : Prop :=
  x = x' ∨ ∃ unit dir dir', x = .unlisted dir ∧ x' = .unlisted dir' ∧
    c.Stuck files unit dir ∧ c.Stuck files unit dir'

theorem InStep.calls (inStep : InStep files c c' Q) (order : List Path) (related : Q s s') :
    Q (c.calls order s).2 s' ∧
      ∀ r ∈ (c.calls order s).1, r.2 = (c'.parse s'.files r.1 s'.parser).1 := by
  induction order generalizing s with
  | nil => exact ⟨related, by simp [Scanner.calls]⟩
  | cons path order ih =>
    obtain ⟨last, each⟩ := ih (inStep.parse path related)
    refine ⟨last, ?_⟩
    intro r member
    rcases List.mem_cons.mp member with rfl | behind
    · exact inStep.found path related
    · exact each r behind

theorem InStep.symm (inStep : InStep files c c' Q) : InStep files c' c fun s' s => Q s s' where
  excluded := inStep.excluded.symm
  manifests := inStep.manifests.symm
  failure := inStep.failure.symm
  files related := (inStep.files related).symm
  cancelled related := (inStep.cancelled related).symm
  found path related := (inStep.found path related).symm
  parse path related := inStep.parse' path related
  parse' path related := inStep.parse path related
  announce message related := inStep.announce message related

theorem partsIn_congr (excluded : c.isExcluded = c'.isExcluded) (depth : Nat) (dir : Path)
    (entries : List FileTree.Entry) : c.partsIn depth dir entries = c'.partsIn depth dir entries := by
  rw [partsIn, partsIn, excluded]

theorem partsBelow_congr (excluded : c.isExcluded = c'.isExcluded) (files : FileTree)
    (depth : Nat) (dir : Path) : c.partsBelow files depth dir = c'.partsBelow files depth dir := by
  induction depth generalizing dir with
  | zero => rfl
  | succ depth ih =>
    have deeper : c.partsBelow files depth = c'.partsBelow files depth := funext ih
    simp only [partsBelow, excluded, partsIn_congr excluded, deeper]

theorem flatMap_snd {results : List (Path × List Occurrence)} (answer : Path → List Occurrence)
    (each : ∀ r ∈ results, r.2 = answer r.1) :
    results.flatMap Prod.snd = (results.map Prod.fst).flatMap answer := by
  rw [List.flatMap_map]
  exact List.flatMap_congr fun r member => each r member

/-- The files of a resource show the same in every order of the calls, so the turns decide only at
which folder a scan fails. -/
theorem InStep.scanUnit (inStep : InStep files c c' Q) (turns turns' : Nat → Nat) (unit : Path)
    (related : Q s s') (going : s.isCancelled = false) :
    SameFor (c.Akin files) Q (c.scanUnit turns (files.depth + 1) unit s)
      (c'.scanUnit turns' (files.depth + 1) unit s') := by
  have going' := inStep.cancelled related ▸ going
  obtain ⟨here, there⟩ := inStep.files related
  have parts := partsBelow_congr inStep.excluded files (files.depth + 1) unit
  have blocks : ∀ part dir, c.Blocks files part dir ↔ c'.Blocks files part dir := by
    intro part dir
    rw [Blocks, Blocks, inStep.excluded]
  cases ran : c.scanUnit turns (files.depth + 1) unit s with
  | mk answer last =>
  cases ran' : c'.scanUnit turns' (files.depth + 1) unit s' with
  | mk answer' last' =>
  cases answer with
  | error x =>
    obtain ⟨part, member, dir, stuck, rfl⟩ := scanUnit_error going ran
    rw [here] at member stuck
    cases answer' with
    | error x' =>
      obtain ⟨part', member', dir', stuck', rfl⟩ := scanUnit_error going' ran'
      rw [there, ← parts] at member'
      rw [there, ← blocks] at stuck'
      exact .error last last' (.inr ⟨unit, dir, dir', rfl, rfl, ⟨part, member, stuck⟩,
        part', member', stuck'⟩)
    | ok found' =>
      obtain ⟨-, -, -, -, -, -, clear⟩ := scanUnit_ok going' ran'
      rw [there, ← parts] at clear
      exact absurd ((blocks part dir).mp stuck) (clear part member dir)
  | ok found =>
    obtain ⟨order, results, rfl, rfl, places, perm, clear⟩ := scanUnit_ok going ran
    cases answer' with
    | error x' =>
      obtain ⟨part', member', dir', stuck', -⟩ := scanUnit_error going' ran'
      rw [there, ← parts] at member'
      rw [there, ← blocks] at stuck'
      rw [here] at clear
      exact absurd stuck' (clear part' member' dir')
    | ok found' =>
      obtain ⟨order', results', rfl, rfl, places', perm', -⟩ := scanUnit_ok going' ran'
      obtain ⟨middle, each⟩ := inStep.calls order related
      obtain ⟨-, each'⟩ := inStep.symm.calls order' related
      obtain ⟨last, -⟩ := inStep.symm.calls order' middle
      have same : results.flatMap Prod.snd = results'.flatMap Prod.snd := by
        let answer := fun path => (c'.parse s'.files path s'.parser).1
        rw [flatMap_snd answer fun r member => each r (perm.mem_iff.mp member),
          flatMap_snd answer fun r member => (each' r (perm'.mem_iff.mp member)).trans
            (inStep.found r.1 related), places, places', here, there, filesBelow, filesBelow, parts]
      rw [same]
      exact .ok last _

theorem InStep.advance (inStep : InStep files c c' Q) (part : Part) (related : Q s s') :
    (c.advance part s).1 = (c'.advance part s').1 ∧
      Q (c.advance part s).2 (c'.advance part s').2 := by
  obtain ⟨here, there⟩ := inStep.files related
  have same := inStep.cancelled related
  unfold Scanner.advance
  by_cases cancelled : s.isCancelled = true
  · rw [if_pos cancelled, if_pos (same ▸ cancelled)]
    exact ⟨rfl, related⟩
  rw [if_neg cancelled, if_neg (same ▸ cancelled)]
  cases part with
  | file path =>
    refine ⟨?_, inStep.parse' path (inStep.parse path related)⟩
    simp only [inStep.found path related]
  | folder depth dir =>
    cases depth with
    | zero => exact ⟨rfl, related⟩
    | succ depth =>
      simp only [here, there, ← inStep.excluded, ← partsIn_congr inStep.excluded]
      split
      · exact ⟨rfl, related⟩
      · split <;> exact ⟨rfl, related⟩

/-- With one schedule the scans go through the same turns, and fail at the same folder. -/
theorem InStep.scanUnit_same_turns (inStep : InStep files c c' Q) (turns : Nat → Nat) (depth : Nat)
    (unit : Path) (related : Q s s') :
    SameFor Eq Q (c.scanUnit turns depth unit s) (c'.scanUnit turns depth unit s') := by
  obtain ⟨here, there⟩ := inStep.files related
  have parts := partsBelow_congr inStep.excluded files depth unit
  obtain ⟨same, later⟩ := FanOut.run_inStep (Q := Q)
    (fun part _ _ related =>
      ⟨(inStep.advance part related).1, fun _ _ => (inStep.advance part related).2⟩)
    (c.partsBelow files depth unit).length (fun n _ => turns n) [.left (.folder depth unit)] related
  simp only [Scanner.scanUnit, here, there, ← parts]
  generalize FanOut.run c.advance _ _ _ _ = r at same later
  generalize FanOut.run c'.advance _ _ _ _ = r' at same later
  obtain ⟨answer, last⟩ := r
  obtain ⟨answer', last'⟩ := r'
  cases same
  cases answer with
  | error x => exact .error last last' rfl
  | ok found => exact .ok (later found rfl) _

section Alike

variable (inStep : InStep files c c' Q) (alike : ∀ x, E x x)
  (units : ∀ message unit (s : ScanState τ) (s' : ScanState τ'), Q s s' → s.isCancelled = false →
    SameFor E Q (c.scanUnit (c.turns message) (files.depth + 1) unit s)
      (c'.scanUnit (c'.turns message) (files.depth + 1) unit s'))
include inStep alike units

theorem InStep.scanResource (root path : Path) (related : Q s s') :
    SameFor E Q (c.scanResource root path s) (c'.scanResource root path s') := by
  have told := inStep.announce ("Parsing: " ++ Path.display root path) related
  simp only [Scanner.scanResource, Scanner.hasManifest, ← inStep.manifests, ← inStep.failure,
    inStep.files related, inStep.files told, ← inStep.cancelled told]
  cases files.list? path with
  | none => exact .error _ _ (alike _)
  | some entries =>
    refine sameFor_ite (fun _ => sameFor_ite (fun _ => .error _ _ (alike _)) fun going => ?_)
      fun _ => .ok related []
    cases c.failure ("Parsing: " ++ Path.display root path) with
    | some x => exact .error _ _ (alike x)
    | none =>
      have unit := units ("Parsing: " ++ Path.display root path) path _ _ told (by simpa using going)
      generalize c.scanUnit _ _ path _ = r at unit
      generalize c'.scanUnit _ _ path _ = r' at unit
      cases unit with
      | error s s' alike => exact .error _ _ alike
      | ok related found => exact .ok related found

theorem InStep.scanGroup (root : Path) (depth : Nat) (dir : Path) (related : Q s s') :
    SameFor E Q (c.scanGroup root depth dir s) (c'.scanGroup root depth dir s') := by
  induction depth generalizing dir s s' with
  | zero => exact .ok related []
  | succ depth ih =>
    simp only [Scanner.scanGroup, ← inStep.excluded, inStep.files related]
    refine sameFor_ite (fun _ => .ok related []) fun _ => ?_
    cases files.list? dir with
    | none => exact .error _ _ (alike _)
    | some entries =>
      refine sameFor_visit ?_ _ related
      intro e s s' related
      rw [inStep.cancelled related]
      exact sameFor_ite (fun _ => .error _ _ (alike _)) fun _ =>
        sameFor_ite (fun _ => .ok related []) fun _ =>
          sameFor_ite (fun _ => ih _ related) fun _ =>
            inStep.scanResource alike units root _ related

theorem InStep.scan (root : Path) (related : Q s s') :
    SameFor E Q (c.scan root s) (c'.scan root s') := by
  simp only [Scanner.scan, inStep.files related]
  exact sameFor_ite (fun _ => .ok related [])
    fun _ => inStep.scanGroup alike units root _ root related

theorem InStep.scanAll (roots : List Path) (related : Q s s') :
    SameFor E Q (c.scanAll roots s) (c'.scanAll roots s') := by
  induction roots generalizing s s' with
  | nil => exact .ok related []
  | cons root roots ih =>
    exact sameFor_andThen (inStep.scan alike units root related) fun _ _ => ih

end Alike

end InStep

end Scanner

end EventXref
