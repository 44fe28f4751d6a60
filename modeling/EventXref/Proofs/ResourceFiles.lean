import EventXref.Proofs.Listing
import EventXref.Proofs.Scan

/-!
Which files a scan parses. Below a root it goes through grouping folders to the resources, and in
these through all folders; so it parses the files of resources, each of them once. The calls for one
resource come in any order, but what they find is put together in the order of the paths. Only a
folder that cannot be listed makes a scan fail: one that is locked, or one whose path is too long.
-/
namespace EventXref

/-- The path that names lead to from a folder on. -/
def Path.descend (dir : Path) (names : List String) : Path :=
  names.foldl (fun path name => path.join (.ofString name)) dir

namespace FileTree

def isFile : FileTree → Bool
  | .file _ => true
  | _ => false

theorem depth_pos {node : FileTree} (folder : node.isFolder = true) : 0 < node.depth := by
  cases node with
  | file _ | link _ => cases folder
  | folder _ | locked => simp [depth]

theorem list?_eq_some {files : FileTree} {path : Path} {listing : List Entry} :
    files.list? path = some listing ↔
      ∃ entries, files.open? path = some (.folder entries) ∧ sortEntries entries = listing := by
  rw [list?]
  split
  · rename_i entries here
    simp [here]
  · rename_i never
    simpa using fun entries here => absurd here (never entries)

theorem Opens.unique {files node other : FileTree} {path : Path} (opens : files.Opens path node)
    (here : files.open? path = some other) : node = other := by
  by_cases short : path.IsShort
  · rw [opens.short short] at here
    exact Option.some.inj here
  · rw [opens.long short] at here
    cases here

theorem at?_cons (entries : List (String × FileTree)) (name : String) (names : List String) :
    (folder entries).at? (name :: names) = (entries.lookup name).bind fun node => node.at? names :=
  rfl

theorem at?_single (entries : List (String × FileTree)) (name : String) :
    (folder entries).at? [name] = entries.lookup name := by
  rw [at?_cons]
  cases entries.lookup name <;> rfl

end FileTree

namespace Scanner

variable {τ : Type}

/-- What a scan does besides listing folders. -/
inductive Step where
  | tell (message : String)
  | parse (path : Path)

/-- What is found in each file, and the state behind it. -/
def perform (c : Scanner τ) :
    List Step → ScanState τ → List (Path × List Occurrence) × ScanState τ
  | [], s => ([], s)
  | .tell message :: steps, s => c.perform steps (c.announce message s)
  | .parse path :: steps, s =>
    let (found, parser) := c.parse s.files path s.parser
    let (rest, s') := c.perform steps { s with parser }
    ((path, found) :: rest, s')

/-- Nothing that a scan tells changes the files or stops it. -/
structure Undisturbed (c : Scanner τ) : Prop where
  files : ∀ message s, (c.announce message s).files = s.files
  isCancelled : ∀ message s, (c.announce message s).isCancelled = s.isCancelled
  failure : ∀ message, c.failure message = none

section Perform

variable {c : Scanner τ}

theorem perform_append (first second : List Step) (s : ScanState τ) :
    c.perform (first ++ second) s =
      ((c.perform first s).1 ++ (c.perform second (c.perform first s).2).1,
        (c.perform second (c.perform first s).2).2) := by
  induction first generalizing s with
  | nil => rfl
  | cons step first ih =>
    cases step with
    | tell message => exact ih _
    | parse path => simp [perform, ih]

theorem perform_parses (paths : List Path) (s : ScanState τ) :
    c.perform (paths.map .parse) s = c.calls paths s := by
  induction paths generalizing s with
  | nil => rfl
  | cons path paths ih => simp [perform, calls, ih]

theorem Undisturbed.perform (calm : c.Undisturbed) (steps : List Step) (s : ScanState τ) :
    (c.perform steps s).2.files = s.files ∧
      (c.perform steps s).2.isCancelled = s.isCancelled := by
  induction steps generalizing s with
  | nil => exact ⟨rfl, rfl⟩
  | cons step steps ih =>
    cases step with
    | tell message =>
      obtain ⟨files, cancelled⟩ := ih (c.announce message s)
      exact ⟨files.trans (calm.files message s), cancelled.trans (calm.isCancelled message s)⟩
    | parse path => exact ih _

end Perform

section Parts

variable (c : Scanner τ) (files : FileTree)

/-- A part of a scan parses the files that names `Is` lead to from `dir`, in any order, and gives
what it finds in the order of the names. -/
def Parses (dir : Path) (part : ScanState τ → Scanned τ) (Is : List String → Prop) : Prop :=
  ∃ names : List (List String), names.Pairwise (· < ·) ∧ (∀ ns, ns ∈ names ↔ Is ns) ∧
    ∀ s, s.files = files → s.isCancelled = false →
      ∃ (steps : List Step) (results : List (Path × List Occurrence)),
        part s = (.ok (results.flatMap Prod.snd), (c.perform steps s).2) ∧
        results.map Prod.fst = names.map dir.descend ∧ results.Perm (c.perform steps s).1

/-- A part of a scan fails at a folder that it has to list and that cannot be listed. -/
def Fails (dir : Path) (part : ScanState τ → Scanned τ) (Lists : List String → Prop) : Prop :=
  ∀ s, s.files = files → s.isCancelled = false →
    ∃ ns s', Lists ns ∧ files.list? (dir.descend ns) = none ∧
      part s = (.error (.unlisted (dir.descend ns)), s')

/-- A part of a scan parses its files if all folders can be listed that have to be, and fails at
one that cannot be. -/
def Does (dir : Path) (part : ScanState τ → Scanned τ) (Is Lists : List String → Prop) : Prop :=
  c.Parses files dir part Is ∧ (∀ ns, Lists ns → files.list? (dir.descend ns) ≠ none) ∨
    (∃ ns, Lists ns ∧ files.list? (dir.descend ns) = none) ∧ Fails files dir part Lists

variable {c files} {dir : Path} {part part' : ScanState τ → Scanned τ}
  {Is Is' Lists Lists' : List String → Prop}

theorem Does.imp (does : c.Does files dir part Is Lists)
    (same : ∀ s, s.files = files → s.isCancelled = false → part' s = part s)
    (is : ∀ ns, Is' ns ↔ Is ns) (lists : ∀ ns, Lists ns → Lists' ns)
    (clear : ∀ ns, Lists' ns → Lists ns ∨ files.list? (dir.descend ns) ≠ none) :
    c.Does files dir part' Is' Lists' := by
  rcases does with ⟨⟨names, sorted, mem, run⟩, all⟩ | ⟨⟨ns, listed, stuck⟩, fails⟩
  · refine .inl ⟨⟨names, sorted, fun ns => (mem ns).trans (is ns).symm, ?_⟩, ?_⟩
    · intro s here going
      rw [same s here going]
      exact run s here going
    · intro ns listed
      exact (clear ns listed).elim (all ns) id
  · refine .inr ⟨⟨ns, lists ns listed, stuck⟩, ?_⟩
    intro s here going
    obtain ⟨ns, s', listed, stuck, failed⟩ := fails s here going
    exact ⟨ns, s', lists ns listed, stuck, by rw [same s here going, failed]⟩

theorem does_nothing (same : ∀ s, s.files = files → s.isCancelled = false → part s = (.ok [], s))
    (never : ∀ ns, ¬ Is ns) (clear : ∀ ns, Lists ns → files.list? (dir.descend ns) ≠ none) :
    c.Does files dir part Is Lists := by
  refine .inl ⟨⟨[], .nil, ?_, ?_⟩, clear⟩
  · intro ns
    simp [never ns]
  · intro s here going
    exact ⟨[], [], same s here going, rfl, .nil⟩

theorem does_fail (unlisted : files.list? dir = none) (listed : Lists [])
    (same : ∀ s, s.files = files → s.isCancelled = false → part s = (.error (.unlisted dir), s)) :
    c.Does files dir part Is Lists :=
  .inr ⟨⟨[], listed, unlisted⟩, fun s here going =>
    ⟨[], s, listed, unlisted, same s here going⟩⟩

/-- Telling of a part first changes nothing else, as long as its answer is passed on. -/
theorem Does.told (does : c.Does files dir part Is Lists) (calm : c.Undisturbed) (message : String)
    (ok : ∀ s found s', s.files = files → s.isCancelled = false →
      part (c.announce message s) = (.ok found, s') → part' s = (.ok found, s'))
    (error : ∀ s x s', s.files = files → s.isCancelled = false →
      part (c.announce message s) = (.error x, s') → (part' s).1 = .error x) :
    c.Does files dir part' Is Lists := by
  have ready : ∀ s, s.files = files → s.isCancelled = false →
      (c.announce message s).files = files ∧ (c.announce message s).isCancelled = false :=
    fun s here going => ⟨(calm.files _ s).trans here, (calm.isCancelled _ s).trans going⟩
  rcases does with ⟨⟨names, sorted, mem, run⟩, all⟩ | ⟨some, fails⟩
  · refine .inl ⟨⟨names, sorted, mem, ?_⟩, all⟩
    intro s here going
    obtain ⟨here', going'⟩ := ready s here going
    obtain ⟨steps, results, ran, places, perm⟩ := run _ here' going'
    exact ⟨.tell message :: steps, results, ok s _ _ here going ran, places, perm⟩
  · refine .inr ⟨some, ?_⟩
    intro s here going
    obtain ⟨here', going'⟩ := ready s here going
    obtain ⟨ns, s', listed, stuck, failed⟩ := fails _ here' going'
    exact ⟨ns, (part' s).2, listed, stuck, Prod.ext (error s _ s' here going failed) rfl⟩

/-- Names behind a first one, in order, and then others that all come behind it. -/
theorem sorted_behind {name : String} {names names' : List (List String)}
    (sorted : names.Pairwise (· < ·)) (sorted' : names'.Pairwise (· < ·))
    (before : ∀ rest, ∀ ns ∈ names', name :: rest < ns) :
    (names.map (name :: ·) ++ names').Pairwise (· < ·) := by
  refine List.pairwise_append.mpr ⟨?_, sorted', ?_⟩
  · refine List.pairwise_map.mpr (sorted.imp fun less => ?_)
    exact List.cons_lt_cons_iff.mpr (.inr ⟨rfl, less⟩)
  · intro ns member ns' member'
    obtain ⟨rest, -, rfl⟩ := List.mem_map.mp member
    exact before rest ns' member'

/-- Two parts one after the other, the first of them at an entry with a name that comes before all
names of the second. -/
theorem Does.andThen {name : String}
    (first : c.Does files (dir.join (.ofString name)) part Is Lists)
    (second : c.Does files dir part' Is' Lists') (calm : c.Undisturbed)
    (before : ∀ rest ns, Is' ns → name :: rest < ns) :
    c.Does files dir (fun s => Scanner.andThen (part s) part')
      (fun ns => (∃ rest, ns = name :: rest ∧ Is rest) ∨ Is' ns)
      fun ns => (∃ rest, ns = name :: rest ∧ Lists rest) ∨ Lists' ns := by
  rcases first with ⟨⟨names, order, mem, run⟩, all⟩ | ⟨⟨ns, listed, stuck⟩, fails⟩
  · -- The first part leaves the files and the token alone, so the second starts from the same ones.
    have ready : ∀ steps s, s.files = files → s.isCancelled = false →
        (c.perform steps s).2.files = files ∧ (c.perform steps s).2.isCancelled = false :=
      fun steps s here going => (calm.perform steps s).imp (·.trans here) (·.trans going)
    rcases second with ⟨⟨names', order', mem', run'⟩, all'⟩ | ⟨⟨ns, listed, stuck⟩, fails⟩
    · refine .inl ⟨⟨names.map (name :: ·) ++ names', ?_, ?_, ?_⟩, ?_⟩
      · exact sorted_behind order order' fun rest ns member => before rest ns ((mem' ns).mp member)
      · intro ns
        simp only [List.mem_append, List.mem_map, mem, mem', and_comm, eq_comm]
      · intro s here going
        obtain ⟨steps, results, ran, places, perm⟩ := run s here going
        obtain ⟨here', going'⟩ := ready steps s here going
        obtain ⟨steps', results', ran', places', perm'⟩ := run' _ here' going'
        refine ⟨steps ++ steps', results ++ results', ?_, ?_, ?_⟩
        · simp only [Scanner.andThen, ran, ran', perform_append, List.flatMap_append]
        · rw [List.map_append, places, places', List.map_append, List.map_map]
          rfl
        · rw [perform_append]
          exact perm.append perm'
      · rintro ns (⟨rest, rfl, listed⟩ | listed)
        · exact all rest listed
        · exact all' ns listed
    · refine .inr ⟨⟨ns, .inr listed, stuck⟩, ?_⟩
      intro s here going
      obtain ⟨steps, results, ran, -⟩ := run s here going
      obtain ⟨here', going'⟩ := ready steps s here going
      obtain ⟨ns, s', listed, stuck, failed⟩ := fails _ here' going'
      exact ⟨ns, s', .inr listed, stuck, by simp only [Scanner.andThen, ran, failed]⟩
  · refine .inr ⟨⟨name :: ns, .inl ⟨ns, rfl, listed⟩, stuck⟩, ?_⟩
    intro s here going
    obtain ⟨ns, s', listed, stuck, failed⟩ := fails s here going
    refine ⟨name :: ns, s', .inl ⟨ns, rfl, listed⟩, stuck, ?_⟩
    simp only [Scanner.andThen, failed]
    rfl

theorem exists_mem_cons {e : FileTree.Entry} {es : List FileTree.Entry}
    (p : FileTree.Entry → Prop) : (∃ e' ∈ e :: es, p e') ↔ p e ∨ ∃ e' ∈ es, p e' := by
  simp only [List.mem_cons, or_and_right, exists_or, exists_eq_left]

theorem does_visit (calm : c.Undisturbed) {f : FileTree.Entry → ScanState τ → Scanned τ}
    {Is Lists : FileTree.Entry → List String → Prop} {es : List FileTree.Entry}
    (sorted : es.Pairwise fun a b => a.name < b.name)
    (each : ∀ e ∈ es, c.Does files (dir.join (.ofString e.name)) (f e) (Is e) (Lists e)) :
    c.Does files dir (visit f es) (fun ns => ∃ e ∈ es, ∃ rest, ns = e.name :: rest ∧ Is e rest)
      fun ns => ∃ e ∈ es, ∃ rest, ns = e.name :: rest ∧ Lists e rest := by
  induction es with
  | nil => exact does_nothing (fun _ _ _ => rfl) (by simp) (by simp)
  | cons e es ih =>
    obtain ⟨first, behind⟩ := List.pairwise_cons.mp sorted
    obtain ⟨here, there⟩ := List.forall_mem_cons.mp each
    have before : ∀ rest ns, (∃ e' ∈ es, ∃ rest', ns = e'.name :: rest' ∧ Is e' rest') →
        e.name :: rest < ns := by
      rintro rest ns ⟨e', later, rest', rfl, -⟩
      exact List.cons_lt_cons_iff.mpr (.inl (first e' later))
    refine (here.andThen (ih behind there) calm before).imp (fun _ _ _ => rfl) ?_ ?_ ?_
    · exact fun ns => exists_mem_cons _
    · intro ns lists
      exact (exists_mem_cons _).mpr lists
    · intro ns lists
      exact .inl ((exists_mem_cons _).mp lists)

end Parts

section Layout

variable (c : Scanner τ) (files : FileTree)

/-- The files among some parts are those that names `Is` lead to from `dir`, in the order of the
names, if all folders can be listed; if not, one of the parts is a folder that cannot be. -/
def Lays (dir : Path) (parts : List Part) (Is Lists : List String → Prop) : Prop :=
  (∃ names : List (List String), names.Pairwise (· < ·) ∧ (∀ ns, ns ∈ names ↔ Is ns) ∧
      parts.filterMap Part.file? = names.map dir.descend ∧
      (∀ part ∈ parts, ∀ path, ¬ c.Blocks files part path) ∧
      ∀ ns, Lists ns → files.list? (dir.descend ns) ≠ none) ∨
    (∃ part ∈ parts, ∃ path, c.Blocks files part path) ∧
      ∀ part ∈ parts, ∀ path, c.Blocks files part path → ∃ ns, Lists ns ∧ path = dir.descend ns

variable {c files} {dir : Path} {parts parts' : List Part} {Is Is' Lists Lists' : List String → Prop}

theorem Lays.imp (lays : c.Lays files dir parts Is Lists) (is : ∀ ns, Is' ns ↔ Is ns)
    (lists : ∀ ns, Lists ns → Lists' ns)
    (clear : ∀ ns, Lists' ns → Lists ns ∨ files.list? (dir.descend ns) ≠ none) :
    c.Lays files dir parts Is' Lists' := by
  rcases lays with ⟨names, sorted, mem, places, free, all⟩ | ⟨some, each⟩
  · refine .inl ⟨names, sorted, fun ns => (mem ns).trans (is ns).symm, places, free, ?_⟩
    intro ns listed
    exact (clear ns listed).elim (all ns) id
  · refine .inr ⟨some, ?_⟩
    intro part member path blocks
    obtain ⟨ns, listed, same⟩ := each part member path blocks
    exact ⟨ns, lists ns listed, same⟩

theorem lays_nothing (folders : ∀ part ∈ parts, part.file? = none)
    (free : ∀ part ∈ parts, ∀ path, ¬ c.Blocks files part path) (never : ∀ ns, ¬ Is ns)
    (clear : ∀ ns, Lists ns → files.list? (dir.descend ns) ≠ none) :
    c.Lays files dir parts Is Lists := by
  refine .inl ⟨[], .nil, by simp [never], ?_, free, clear⟩
  simpa using folders

theorem lays_file (only : ∀ ns, Is ns ↔ ns = []) (never : ∀ ns, ¬ Lists ns) :
    c.Lays files dir [.file dir] Is Lists := by
  refine .inl ⟨[[]], List.pairwise_singleton _ _, by simp [only], rfl, ?_, by simp [never]⟩
  rintro part member path ⟨depth, rfl, -⟩
  simp at member

theorem Lays.folder {part : Part} (lays : c.Lays files dir parts Is Lists)
    (folder : part.file? = none) (free : ∀ path, ¬ c.Blocks files part path) :
    c.Lays files dir (part :: parts) Is Lists := by
  rcases lays with ⟨names, sorted, mem, places, others, all⟩ | ⟨⟨part', member, stuck⟩, each⟩
  · refine .inl ⟨names, sorted, mem, ?_, List.forall_mem_cons.mpr ⟨free, others⟩, all⟩
    rwa [List.filterMap_cons_none folder]
  · refine .inr ⟨⟨part', .tail _ member, stuck⟩, List.forall_mem_cons.mpr ⟨?_, each⟩⟩
    exact fun path blocks => absurd blocks (free path)

theorem Lays.append {name : String} (first : c.Lays files (dir.join (.ofString name)) parts Is Lists)
    (second : c.Lays files dir parts' Is' Lists') (before : ∀ rest ns, Is' ns → name :: rest < ns) :
    c.Lays files dir (parts ++ parts') (fun ns => (∃ rest, ns = name :: rest ∧ Is rest) ∨ Is' ns)
      fun ns => (∃ rest, ns = name :: rest ∧ Lists rest) ∨ Lists' ns := by
  -- Whatever is blocked in one of them is blocked by a folder with a name of its own.
  have blocked : ∀ part ∈ parts, ∀ path, c.Blocks files part path →
      ∃ rest, Lists rest ∧ path = dir.descend (name :: rest) := by
    rcases first with ⟨-, -, -, -, free, -⟩ | ⟨-, each⟩
    · exact fun part member path blocks => absurd blocks (free part member path)
    · exact each
  have blocked' : ∀ part ∈ parts', ∀ path, c.Blocks files part path →
      ∃ ns, Lists' ns ∧ path = dir.descend ns := by
    rcases second with ⟨-, -, -, -, free, -⟩ | ⟨-, each⟩
    · exact fun part member path blocks => absurd blocks (free part member path)
    · exact each
  have either : ∀ part ∈ parts ++ parts', ∀ path, c.Blocks files part path →
      ∃ ns, ((∃ rest, ns = name :: rest ∧ Lists rest) ∨ Lists' ns) ∧ path = dir.descend ns := by
    intro part member path blocks
    rcases List.mem_append.mp member with here | there
    · obtain ⟨rest, listed, same⟩ := blocked part here path blocks
      exact ⟨name :: rest, .inl ⟨rest, rfl, listed⟩, same⟩
    · obtain ⟨ns, listed, same⟩ := blocked' part there path blocks
      exact ⟨ns, .inr listed, same⟩
  rcases first with ⟨names, order, mem, places, free, all⟩ | ⟨⟨part, member, stuck⟩, -⟩
  · rcases second with ⟨names', order', mem', places', free', all'⟩ | ⟨⟨part, member, stuck⟩, -⟩
    · refine .inl ⟨names.map (name :: ·) ++ names', ?_, ?_, ?_, ?_, ?_⟩
      · exact sorted_behind order order' fun rest ns member => before rest ns ((mem' ns).mp member)
      · intro ns
        simp only [List.mem_append, List.mem_map, mem, mem', and_comm, eq_comm]
      · rw [List.filterMap_append, places, places', List.map_append, List.map_map]
        rfl
      · intro part member
        exact (List.mem_append.mp member).elim (free part) (free' part)
      · rintro ns (⟨rest, rfl, listed⟩ | listed)
        · exact all rest listed
        · exact all' ns listed
    · exact .inr ⟨⟨part, List.mem_append_right _ member, stuck⟩, either⟩
  · exact .inr ⟨⟨part, List.mem_append_left _ member, stuck⟩, either⟩

theorem lays_flatMap {f : FileTree.Entry → List Part}
    {Is Lists : FileTree.Entry → List String → Prop} {es : List FileTree.Entry}
    (sorted : es.Pairwise fun a b => a.name < b.name)
    (each : ∀ e ∈ es, c.Lays files (dir.join (.ofString e.name)) (f e) (Is e) (Lists e)) :
    c.Lays files dir (es.flatMap f) (fun ns => ∃ e ∈ es, ∃ rest, ns = e.name :: rest ∧ Is e rest)
      fun ns => ∃ e ∈ es, ∃ rest, ns = e.name :: rest ∧ Lists e rest := by
  induction es with
  | nil => exact lays_nothing (by simp) (by simp) (by simp) (by simp)
  | cons e es ih =>
    obtain ⟨first, behind⟩ := List.pairwise_cons.mp sorted
    obtain ⟨here, there⟩ := List.forall_mem_cons.mp each
    have before : ∀ rest ns, (∃ e' ∈ es, ∃ rest', ns = e'.name :: rest' ∧ Is e' rest') →
        e.name :: rest < ns := by
      rintro rest ns ⟨e', later, rest', rfl, -⟩
      exact List.cons_lt_cons_iff.mpr (.inl (first e' later))
    rw [List.flatMap_cons]
    refine (here.append (ih behind there) before).imp ?_ ?_ ?_
    · exact fun ns => exists_mem_cons _
    · intro ns lists
      exact (exists_mem_cons _).mpr lists
    · intro ns lists
      exact .inl ((exists_mem_cons _).mp lists)

/-- However the turns go, a resource does what its layout says. -/
theorem Lays.scanUnit {depth : Nat} (turns : Nat → Nat)
    (lays : c.Lays files dir (c.partsBelow files depth dir) Is Lists) :
    c.Does files dir (c.scanUnit turns depth dir) Is Lists := by
  rcases lays with ⟨names, sorted, mem, places, free, all⟩ | ⟨⟨part, member, path, stuck⟩, each⟩
  · refine .inl ⟨⟨names, sorted, mem, ?_⟩, all⟩
    rintro s rfl going
    cases ran : c.scanUnit turns depth dir s with
    | mk answer s' =>
    cases answer with
    | error x =>
      obtain ⟨part, member, path, stuck, -⟩ := scanUnit_error going ran
      exact absurd stuck (free part member path)
    | ok found =>
      obtain ⟨order, results, rfl, rfl, files, perm, -⟩ := scanUnit_ok going ran
      refine ⟨order.map .parse, results, ?_, files.trans places, ?_⟩
      · rw [perform_parses]
      · rwa [perform_parses]
  · obtain ⟨ns, listed, rfl⟩ := each part member path stuck
    obtain ⟨depth', -, -, unlisted⟩ := id stuck
    refine .inr ⟨⟨ns, listed, unlisted⟩, ?_⟩
    rintro s rfl going
    cases ran : c.scanUnit turns depth dir s with
    | mk answer s' =>
    cases answer with
    | ok found =>
      obtain ⟨-, -, -, -, -, -, clear⟩ := scanUnit_ok going ran
      exact absurd stuck (clear part member _)
    | error x =>
      obtain ⟨part, member, path, stuck, rfl⟩ := scanUnit_error going ran
      obtain ⟨ns, listed, rfl⟩ := each part member path stuck
      obtain ⟨depth'', -, -, unlisted⟩ := stuck
      exact ⟨ns, s', listed, unlisted, rfl⟩

end Layout

section Units

/-- Nothing on the way that names lead from a folder on is excluded. -/
def Admits (c : Scanner τ) : Path → List String → Prop
  | dir, [] => c.isExcluded dir = false
  | dir, name :: names => c.isExcluded dir = false ∧ c.Admits (dir.join (.ofString name)) names

/-- Names lead to a node of a kind, and no link or excluded folder is on the way. -/
def Finds (c : Scanner τ) (dir : Path) (base : FileTree) (kind : FileTree → Bool)
    (names : List String) : Prop :=
  c.Admits dir names ∧ ∃ node, base.at? names = some node ∧ kind node = true

variable {c : Scanner τ} {files : FileTree} {dir : Path} {entries : List (String × FileTree)}
  {kind : FileTree → Bool} {name : String} {names rest : List String}

theorem Admits.first (admits : c.Admits dir names) : c.isExcluded dir = false := by
  cases names with
  | nil => exact admits
  | cons name names => exact admits.1

theorem finds_cons : c.Finds dir (.folder entries) kind (name :: rest) ↔
    c.isExcluded dir = false ∧ ∃ node, entries.lookup name = some node ∧
      c.Finds (dir.join (.ofString name)) node kind rest := by
  simp only [Finds, Admits, FileTree.at?, FileTree.entry?, Option.bind_eq_some_iff]
  constructor
  · rintro ⟨⟨kept, admits⟩, node, ⟨child, found, here⟩, fits⟩
    exact ⟨kept, child, found, admits, node, here, fits⟩
  · rintro ⟨kept, child, found, admits, node, here, fits⟩
    exact ⟨⟨kept, admits⟩, node, ⟨child, found, here⟩, fits⟩

theorem Finds.listed {node : FileTree} {path : Path} (finds : c.Finds path node kind names)
    (links : ∀ target, kind (.link target) = false) (named : (FileTree.folder entries).WellNamed)
    (found : entries.lookup name = some node) :
    ⟨name, node.isFolder⟩ ∈ FileTree.sortEntries entries := by
  refine (FileTree.mem_listing named).mpr ⟨node, found, ?_, rfl⟩
  rintro target rfl
  obtain ⟨-, node, here, fits⟩ := finds
  cases names with
  | nil =>
    cases here
    simp [links] at fits
  | cons name names => cases here

theorem finds_file (text : Option String) : c.Finds dir (.file text) kind names ↔
    names = [] ∧ c.isExcluded dir = false ∧ kind (.file text) = true := by
  cases names with
  | nil => simp [Finds, Admits, FileTree.at?]
  | cons name names => simp [Finds, FileTree.at?, FileTree.entry?]

/-- The entries of a folder that a scan of its resource visits. -/
def visited (c : Scanner τ) (dir : Path) (entries : List (String × FileTree)) :
    List FileTree.Entry :=
  (FileTree.sortEntries entries).filter fun e => !c.isExcluded (dir.join (.ofString e.name))

theorem finds_below_visited (named : (FileTree.folder entries).WellNamed)
    (links : ∀ target, kind (.link target) = false) (kept : c.isExcluded dir = false) :
    (∃ e ∈ c.visited dir entries, ∃ rest, names = e.name :: rest ∧
        ∃ node, entries.lookup e.name = some node ∧
          c.Finds (dir.join (.ofString e.name)) node kind rest) ↔
      names ≠ [] ∧ c.Finds dir (.folder entries) kind names := by
  constructor
  · rintro ⟨e, -, rest, rfl, node, found, finds⟩
    exact ⟨List.cons_ne_nil _ _, finds_cons.mpr ⟨kept, node, found, finds⟩⟩
  · rintro ⟨some, finds⟩
    obtain ⟨name, rest, rfl⟩ := List.exists_cons_of_ne_nil some
    obtain ⟨-, node, found, finds⟩ := finds_cons.mp finds
    have listed := finds.listed links named found
    refine ⟨⟨name, node.isFolder⟩, List.mem_filter.mpr ⟨listed, ?_⟩, rest, rfl, node, found, finds⟩
    simp [finds.1.first]

theorem flatMap_partsIn_visited (depth : Nat) :
    (c.partsIn depth dir (FileTree.sortEntries entries)).flatMap (c.below files) =
      (c.visited dir entries).flatMap fun e => c.below files (if e.isFolder
        then .folder depth (dir.join (.ofString e.name)) else .file (dir.join (.ofString e.name))) := by
  rw [partsIn, visited, List.flatMap_map]

theorem lays_excluded (depth : Nat) (base : FileTree) (excluded : c.isExcluded dir = true) :
    c.Lays files dir (c.below files (.folder (depth + 1) dir)) (c.Finds dir base FileTree.isFile)
      (c.Finds dir base FileTree.isFolder) := by
  have never : ∀ kind names, ¬ c.Finds dir base kind names := by
    intro kind names found
    simp [found.1.first] at excluded
  rw [below_folder, if_pos excluded]
  refine lays_nothing ?_ ?_ (never _) fun names found => absurd found (never _ names)
  · simp [Part.file?]
  · rintro part member path ⟨depth, rfl, free, -⟩
    simp only [List.mem_singleton, Part.folder.injEq] at member
    simp [← member.2, free] at excluded

theorem lays_unlisted (depth : Nat) {base : FileTree} (folder : base.isFolder = true)
    (kept : c.isExcluded dir = false) (unlisted : files.list? dir = none) :
    c.Lays files dir (c.below files (.folder (depth + 1) dir)) (c.Finds dir base FileTree.isFile)
      (c.Finds dir base FileTree.isFolder) := by
  rw [below_folder, unlisted]
  refine .inr ⟨⟨_, List.mem_cons_self, dir, depth, rfl, kept, unlisted⟩, ?_⟩
  rintro part member path ⟨depth, rfl, -⟩
  simp only [partsIn, Option.getD_none, List.filter_nil, List.map_nil, List.flatMap_nil, ite_self,
    List.mem_singleton, Part.folder.injEq] at member
  exact ⟨[], ⟨kept, base, rfl, folder⟩, member.2⟩

theorem lays_entry (depth : Nat) {e : FileTree.Entry} {node : FileTree}
    (same : e.isFolder = node.isFolder) (solid : ∀ target, node ≠ .link target)
    (free : c.isExcluded (dir.join (.ofString e.name)) = false)
    (deeper : node.isFolder = true → c.Lays files (dir.join (.ofString e.name))
      (c.partsBelow files depth (dir.join (.ofString e.name)))
      (c.Finds (dir.join (.ofString e.name)) node FileTree.isFile)
      (c.Finds (dir.join (.ofString e.name)) node FileTree.isFolder)) :
    c.Lays files (dir.join (.ofString e.name)) (c.below files (if e.isFolder
      then .folder depth (dir.join (.ofString e.name)) else .file (dir.join (.ofString e.name))))
      (c.Finds (dir.join (.ofString e.name)) node FileTree.isFile)
      (c.Finds (dir.join (.ofString e.name)) node FileTree.isFolder) := by
  rw [same]
  cases node with
  | link target => exact absurd rfl (solid target)
  | folder _ | locked => exact deeper rfl
  | file text =>
    refine lays_file ?_ ?_
    · intro rest
      simp [finds_file, FileTree.isFile, free]
    · intro rest
      simp [finds_file, FileTree.isFolder]

theorem lays_listed (depth : Nat) (named : (FileTree.folder entries).WellNamed)
    (kept : c.isExcluded dir = false)
    (listed : files.list? dir = some (FileTree.sortEntries entries))
    (each : ∀ e ∈ c.visited dir entries, c.Lays files (dir.join (.ofString e.name))
      (c.below files (if e.isFolder
        then .folder depth (dir.join (.ofString e.name)) else .file (dir.join (.ofString e.name))))
      (fun rest => ∃ node, entries.lookup e.name = some node ∧
        c.Finds (dir.join (.ofString e.name)) node FileTree.isFile rest)
      fun rest => ∃ node, entries.lookup e.name = some node ∧
        c.Finds (dir.join (.ofString e.name)) node FileTree.isFolder rest) :
    c.Lays files dir (c.below files (.folder (depth + 1) dir))
      (c.Finds dir (.folder entries) FileTree.isFile)
      (c.Finds dir (.folder entries) FileTree.isFolder) := by
  have inner := lays_flatMap ((FileTree.sortEntries_sorted (named [] entries rfl).1).filter _) each
  have top : ∀ path, ¬ c.Blocks files (.folder (depth + 1) dir) path := by
    rintro path ⟨_, ⟨⟩, -, unlisted⟩
    rw [listed] at unlisted
    cases unlisted
  rw [below_folder, kept, listed, Option.getD_some, if_neg Bool.false_ne_true,
    flatMap_partsIn_visited]
  refine (inner.folder rfl top).imp ?_ ?_ ?_
  · intro ns
    refine Iff.trans ?_ (finds_below_visited named (fun _ => rfl) kept).symm
    refine (and_iff_right_of_imp ?_).symm
    rintro ⟨-, node, reached, isFile⟩ rfl
    cases reached
    cases isFile
  · intro ns below
    exact ((finds_below_visited named (fun _ => rfl) kept).mp below).2
  · -- The folder itself is listed as well.
    intro ns finds
    by_cases first : ns = []
    · subst first
      exact .inr (by simp [Path.descend, listed])
    · exact .inl ((finds_below_visited named (fun _ => rfl) kept).mpr ⟨first, finds⟩)

theorem partsBelow_lays (depth : Nat) {base : FileTree} (opens : files.Opens dir base)
    (folder : base.isFolder = true) (named : base.WellNamed) (deep : base.depth ≤ depth) :
    c.Lays files dir (c.partsBelow files depth dir) (c.Finds dir base FileTree.isFile)
      (c.Finds dir base FileTree.isFolder) := by
  induction depth generalizing dir base with
  | zero => exact absurd (FileTree.depth_pos folder) (by omega)
  | succ depth ih =>
    cases kept : c.isExcluded dir with
    | true => exact lays_excluded depth base kept
    | false =>
      cases listed : files.list? dir with
      | none => exact lays_unlisted depth folder kept listed
      | some listing =>
        obtain ⟨entries, here, rfl⟩ := FileTree.list?_eq_some.mp listed
        obtain rfl := opens.unique here
        refine lays_listed depth named kept listed ?_
        intro e member
        obtain ⟨shown, free⟩ := List.mem_filter.mp member
        obtain ⟨node, found, solid, same⟩ := (FileTree.mem_listing named).mp shown
        simp only [found, Option.some.injEq, exists_eq_left']
        refine lays_entry depth same solid (by simpa using free) fun isFolder => ?_
        have deeper := FileTree.depth_lookup found
        rw [FileTree.depth] at deep
        exact ih (FileTree.opens_join here (FileTree.isName_of_lookup named found) found solid)
          isFolder (named.child found) (by omega)

end Units

section Groups

def Grouping (name : String) : Prop := ∃ inner, name.toList = '[' :: (inner ++ [']'])

/-- A file with the name of a manifest stands directly in a folder. -/
def HasManifest (c : Scanner τ) (node : FileTree) : Prop :=
  ∃ m ∈ c.manifests, ∃ found, node.at? [m] = some found ∧ found.isFile = true

/-- Names lead through grouping folders to a folder with a manifest that does not group, and from
there on to a node of a kind; no link or excluded folder is on the way. -/
def InResource (c : Scanner τ) (root : Path) (base : FileTree) (kind : FileTree → Bool)
    (names : List String) : Prop :=
  c.Finds root base kind names ∧ ∃ groups unit rest, names = groups ++ unit :: rest ∧
    (∀ group ∈ groups, Grouping group) ∧ ¬ Grouping unit ∧
    ∃ node, base.at? (groups ++ [unit]) = some node ∧ c.HasManifest node

/-- The folders that a scan lists: grouping ones, the folders in these, which could be resources,
and all folders of resources. -/
def Lists (c : Scanner τ) (root : Path) (base : FileTree) (names : List String) : Prop :=
  c.Finds root base FileTree.isFolder names ∧ (∀ group ∈ names.dropLast, Grouping group) ∨
    c.InResource root base FileTree.isFolder names

variable {c : Scanner τ} {files node : FileTree} {root dir : Path}
  {entries : List (String × FileTree)} {kind : FileTree → Bool} {name : String}
  {names rest : List String}

theorem isGrouping_iff : Path.isGrouping name = true ↔ Grouping name := by
  simp only [Path.isGrouping, Grouping, Bool.and_eq_true, decide_eq_true_eq]
  generalize name.toList = t
  constructor
  · rintro ⟨⟨size, first⟩, last⟩
    cases t with
    | nil => cases first
    | cons c t =>
      cases Option.some.inj first
      have filled : t ≠ [] := by
        rintro rfl
        simp at size
      rw [List.getLast?_cons_of_ne_nil filled] at last
      obtain ⟨inner, rfl⟩ := List.getLast?_eq_some_iff.mp last
      exact ⟨inner, rfl⟩
  · rintro ⟨inner, rfl⟩
    refine ⟨⟨by simp, rfl⟩, ?_⟩
    rw [List.getLast?_cons_of_ne_nil (by simp), List.getLast?_concat]

theorem hasManifest_iff (named : (FileTree.folder entries).WellNamed) :
    c.hasManifest (FileTree.sortEntries entries) = true ↔ c.HasManifest (.folder entries) := by
  simp only [hasManifest, HasManifest, List.any_eq_true, Bool.and_eq_true, Bool.not_eq_true',
    List.contains_iff_mem, FileTree.mem_listing named, FileTree.at?_single]
  constructor
  · rintro ⟨e, ⟨node, found, solid, kind⟩, plain, listed⟩
    refine ⟨e.name, listed, node, found, ?_⟩
    rw [kind] at plain
    cases node with
    | link target => exact absurd rfl (solid target)
    | file text => rfl
    | folder _ | locked => cases plain
  · rintro ⟨m, listed, node, found, isFile⟩
    cases node with
    | link _ | folder _ | locked => cases isFile
    | file text => exact ⟨⟨m, false⟩, ⟨_, found, by simp, rfl⟩, rfl, listed⟩

/-- The part of `InResource` that is left behind the first name. -/
def EntryInResource (c : Scanner τ) (name : String) (path : Path) (node : FileTree)
    (kind : FileTree → Bool) (rest : List String) : Prop :=
  Grouping name ∧ c.InResource path node kind rest ∨
    ¬ Grouping name ∧ c.HasManifest node ∧ c.Finds path node kind rest

/-- The part of `Lists` that is left behind the first name. -/
def EntryLists (c : Scanner τ) (name : String) (path : Path) (node : FileTree)
    (rest : List String) : Prop :=
  Grouping name ∧ c.Lists path node rest ∨
    ¬ Grouping name ∧ c.Finds path node FileTree.isFolder rest ∧ (rest = [] ∨ c.HasManifest node)

theorem inResource_cons : c.InResource dir (.folder entries) kind (name :: rest) ↔
    c.isExcluded dir = false ∧ ∃ node, entries.lookup name = some node ∧
      c.EntryInResource name (dir.join (.ofString name)) node kind rest := by
  constructor
  · rintro ⟨finds, groups, unit, rest', split, grouping, single, there, reached, manifest⟩
    obtain ⟨kept, node, found, finds⟩ := finds_cons.mp finds
    refine ⟨kept, node, found, ?_⟩
    cases groups with
    | nil =>
      cases split
      simp only [List.nil_append, FileTree.at?_single, found] at reached
      cases reached
      exact .inr ⟨single, manifest, finds⟩
    | cons group groups =>
      cases split
      rw [List.cons_append, FileTree.at?_cons, found] at reached
      obtain ⟨here, others⟩ := List.forall_mem_cons.mp grouping
      exact .inl ⟨here, finds, groups, unit, rest', rfl, others, single, there, reached, manifest⟩
  · rintro ⟨kept, node, found, ⟨grouping, finds, groups, unit, rest', rfl, others, single, way⟩ |
      ⟨single, manifest, finds⟩⟩
    · refine ⟨finds_cons.mpr ⟨kept, node, found, finds⟩, name :: groups, unit, rest', rfl,
        List.forall_mem_cons.mpr ⟨grouping, others⟩, single, ?_⟩
      rwa [List.cons_append, FileTree.at?_cons, found]
    · refine ⟨finds_cons.mpr ⟨kept, node, found, finds⟩, [], name, rest, rfl, by simp, single,
        node, ?_, manifest⟩
      rw [List.nil_append, FileTree.at?_single, found]

theorem lists_cons : c.Lists dir (.folder entries) (name :: rest) ↔
    c.isExcluded dir = false ∧ ∃ node, entries.lookup name = some node ∧
      c.EntryLists name (dir.join (.ofString name)) node rest := by
  have inner : (∀ group ∈ (name :: rest).dropLast, Grouping group) ↔
      rest = [] ∨ Grouping name ∧ ∀ group ∈ rest.dropLast, Grouping group := by
    cases rest with
    | nil => simp
    | cons next rest => simp
  rw [Lists, inResource_cons, finds_cons, inner]
  constructor
  · rintro (⟨⟨kept, node, found, finds⟩, way⟩ | ⟨kept, node, found, way⟩)
    · refine ⟨kept, node, found, ?_⟩
      by_cases grouping : Grouping name
      · refine .inl ⟨grouping, .inl ⟨finds, ?_⟩⟩
        rcases way with rfl | ⟨-, groups⟩
        · simp
        · exact groups
      · exact .inr ⟨grouping, finds, .inl (way.resolve_right fun way => grouping way.1)⟩
    · refine ⟨kept, node, found, ?_⟩
      rcases way with ⟨grouping, way⟩ | ⟨single, manifest, finds⟩
      · exact .inl ⟨grouping, .inr way⟩
      · exact .inr ⟨single, finds, .inr manifest⟩
  · rintro ⟨kept, node, found, ⟨grouping, ⟨finds, groups⟩ | way⟩ | ⟨single, finds, way⟩⟩
    · exact .inl ⟨⟨kept, node, found, finds⟩, .inr ⟨grouping, groups⟩⟩
    · exact .inr ⟨kept, node, found, .inl ⟨grouping, way⟩⟩
    · rcases way with rfl | manifest
      · exact .inl ⟨⟨kept, node, found, finds⟩, .inl rfl⟩
      · exact .inr ⟨kept, node, found, .inr ⟨single, manifest, finds⟩⟩

theorem scanResource_does (calm : c.Undisturbed) (root : Path) (opens : files.Opens dir node)
    (folder : node.isFolder = true) (named : node.WellNamed) (free : c.isExcluded dir = false) :
    c.Does files dir (c.scanResource root dir)
      (fun names => c.HasManifest node ∧ c.Finds dir node FileTree.isFile names)
      fun names => c.Finds dir node FileTree.isFolder names ∧
        (names = [] ∨ c.HasManifest node) := by
  cases listed : files.list? dir with
  | none =>
    refine does_fail listed ⟨⟨free, node, rfl, folder⟩, .inl rfl⟩ ?_
    intro s same going
    simp [scanResource, same, listed]
  | some listing =>
    obtain ⟨entries, here, rfl⟩ := FileTree.list?_eq_some.mp listed
    obtain rfl := opens.unique here
    by_cases manifest : c.HasManifest (.folder entries)
    · -- The bound on the depth is that of all files, so it never ends a scan early.
      have shown := (hasManifest_iff named).mpr manifest
      have deep := FileTree.depth_open? here
      have layout := partsBelow_lays (c := c) (files.depth + 1) opens folder named (by omega)
      have resource : c.Does files dir (c.scanResource root dir)
          (c.Finds dir (.folder entries) FileTree.isFile)
          (c.Finds dir (.folder entries) FileTree.isFolder) := by
        refine (layout.scanUnit (c.turns ("Parsing: " ++ Path.display root dir))).told calm
          ("Parsing: " ++ Path.display root dir) ?_ ?_
        · intro s found s' same going ran
          simp [scanResource, same, listed, shown, calm.files, calm.isCancelled, going,
            calm.failure, ran]
        · intro s x s' same going ran
          simp [scanResource, same, listed, shown, calm.files, calm.isCancelled, going,
            calm.failure, ran]
      refine resource.imp (fun _ _ _ => rfl) ?_ ?_ ?_
      · simp [manifest]
      · simp [manifest]
      · exact fun ns lists => .inl lists.1
    · have none : c.hasManifest (FileTree.sortEntries entries) = false := by
        rw [← Bool.not_eq_true, hasManifest_iff named]
        exact manifest
      refine does_nothing ?_ (fun ns found => manifest found.1) ?_
      · intro s same going
        simp [scanResource, same, listed, none]
      · rintro ns ⟨-, rfl | found⟩
        · simp [Path.descend, listed]
        · exact absurd found manifest

theorem EntryInResource.finds (inside : c.EntryInResource name dir node kind rest) :
    c.Finds dir node kind rest := by
  rcases inside with ⟨-, inside⟩ | ⟨-, -, finds⟩
  · exact inside.1
  · exact finds

theorem Lists.finds (lists : c.Lists dir node names) :
    c.Finds dir node FileTree.isFolder names := by
  rcases lists with ⟨finds, -⟩ | inside
  · exact finds
  · exact inside.1

theorem EntryLists.finds (lists : c.EntryLists name dir node rest) :
    c.Finds dir node FileTree.isFolder rest := by
  rcases lists with ⟨-, lists⟩ | ⟨-, finds, -⟩
  · exact lists.finds
  · exact finds

theorem inResource_below_listing (named : (FileTree.folder entries).WellNamed)
    (links : ∀ target, kind (.link target) = false) (kept : c.isExcluded dir = false) :
    c.InResource dir (.folder entries) kind names ↔
      ∃ e ∈ FileTree.sortEntries entries, ∃ rest, names = e.name :: rest ∧
        ∃ node, entries.lookup e.name = some node ∧
          c.EntryInResource e.name (dir.join (.ofString e.name)) node kind rest := by
  constructor
  · intro inside
    cases names with
    | nil =>
      obtain ⟨-, groups, unit, rest, split, -⟩ := inside
      simp at split
    | cons name rest =>
      obtain ⟨-, node, found, inside⟩ := inResource_cons.mp inside
      exact ⟨_, inside.finds.listed links named found, rest, rfl, node, found, inside⟩
  · rintro ⟨e, -, rest, rfl, node, found, inside⟩
    exact inResource_cons.mpr ⟨kept, node, found, inside⟩

theorem lists_below_listing (named : (FileTree.folder entries).WellNamed)
    (kept : c.isExcluded dir = false) :
    names ≠ [] ∧ c.Lists dir (.folder entries) names ↔
      ∃ e ∈ FileTree.sortEntries entries, ∃ rest, names = e.name :: rest ∧
        ∃ node, entries.lookup e.name = some node ∧
          c.EntryLists e.name (dir.join (.ofString e.name)) node rest := by
  constructor
  · rintro ⟨some, lists⟩
    obtain ⟨name, rest, rfl⟩ := List.exists_cons_of_ne_nil some
    obtain ⟨-, node, found, lists⟩ := lists_cons.mp lists
    exact ⟨_, lists.finds.listed (fun _ => rfl) named found, rest, rfl, node, found, lists⟩
  · rintro ⟨e, -, rest, rfl, node, found, lists⟩
    exact ⟨List.cons_ne_nil _ _, lists_cons.mpr ⟨kept, node, found, lists⟩⟩

theorem not_entryInResource_file (text : Option String) :
    ¬ c.EntryInResource name dir (.file text) kind rest := by
  rintro (⟨-, -, groups, unit, rest, -, -, -, node, reached, -⟩ | ⟨-, ⟨m, -, node, reached, -⟩, -⟩)
  · cases groups with
    | nil => cases reached
    | cons group groups => cases reached
  · cases reached

def groupStep (c : Scanner τ) (root : Path) (depth : Nat) (dir : Path) (e : FileTree.Entry)
    (s : ScanState τ) : Scanned τ :=
  if s.isCancelled then (.error .cancelled, s)
  else if !e.isFolder || c.isExcluded (dir.join (.ofString e.name)) then (.ok [], s)
  else if Path.isGrouping e.name then c.scanGroup root depth (dir.join (.ofString e.name)) s
  else c.scanResource root (dir.join (.ofString e.name)) s

theorem scanGroup_succ {depth : Nat} {s : ScanState τ} (kept : c.isExcluded dir = false)
    (here : s.files.open? dir = some (.folder entries)) :
    c.scanGroup root (depth + 1) dir s =
      visit (c.groupStep root depth dir) (FileTree.sortEntries entries) s := by
  simp only [scanGroup, kept, FileTree.list?, here]
  rfl

theorem groupStep_does (calm : c.Undisturbed) (root : Path) {depth : Nat} {e : FileTree.Entry}
    (kind : e.isFolder = node.isFolder) (solid : ∀ target, node ≠ .link target)
    (opens : files.Opens (dir.join (.ofString e.name)) node) (named : node.WellNamed)
    (below : node.isFolder = true → c.Does files (dir.join (.ofString e.name))
      (c.scanGroup root depth (dir.join (.ofString e.name)))
      (c.InResource (dir.join (.ofString e.name)) node FileTree.isFile)
      (c.Lists (dir.join (.ofString e.name)) node)) :
    c.Does files (dir.join (.ofString e.name)) (c.groupStep root depth dir e)
      (c.EntryInResource e.name (dir.join (.ofString e.name)) node FileTree.isFile)
      (c.EntryLists e.name (dir.join (.ofString e.name)) node) := by
  by_cases barred : c.isExcluded (dir.join (.ofString e.name)) = true
  · -- Entries of a grouping folder are visited even if they are excluded, and skipped then.
    refine does_nothing ?_ ?_ ?_
    · intro s _ going
      simp [groupStep, going, barred]
    · intro rest inside
      simp [inside.finds.1.first] at barred
    · intro rest lists
      simp [lists.finds.1.first] at barred
  have free : c.isExcluded (dir.join (.ofString e.name)) = false := by simpa using barred
  cases folder : node.isFolder with
  | false =>
    cases node with
    | link target => exact absurd rfl (solid target)
    | folder _ | locked => cases folder
    | file text =>
      refine does_nothing ?_ (fun _ => not_entryInResource_file text) ?_
      · intro s _ going
        simp [groupStep, going, kind, folder]
      · intro rest lists
        exact absurd ((finds_file text).mp lists.finds).2.2 (by simp [folder])
  | true =>
    by_cases grouping : Grouping e.name
    · refine (below folder).imp ?_ ?_ ?_ ?_
      · intro s _ going
        simp [groupStep, going, kind, free, folder, isGrouping_iff.mpr grouping]
      · simp [EntryInResource, grouping]
      · simp [EntryLists, grouping]
      · simp +contextual [EntryLists, grouping]
    · have plain : Path.isGrouping e.name = false := by
        rw [← Bool.not_eq_true, isGrouping_iff]
        exact grouping
      refine (scanResource_does calm root opens folder named free).imp ?_ ?_ ?_ ?_
      · intro s _ going
        simp [groupStep, going, kind, free, folder, plain]
      · simp [EntryInResource, grouping]
      · simp [EntryLists, grouping]
      · simp +contextual [EntryLists, grouping]

theorem scanGroup_does (calm : c.Undisturbed) (root : Path) (depth : Nat)
    (opens : files.Opens dir node) (folder : node.isFolder = true) (named : node.WellNamed)
    (deep : node.depth ≤ depth) :
    c.Does files dir (c.scanGroup root depth dir) (c.InResource dir node FileTree.isFile)
      (c.Lists dir node) := by
  induction depth generalizing dir node with
  | zero => exact absurd (FileTree.depth_pos folder) (by omega)
  | succ depth ih =>
    by_cases excluded : c.isExcluded dir = true
    · refine does_nothing ?_ ?_ ?_
      · intro s _ going
        simp [scanGroup, excluded]
      · intro ns inside
        simp [inside.1.1.first] at excluded
      · intro ns lists
        simp [lists.finds.1.first] at excluded
    have kept : c.isExcluded dir = false := by simpa using excluded
    cases listed : files.list? dir with
    | none =>
      refine does_fail listed (.inl ⟨⟨kept, node, rfl, folder⟩, by simp⟩) ?_
      intro s here going
      simp [scanGroup, kept, here, listed]
    | some listing =>
      obtain ⟨entries, here, rfl⟩ := FileTree.list?_eq_some.mp listed
      obtain rfl := opens.unique here
      have each : ∀ e ∈ FileTree.sortEntries entries,
          c.Does files (dir.join (.ofString e.name)) (c.groupStep root depth dir e)
            (fun rest => ∃ node, entries.lookup e.name = some node ∧
              c.EntryInResource e.name (dir.join (.ofString e.name)) node FileTree.isFile rest)
            fun rest => ∃ node, entries.lookup e.name = some node ∧
              c.EntryLists e.name (dir.join (.ofString e.name)) node rest := by
        intro e member
        obtain ⟨node, found, solid, kind⟩ := (FileTree.mem_listing named).mp member
        have opens := FileTree.opens_join here (FileTree.isName_of_lookup named found) found solid
        simp only [found, Option.some.injEq, exists_eq_left']
        refine groupStep_does calm root kind solid opens (named.child found) fun isFolder => ?_
        have deeper := FileTree.depth_lookup found
        rw [FileTree.depth] at deep
        exact ih opens isFolder (named.child found) (by omega)
      refine (does_visit calm (FileTree.sortEntries_sorted (named [] entries rfl).1) each).imp
        ?_ ?_ ?_ ?_
      · intro s same going
        exact scanGroup_succ kept (same ▸ here)
      · intro ns
        exact inResource_below_listing named (fun _ => rfl) kept
      · intro ns below
        exact ((lists_below_listing named kept).mpr below).2
      · intro ns lists
        by_cases top : ns = []
        · subst top
          exact .inr (by simp [Path.descend, listed])
        · exact .inl ((lists_below_listing named kept).mp ⟨top, lists⟩)

theorem scan_does (calm : c.Undisturbed) (there : files.open? root = some node)
    (folder : node.isFolder = true) (named : node.WellNamed) :
    c.Does files root (c.scan root) (c.InResource root node FileTree.isFile)
      (c.Lists root node) := by
  have deep := FileTree.depth_open? there
  have opens : files.Opens root node :=
    ⟨fun _ => there, fun long => absurd (FileTree.open?_eq_some.mp there).2.1 long⟩
  refine (scanGroup_does calm root (files.depth + 1) opens folder named (by omega)).imp ?_
    (fun _ => .rfl) (fun _ => id) fun _ => .inl
  intro s here _
  simp [scan, here, there]

theorem scan_cancelled {s : ScanState τ} (root : Path) (cancelled : s.isCancelled = true) :
    (c.scan root s).2 = s ∧ ∀ found, (c.scan root s).1 = .ok found → found = [] := by
  have group : ∀ depth dir, (c.scanGroup root depth dir s).2 = s ∧
      ∀ found, (c.scanGroup root depth dir s).1 = .ok found → found = [] := by
    intro depth dir
    cases depth with
    | zero => simp [scanGroup]
    | succ depth =>
      rw [scanGroup]
      split
      · simp
      split
      · simp
      · rename_i entries _
        cases entries with
        | nil => simp [visit]
        | cons e es => simp [visit, andThen, cancelled]
  rw [scan]
  split
  · simp
  · exact group _ root

/-- Below a root that is a folder a scan that nothing stops parses the files of resources, each of
them once; the calls for a resource come in any order, but what they find is put together in the
order of the paths. It succeeds if and only if all folders can be listed that it has to list; if
not, it names one of those that cannot be. A scan that is stopped before it begins parses nothing. -/
theorem scan_parses_resource_files (calm : c.Undisturbed) {s : ScanState τ} {root : Path}
    {base : FileTree} (there : s.files.open? root = some base) (folder : base.isFolder = true)
    (named : base.WellNamed) :
    (s.isCancelled = false →
      ((∀ names, c.Lists root base names → s.files.list? (root.descend names) ≠ none) →
        ∃ (steps : List Step) (results : List (Path × List Occurrence))
            (paths : List (List String)),
          c.scan root s = (.ok (results.flatMap Prod.snd), (c.perform steps s).2) ∧
          results.Perm (c.perform steps s).1 ∧
          results.map Prod.fst = paths.map root.descend ∧ paths.Pairwise (· < ·) ∧
          ∀ names, names ∈ paths ↔ c.InResource root base FileTree.isFile names) ∧
      ((∃ names, c.Lists root base names ∧ s.files.list? (root.descend names) = none) →
        ∃ names, c.Lists root base names ∧ s.files.list? (root.descend names) = none ∧
          (c.scan root s).1 = .error (.unlisted (root.descend names)))) ∧
    (s.isCancelled = true →
      (c.scan root s).2 = s ∧ ∀ found, (c.scan root s).1 = .ok found → found = []) := by
  refine ⟨fun going => ?_, scan_cancelled root⟩
  rcases scan_does calm there folder named with
    ⟨⟨paths, sorted, mem, run⟩, all⟩ | ⟨⟨ns, lists, stuck⟩, fails⟩
  · refine ⟨fun _ => ?_, ?_⟩
    · obtain ⟨steps, results, ran, places, perm⟩ := run s rfl going
      exact ⟨steps, results, paths, ran, perm, places, sorted, mem⟩
    · rintro ⟨ns, lists, stuck⟩
      exact absurd stuck (all ns lists)
  · refine ⟨fun all => absurd stuck (all ns lists), fun _ => ?_⟩
    obtain ⟨ns, s', lists, stuck, failed⟩ := fails s rfl going
    exact ⟨ns, lists, stuck, by rw [failed]⟩

def mention (path : Path) : Occurrence := ⟨.trigger, path.text, ⟨⟨path.text⟩, ⟨0, 0⟩⟩⟩

/-- Finds the path that it is given and keeps it. The second of several parts has the next turn. -/
def logging : Scanner (List Path) where
  isExcluded _ := false
  manifests := ["m"]
  parse _ path log := ([mention path], log ++ [path])
  announce _ s := s
  turns _ _ := 1
  failure _ := none
  abandon _ _ _ log := log

theorem logging_undisturbed : logging.Undisturbed := ⟨fun _ _ => rfl, fun _ _ => rfl, fun _ => rfl⟩

/-- A resource in a grouping folder, with a link and with another folder in brackets. -/
def grouped : List (String × FileTree) :=
  [("[g]", .folder [("u", .folder [
    ("m", .file none), ("l", .link "/[g]"), ("[h]", .folder [("a", .file none)])])])]

/-- The manifest is parsed before the file in the folder, and yet comes behind it. -/
theorem scan_parses_resource_files_grouped :
    logging.Undisturbed ∧
    (FileTree.folder grouped).open? (.ofString "/") = some (.folder grouped) ∧
    (FileTree.folder grouped).WellNamed ∧
    (logging.scan (.ofString "/") ⟨.folder grouped, false, []⟩).1 =
      .ok [mention (.ofString "/[g]/u/[h]/a"), mention (.ofString "/[g]/u/m")] ∧
    (logging.scan (.ofString "/") ⟨.folder grouped, false, []⟩).2.parser =
      [.ofString "/[g]/u/m", .ofString "/[g]/u/[h]/a"] ∧
    ∃ (steps : List Step) (results : List (Path × List Occurrence)) (paths : List (List String)),
      logging.scan (.ofString "/") ⟨.folder grouped, false, []⟩ = (.ok (results.flatMap Prod.snd),
        (logging.perform steps ⟨.folder grouped, false, []⟩).2) ∧
      results.Perm (logging.perform steps ⟨.folder grouped, false, []⟩).1 ∧
      results.map Prod.fst = paths.map (Path.ofString "/").descend ∧
      paths.Pairwise (· < ·) ∧ ∀ names, names ∈ paths ↔
        logging.InResource (.ofString "/") (.folder grouped) FileTree.isFile names := by
  have there : (FileTree.folder grouped).open? (.ofString "/") = some (.folder grouped) := by rfl
  have named : (FileTree.folder grouped).WellNamed := by
    simp only [grouped, FileTree.wellNamed_folder, List.forall_mem_cons, List.not_mem_nil,
      false_imp_iff, implies_true, FileTree.wellNamed_file, FileTree.wellNamed_link]
    decide
  have succeeds : (logging.scan (.ofString "/") ⟨.folder grouped, false, []⟩).1 =
      .ok [mention (.ofString "/[g]/u/[h]/a"), mention (.ofString "/[g]/u/m")] := by
    decide +kernel
  obtain ⟨parses, fails⟩ := (scan_parses_resource_files logging_undisturbed
    (s := ⟨.folder grouped, false, []⟩) there rfl named).1 rfl
  have clear : ∀ names, logging.Lists (.ofString "/") (.folder grouped) names →
      (FileTree.folder grouped).list? ((Path.ofString "/").descend names) ≠ none := by
    intro names lists stuck
    obtain ⟨ns, -, -, failed⟩ := fails ⟨names, lists, stuck⟩
    rw [failed] at succeeds
    cases succeeds
  exact ⟨logging_undisturbed, there, named, succeeds, by decide +kernel, parses clear⟩

/-- The turns decide which of two locked folders is named. -/
example :
    let files := FileTree.folder [("u", .folder [("m", .file none), ("x", .locked), ("y", .locked)])]
    let first : Scanner (List Path) := { logging with turns := fun _ _ => 0 }
    let last : Scanner (List Path) := { logging with turns := fun _ n => n + 1 }
    (first.scan (.ofString "/") ⟨files, false, []⟩).1 = .error (.unlisted (.ofString "/u/x")) ∧
      (last.scan (.ofString "/") ⟨files, false, []⟩).1 = .error (.unlisted (.ofString "/u/y")) := by
  decide +kernel

def hollow : FileTree := .folder [("a", .folder [])]

theorem hollow_wellNamed : hollow.WellNamed := by
  simp only [hollow, FileTree.wellNamed_folder, List.forall_mem_cons, List.not_mem_nil,
    false_imp_iff, implies_true]
  decide

theorem scan_hollow_fails (there : hollow.open? root = some hollow)
    (full : root.bytes.length = FileTree.maxPathLength) :
    ∃ path, (logging.scan root ⟨hollow, false, []⟩).1 = .error (.unlisted path) := by
  have absolute := (FileTree.open?_eq_some.mp there).1
  have lists : logging.Lists root hollow ["a"] :=
    lists_cons.mpr ⟨rfl, _, rfl, .inr ⟨by simp [Grouping], ⟨rfl, _, rfl, rfl⟩, .inl rfl⟩⟩
  have stuck : hollow.list? (root.descend ["a"]) = none := by
    have longer := Path.length_lt_join absolute (by decide : FileTree.IsName "a")
    rw [full] at longer
    have found : [("a", FileTree.folder [])].lookup "a" = some (.folder []) := rfl
    have opens : hollow.open? (root.descend ["a"]) = none :=
      (FileTree.opens_join there (by decide) found fun _ => nofun).long (Nat.not_le.mpr longer)
    rw [FileTree.list?, opens]
  rcases scan_does logging_undisturbed there rfl hollow_wellNamed with ⟨-, all⟩ | ⟨-, fails⟩
  · exact absurd stuck (all ["a"] lists)
  · obtain ⟨ns, s', -, -, failed⟩ := fails ⟨hollow, false, []⟩ rfl rfl
    exact ⟨_, congrArg Prod.fst failed⟩

/-- The root exists, is a folder and is not excluded, nothing stops the scan, and yet it fails: the
path of the root leaves no room for the name of a folder in it. -/
theorem scan_fails_at_a_long_path : ∃ root : Path, hollow.open? root = some hollow ∧
    logging.isExcluded root = false ∧
    ∃ path, (logging.scan root ⟨hollow, false, []⟩).1 = .error (.unlisted path) := by
  have there : hollow.open? ⟨List.replicate FileTree.maxPathLength Path.slash⟩ = some hollow :=
    FileTree.open?_slashes (n := 4094) (by decide)
  exact ⟨_, there, rfl, scan_hollow_fails there List.length_replicate⟩

end Groups

end Scanner

end EventXref
