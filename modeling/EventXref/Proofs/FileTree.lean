import EventXref.Proofs.FileUri

/-!
Reading files through links. Where two lists of names that differ in names leading nowhere both lead
to a place, it is the same one; and what can be read after something has been removed could be read
before.
-/
namespace EventXref

namespace FileTree

def leads (name : String) : Bool := name ≠ "" ∧ name ≠ "."

variable {root : FileTree} {follow : List String → Option (List String)} {place r r' : List String}

/-- Names that differ in what leads nowhere have the same end. -/
def Agrees (follow : List String → Option (List String)) : Prop :=
  ∀ ns ms r r', ns.filter leads = ms.filter leads → follow ns = some r → follow ms = some r' →
    r = r'

theorem walk_skip {parts : List String} (walked : root.walk follow place parts = some r) :
    ∃ rest, root.walk follow place rest = some r ∧ rest.filter leads = parts.filter leads ∧
      ∀ name ∈ rest.head?, leads name = true := by
  induction parts with
  | nil => exact ⟨[], walked, rfl, by simp⟩
  | cons name parts ih =>
    by_cases leading : leads name = true
    · exact ⟨name :: parts, walked, rfl, by simpa using leading⟩
    · have idle : name = "" ∨ name = "." := by
        simp only [leads, decide_eq_true_eq] at leading
        by_cases empty : name = ""
        · exact .inl empty
        · exact .inr (Decidable.not_not.mp fun point => leading ⟨empty, point⟩)
      have behind : root.walk follow place parts = some r := by
        unfold walk at walked
        split at walked
        · rwa [if_pos idle] at walked
        · cases walked
      obtain ⟨rest, walked', same, first⟩ := ih behind
      exact ⟨rest, walked', by rw [same, List.filter_cons_of_neg leading], first⟩

theorem walk_step {name : String} {parts : List String} (leading : leads name = true)
    (walked : root.walk follow place (name :: parts) = some r) :
    ∃ entries, root.at? place = some (.folder entries) ∧
      (name = ".." ∧ root.walk follow place.dropLast parts = some r ∨
        name ≠ ".." ∧ ∃ node, entries.lookup name = some node ∧
          ((∃ target, node = .link target ∧ follow (pathParts target ++ parts) = some r) ∨
            (∀ target, node ≠ .link target) ∧
              root.walk follow (place ++ [name]) parts = some r)) := by
  have moving : ¬ (name = "" ∨ name = ".") := by
    simp only [leads, decide_eq_true_eq] at leading
    exact fun idle => idle.elim leading.1 leading.2
  unfold walk at walked
  split at walked
  · rename_i entries here
    refine ⟨entries, here, ?_⟩
    rw [if_neg moving] at walked
    split at walked
    · exact .inl ⟨‹_›, walked⟩
    · refine .inr ⟨‹_›, ?_⟩
      split at walked
      · cases walked
      · rename_i target found
        exact ⟨_, found, .inl ⟨target, rfl, walked⟩⟩
      · rename_i node other found
        exact ⟨node, found, .inr ⟨other, walked⟩⟩
  · cases walked

theorem walk_first {name : String} {fs parts : List String}
    (steps : parts.filter leads = name :: fs) (walked : root.walk follow place parts = some r) :
    ∃ rest, root.walk follow place (name :: rest) = some r ∧ rest.filter leads = fs ∧
      leads name = true := by
  obtain ⟨rest, walked', same, first⟩ := walk_skip walked
  rw [steps] at same
  cases rest with
  | nil => cases same
  | cons next rest =>
    have leading : leads next = true := first next rfl
    rw [List.filter_cons_of_pos leading] at same
    obtain ⟨rfl, tail⟩ := List.cons.inj same
    exact ⟨rest, walked', tail, leading⟩

theorem walk_nowhere {parts : List String} (steps : parts.filter leads = [])
    (walked : root.walk follow place parts = some r) : r = place := by
  obtain ⟨rest, walked', same, first⟩ := walk_skip walked
  cases rest with
  | nil => exact (Option.some.inj walked').symm
  | cons next rest =>
    rw [steps, List.filter_cons_of_pos (first next rfl)] at same
    cases same

theorem walk_agrees (agrees : Agrees follow) (place : List String) :
    Agrees (root.walk follow place) := by
  intro ns ms r r' same
  -- The induction is on the names that lead somewhere, which both lists have in common.
  generalize steps : ms.filter leads = fs at same
  induction fs generalizing place ns ms with
  | nil =>
    intro walked walked'
    rw [walk_nowhere same walked, walk_nowhere steps walked']
  | cons name fs ih =>
    intro walked walked'
    obtain ⟨ns, walked, same, leading⟩ := walk_first same walked
    obtain ⟨ms, walked', steps, -⟩ := walk_first steps walked'
    obtain ⟨entries, here, step⟩ := walk_step leading walked
    obtain ⟨entries', here', step'⟩ := walk_step leading walked'
    rw [here] at here'
    cases here'
    rcases step with ⟨up, rest⟩ | ⟨down, node, found, step⟩
    · rcases step' with ⟨-, rest'⟩ | ⟨down', -⟩
      · exact ih place.dropLast ns ms steps same rest rest'
      · exact absurd up down'
    · rcases step' with ⟨up', -⟩ | ⟨-, node', found', step'⟩
      · exact absurd up' down
      · rw [found] at found'
        cases found'
        rcases step with ⟨target, linked, rest⟩ | ⟨other, rest⟩
        · rcases step' with ⟨target', linked', rest'⟩ | ⟨other', -⟩
          · rw [linked] at linked'
            cases linked'
            refine agrees _ _ r r' ?_ rest rest'
            rw [List.filter_append, List.filter_append, same, steps]
          · exact absurd linked (other' target)
        · rcases step' with ⟨target', linked', -⟩ | ⟨-, rest'⟩
          · exact absurd linked' (other target')
          · exact ih _ ns ms steps same rest rest'

theorem resolve_agrees (root : FileTree) (links : Nat) : Agrees (root.resolve? links) := by
  induction links with
  | zero =>
    refine walk_agrees ?_ []
    intro ns ms r r' _ nowhere
    cases nowhere
  | succ links ih => exact walk_agrees ih []

theorem open?_eq_some {path : Path} {node : FileTree} :
    root.open? path = some node ↔
      path.isAbsolute = true ∧ path.bytes.length ≤ maxPathLength ∧
        ∃ names place, namesOf? path = some names ∧ root.resolve? maxLinks names = some place ∧
          root.at? place = some node := by
  by_cases barred : (!path.isAbsolute || decide (path.bytes.length > maxPathLength)) = true
  · simp only [open?, barred, if_true]
    constructor
    · intro never
      cases never
    · rintro ⟨absolute, short, -⟩
      simp [absolute, Nat.not_lt.mpr short] at barred
  · have fine : path.isAbsolute = true ∧ path.bytes.length ≤ maxPathLength := by
      simpa using barred
    simp [open?, fine, Option.bind_eq_some_iff]

theorem readText?_eq_some {path : Path} {text : String} :
    root.readText? path = some text ↔
      path.isAbsolute = true ∧ path.bytes.length ≤ maxPathLength ∧
        ∃ names place, namesOf? path = some names ∧ root.resolve? maxLinks names = some place ∧
          root.at? place = some (.file (some text)) := by
  rw [← open?_eq_some]
  unfold readText?
  split
  · rename_i here
    rw [here]
    simp
  · rename_i other
    constructor
    · intro never
      cases never
    · intro here
      exact absurd here (other _)

theorem ofList_eq_iff {part : List UInt8} {t : List Char} (decoded : Text.decode? part = some t)
    (known : List Char) (round : Text.ofBytes (Text.toBytes known) = known) :
    String.ofList t = String.ofList known ↔ part = Text.toBytes known := by
  obtain ⟨read, written⟩ := Text.eq_of_decode? decoded
  constructor
  · intro same
    rw [← written, String.ofList_injective same]
  · intro same
    rw [read, same, round]

theorem leads_of_decode? {part : List UInt8} {name : String}
    (spelled : (Text.decode? part).map String.ofList = some name) :
    leads name = Path.leads part := by
  obtain ⟨t, decoded, rfl⟩ := Option.map_eq_some_iff.mp spelled
  have empty : String.ofList t = "" ↔ part = [] := ofList_eq_iff decoded [] (by decide)
  have point : String.ofList t = "." ↔ part = [Path.dot] :=
    ofList_eq_iff decoded ['.'] (by decide)
  simp only [leads, Path.leads, ne_eq, empty, point]

theorem mapM_filter_leads {parts : List (List UInt8)} {names : List String}
    (spelled : parts.mapM (fun part => (Text.decode? part).map String.ofList) = some names) :
    (parts.filter Path.leads).mapM (fun part => (Text.decode? part).map String.ofList) =
      some (names.filter leads) := by
  induction parts generalizing names with
  | nil =>
    cases spelled
    rfl
  | cons part parts ih =>
    rw [List.mapM_cons] at spelled
    obtain ⟨name, first, spelled⟩ := Option.bind_eq_some_iff.mp spelled
    obtain ⟨rest, others, spelled⟩ := Option.bind_eq_some_iff.mp spelled
    cases spelled
    have leading := leads_of_decode? first
    by_cases here : Path.leads part = true
    · rw [List.filter_cons_of_pos here, List.filter_cons_of_pos (leading.trans here),
        List.mapM_cons, first, ih others]
      rfl
    · rw [List.filter_cons_of_neg here, List.filter_cons_of_neg (by rw [leading]; exact here),
        ih others]

/-- Where paths with the same steps can be read, they hold the same text. -/
theorem readText?_of_steps {p q : Path} {text text' : String} (same : p.steps = q.steps)
    (first : root.readText? p = some text) (second : root.readText? q = some text') :
    text = text' := by
  obtain ⟨-, -, ns, place, named, resolved, stored⟩ := readText?_eq_some.mp first
  obtain ⟨-, -, ms, place', named', resolved', stored'⟩ := readText?_eq_some.mp second
  have kept := mapM_filter_leads named
  have kept' := mapM_filter_leads named'
  have steps : (Text.splitOn Path.slash p.bytes).filter Path.leads =
      (Text.splitOn Path.slash q.bytes).filter Path.leads := same
  rw [steps, kept'] at kept
  have places : place = place' :=
    resolve_agrees root maxLinks ns ms place place' (Option.some.inj kept).symm resolved resolved'
  rw [places, stored'] at stored
  cases stored
  rfl

/-- Nodes of one kind; only what is in a folder may differ. -/
def Fits : FileTree → FileTree → Prop
  | .file text, .file text' => text = text'
  | .link target, .link target' => target = target'
  | .folder _, .folder _ => True
  | .locked, .locked => True
  | _, _ => False

/-- Everything in the second tree stands at the same place of the first one. -/
def Shrinks (t t' : FileTree) : Prop :=
  ∀ place node', t'.at? place = some node' → ∃ node, t.at? place = some node ∧ node.Fits node'

theorem Fits.refl (t : FileTree) : t.Fits t := by
  cases t <;> simp [Fits]

theorem Fits.trans {a b c : FileTree} (first : a.Fits b) (second : b.Fits c) : a.Fits c := by
  cases a <;> cases b <;> cases c <;> simp_all [Fits]

theorem Shrinks.refl (t : FileTree) : t.Shrinks t := fun _ node here => ⟨node, here, .refl node⟩

theorem Shrinks.trans {a b c : FileTree} (first : a.Shrinks b) (second : b.Shrinks c) :
    a.Shrinks c := by
  intro place node'' here
  obtain ⟨node', there, fits'⟩ := second place node'' here
  obtain ⟨node, origin, fits⟩ := first place node' there
  exact ⟨node, origin, fits.trans fits'⟩

theorem shrinks_folder {entries entries' : List (String × FileTree)}
    (kept : ∀ name child', entries'.lookup name = some child' →
      ∃ child, entries.lookup name = some child ∧ child.Shrinks child') :
    (folder entries).Shrinks (folder entries') := by
  intro place node' here
  cases place with
  | nil =>
    cases here
    exact ⟨_, rfl, trivial⟩
  | cons name place =>
    obtain ⟨child', found', here⟩ := Option.bind_eq_some_iff.mp here
    obtain ⟨child, found, shrinks⟩ := kept name child' found'
    obtain ⟨node, there, fits⟩ := shrinks place node' here
    exact ⟨node, by simp [at?, entry?, found, there], fits⟩

theorem lookup_filter (entries : List (String × FileTree)) (name key : String) :
    (entries.filter (·.1 ≠ name)).lookup key = if key = name then none else entries.lookup key := by
  induction entries with
  | nil => simp
  | cons e entries ih =>
    obtain ⟨other, node⟩ := e
    by_cases gone : other = name
    · rw [List.filter_cons_of_neg (by simpa using gone), ih, List.lookup_cons, gone]
      grind
    · rw [List.filter_cons_of_pos (by simpa using gone), List.lookup_cons, List.lookup_cons, ih]
      grind

theorem lookup_setEntry (entries : List (String × FileTree)) (name key : String)
    (node : FileTree) :
    (setEntry name node entries).lookup key =
      if key = name then some node else entries.lookup key := by
  induction entries with
  | nil => grind [setEntry]
  | cons e entries ih => grind [setEntry]

theorem remove_shrinks (names : List String) (t : FileTree) : t.Shrinks (t.remove names) := by
  fun_induction remove names t with
  | case1 name entries =>
    refine shrinks_folder ?_
    intro key child found
    rw [lookup_filter] at found
    split at found
    · cases found
    · exact ⟨child, found, .refl child⟩
  | case2 name names entries _ child found ih =>
    refine shrinks_folder ?_
    intro key child' found'
    rw [lookup_setEntry] at found'
    split at found'
    · rename_i here
      cases Option.some.inj found'
      exact ⟨child, here ▸ found, ih⟩
    · exact ⟨child', found', .refl child'⟩
  | case3 name names entries => exact .refl _
  | case4 t => exact .refl _

theorem at?_append (t : FileTree) (place names : List String) :
    t.at? (place ++ names) = (t.at? place).bind fun node => node.at? names := by
  induction place generalizing t with
  | nil => rfl
  | cons name place ih => simp only [List.cons_append, at?, Option.bind_assoc, ih]

theorem at?_child {t : FileTree} {entries : List (String × FileTree)} {place : List String}
    (here : t.at? place = some (.folder entries)) (name : String) :
    t.at? (place ++ [name]) = entries.lookup name := by
  rw [at?_append, here, Option.bind_some, at?, entry?]
  cases entries.lookup name <;> rfl

theorem Shrinks.folder {t t' : FileTree} {entries' : List (String × FileTree)}
    (shrinks : t.Shrinks t') (here : t'.at? place = some (.folder entries')) :
    ∃ entries, t.at? place = some (.folder entries) ∧
      ∀ name node', entries'.lookup name = some node' →
        ∃ node, entries.lookup name = some node ∧ node.Fits node' := by
  obtain ⟨node, there, fits⟩ := shrinks place _ here
  cases node with
  | file text => cases fits
  | link target => cases fits
  | locked => cases fits
  | folder entries =>
    refine ⟨entries, there, ?_⟩
    intro name node' found
    rw [← at?_child here] at found
    obtain ⟨node, origin, fits⟩ := shrinks _ node' found
    exact ⟨node, at?_child there name ▸ origin, fits⟩

/-- Way by way, names lead through a tree as they lead through what is left of it. -/
theorem walk_shrinks {t t' : FileTree} {follow' : List String → Option (List String)}
    (shrinks : t.Shrinks t') (follows : ∀ ns r, follow' ns = some r → follow ns = some r)
    (parts : List String) (walked : t'.walk follow' place parts = some r) :
    t.walk follow place parts = some r := by
  induction parts generalizing place with
  | nil => exact walked
  | cons name parts ih =>
    unfold walk at walked ⊢
    split at walked
    · rename_i entries' here
      obtain ⟨entries, there, kept⟩ := shrinks.folder here
      simp only [there]
      split
      · rename_i idle
        rw [if_pos idle] at walked
        exact ih walked
      · rename_i moving
        rw [if_neg moving] at walked
        split
        · rename_i up
          rw [if_pos up] at walked
          exact ih walked
        · rename_i down
          rw [if_neg down] at walked
          cases found : entries'.lookup name with
          | none => simp [found] at walked
          | some node' =>
            obtain ⟨node, origin, fits⟩ := kept name node' found
            simp only [found] at walked
            simp only [origin]
            cases node' with
            | link target =>
              cases node <;> cases fits
              exact follows _ r walked
            | file text =>
              cases node <;> cases fits
              exact ih walked
            | folder inner =>
              cases node <;> cases fits
              exact ih walked
            | locked =>
              cases node <;> cases fits
              exact ih walked
    · cases walked

theorem resolve_shrinks {t t' : FileTree} (shrinks : t.Shrinks t') (links : Nat)
    (names : List String) (resolved : t'.resolve? links names = some r) :
    t.resolve? links names = some r := by
  induction links generalizing names r with
  | zero => exact walk_shrinks shrinks (fun _ _ never => never) names resolved
  | succ links ih => exact walk_shrinks shrinks (fun ns r => ih ns) names resolved

theorem Shrinks.readText? {t t' : FileTree} (shrinks : t.Shrinks t') {path : Path} {text : String}
    (read : t'.readText? path = some text) : t.readText? path = some text := by
  obtain ⟨absolute, short, names, place, named, resolved, stored⟩ := readText?_eq_some.mp read
  have resolved' := resolve_shrinks shrinks maxLinks names resolved
  obtain ⟨node, origin, fits⟩ := shrinks place _ stored
  cases node with
  | file text' =>
    cases fits
    exact readText?_eq_some.mpr ⟨absolute, short, names, place, named, resolved', origin⟩
  | link target => cases fits
  | folder entries => cases fits
  | locked => cases fits

end FileTree

end EventXref
