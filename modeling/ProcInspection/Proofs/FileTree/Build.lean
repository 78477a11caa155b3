import Mathlib.Data.List.Infix
import ProcInspection.FileTree.Build
import ProcInspection.Proofs.FileTree.Change
import ProcInspection.Proofs.FileTree.View

namespace ProcInspection
namespace FileTree

/-!
What a change leaves where.

Making directories, writing a file and making a link each leave something at
some places and everything else as it was.  None of them takes a directory or a
link away, so a path that leads from directory to directory keeps doing so, and
each of them leaves a tidy tree tidy.
-/

/-- Directories and links stay where they are.  A file may get other content. -/
def Keeps (tree next : FileTree) : Prop :=
  forall way what, node? way tree = some what -> (forall content, what ≠ .file content) ->
    node? way next = some what

theorem Keeps.trans {tree middle next : FileTree} (first : Keeps tree middle)
    (second : Keeps middle next) : Keeps tree next :=
  fun way what stands lasts => second way what (first way what stands lasts) lasts

theorem Rooted.of_keeps {base : Path} {tree next : FileTree} (rooted : Rooted base tree)
    (keeps : Keeps tree next) : Rooted base next :=
  ⟨rooted.taken, rooted.absolute, rooted.short, fun front through =>
    keeps _ _ (rooted.passed front through) fun _ same => by cases same⟩

/-- A change leaves something at some of the places below a way. -/
structure Lays (way : List Bytes) (what : List Bytes -> Option Node) (tree next : FileTree) :
    Prop where
  stands : forall place, node? (way ++ place) next = (what place).or (node? (way ++ place) tree)
  keeps : Keeps tree next
  tidy : Tidy tree -> Tidy next

theorem Lays.trans {way : List Bytes} {what more : List Bytes -> Option Node}
    {tree middle next : FileTree} (first : Lays way what tree middle)
    (second : Lays way more middle next) :
    Lays way (fun place => (more place).or (what place)) tree next where
  stands place := by rw [second.stands, first.stands, Option.or_assoc]
  keeps := first.keeps.trans second.keeps
  tidy tidy := second.tidy (first.tidy tidy)

/-- Directories all along a way. -/
def directories (way place : List Bytes) : Option Node :=
  if place <+: way then some .directory else none

/-- Something at the end of a way alone. -/
def only (way : List Bytes) (what : Node) (place : List Bytes) : Option Node :=
  if place = way then some what else none

/-! ## Entries -/

section Entries

variable {name : Bytes} {child : FileTree} {entries : Entries}

theorem node?_put (name : Bytes) (child : FileTree) (entries : Entries) (condition : Condition)
    (other : Bytes) (way : List Bytes) :
    node? (other :: way) (.directory (put name child entries) condition) =
      if other = name then node? way child
      else node? (other :: way) (.directory entries condition) := by
  rw [node?_directory, node?_directory]
  by_cases same : other = name
  · rw [if_pos same, same, lookup_put]
    rfl
  · rw [if_neg same, ← lookup_put_of_ne same]

theorem mem_names_put (other : Bytes) :
    other ∈ (put name child entries).map Prod.fst <->
      other = name ∨ other ∈ entries.map Prod.fst := by
  rw [mem_names_iff, mem_names_iff]
  by_cases same : other = name
  · rw [same, lookup_put]
    simp
  · rw [← lookup_put_of_ne same]
    simp [same]

theorem nodup_names_put (distinct : (entries.map Prod.fst).Nodup) :
    ((put name child entries).map Prod.fst).Nodup := by
  induction entries with
  | nil => simp [put]
  | cons entry entries ih =>
      rcases entry with ⟨other, held⟩
      rw [put]
      by_cases same : other = name
      · rw [if_pos same]
        exact same ▸ distinct
      · rw [if_neg same, List.map_cons, List.nodup_cons, mem_names_put]
        rw [List.map_cons, List.nodup_cons] at distinct
        refine ⟨?_, ih distinct.2⟩
        rintro (named | later)
        · exact same named
        · exact distinct.1 later

theorem Tidy.put {condition : Condition} (tidy : Tidy (.directory entries condition))
    (inside : Tidy child) : Tidy (.directory (put name child entries) condition) := by
  cases tidy with
  | directory distinct each =>
      refine .directory (nodup_names_put distinct) ?_
      intro other below held
      by_cases same : other = name
      · rw [same, lookup_put] at held
        exact Option.some.inj held ▸ inside
      · rw [← lookup_put_of_ne same] at held
        exact each other below held

end Entries

/-! ## Directories -/

section Directories

variable {way : List Bytes} {tree next : FileTree}

theorem makeDirectories_nil (made : makeDirectories [] tree = some next) :
    tree.node = .directory ∧ next = tree := by
  cases tree with
  | directory entries condition => exact ⟨rfl, (Option.some.inj made).symm⟩
  | file content closed => cases made
  | link target closed => cases made

theorem makeDirectories_cons {name : Bytes} (made : makeDirectories (name :: way) tree = some next) :
    Exists fun entries : Entries => Exists fun condition : Condition =>
      Exists fun child : FileTree => tree = .directory entries condition ∧
        makeDirectories way ((entries.lookup name).getD emptyDirectory) = some child ∧
        next = .directory (put name child entries) condition := by
  cases tree with
  | file content closed => cases made
  | link target closed => cases made
  | directory entries condition =>
      rw [makeDirectories] at made
      split at made
      · cases below : makeDirectories way ((entries.lookup name).getD emptyDirectory) with
        | none =>
            rw [below] at made
            cases made
        | some child =>
            rw [below] at made
            exact ⟨entries, condition, child, rfl, below, (Option.some.inj made).symm⟩
      · cases made

theorem node?_emptyDirectory {place : List Bytes} (below : place ≠ []) :
    node? place emptyDirectory = none := by
  cases place with
  | nil => exact (below rfl).elim
  | cons name place => rfl

/-- Directories are made only where nothing else stands. -/
theorem makeDirectories_clear (made : makeDirectories way tree = some next) {place : List Bytes}
    (through : place <+: way) {what : Node} (stands : node? place tree = some what) :
    what = .directory := by
  induction way generalizing tree next place with
  | nil =>
      rw [List.prefix_nil.mp through, node?_nil] at stands
      exact (Option.some.inj stands).symm.trans (makeDirectories_nil made).1
  | cons name way ih =>
      rcases makeDirectories_cons made with ⟨entries, condition, child, inside, below, _⟩
      rw [inside] at stands
      cases place with
      | nil => exact (Option.some.inj stands).symm
      | cons other place =>
          rcases List.cons_prefix_cons.mp through with ⟨rfl, onward⟩
          rw [node?_directory] at stands
          rcases Option.bind_eq_some_iff.mp stands with ⟨held, found, stands⟩
          rw [found] at below
          exact ih below onward stands

theorem makeDirectories_stands (made : makeDirectories way tree = some next) (place : List Bytes) :
    node? place next = (directories way place).or (node? place tree) := by
  induction way generalizing tree next place with
  | nil =>
      rcases makeDirectories_nil made with ⟨here, rfl⟩
      cases place with
      | nil => rw [node?_nil, here]; rfl
      | cons name place => simp [directories]
  | cons name way ih =>
      rcases makeDirectories_cons made with ⟨entries, condition, child, rfl, below, rfl⟩
      cases place with
      | nil => simp [directories, node]
      | cons other place =>
          rw [node?_put]
          by_cases same : other = name
          · rw [if_pos same, ih below place, same, node?_directory]
            have shown : directories (name :: way) (name :: place) = directories way place := by
              simp [directories]
            rw [shown]
            cases held : entries.lookup name with
            | some found => rfl
            | none =>
                by_cases top : place = []
                · simp [top, directories]
                · rw [Option.getD_none, node?_emptyDirectory top]
                  rfl
          · rw [if_neg same]
            simp [directories, same]

theorem makeDirectories_tidy (made : makeDirectories way tree = some next) (tidy : Tidy tree) :
    Tidy next := by
  induction way generalizing tree next with
  | nil => exact (makeDirectories_nil made).2 ▸ tidy
  | cons name way ih =>
      rcases makeDirectories_cons made with ⟨entries, condition, child, rfl, below, rfl⟩
      refine tidy.put (ih below ?_)
      cases tidy with
      | directory distinct each =>
          cases held : entries.lookup name with
          | some found => exact each name found held
          | none => exact .directory List.nodup_nil (by intro name child found; cases found)

theorem makeDirectories_lays (made : makeDirectories way tree = some next) :
    Lays [] (directories way) tree next where
  stands := makeDirectories_stands made
  keeps := by
    intro place what stands _
    rw [makeDirectories_stands made, stands, directories]
    by_cases through : place <+: way
    · rw [if_pos through, makeDirectories_clear made through stands]
      rfl
    · rw [if_neg through]
      rfl
  tidy := makeDirectories_tidy made

end Directories

/-! ## Files and links -/

section Leaves

variable {way : List Bytes} {tree next : FileTree}

/-- A change of entries happens in one directory, and nothing beside its way
changes. -/
theorem exists_changeEntries {change : Entries -> Option Entries}
    (done : changeEntries change way tree = some next) :
    Exists fun before : Entries => Exists fun after : Entries => Exists fun condition : Condition =>
      subtree? way tree = some (.directory before condition) ∧ change before = some after ∧
        subtree? way next = some (.directory after condition) ∧
        forall place, ¬ way <+: place -> node? place next = node? place tree := by
  induction way generalizing tree next with
  | nil =>
      rcases changeEntries_nil done with ⟨before, after, condition, rfl, edited, rfl⟩
      exact ⟨before, after, condition, rfl, edited, rfl, fun place beside => (beside List.nil_prefix).elim⟩
  | cons name way ih =>
      rcases changeEntries_cons done with ⟨entries, condition, child, changed, rfl, found, below, rfl⟩
      rcases ih below with ⟨before, after, under, here, edited, there, beside⟩
      refine ⟨before, after, under, ?_, edited, ?_, ?_⟩
      · rw [subtree?, found]
        exact here
      · rw [subtree?, lookup_put]
        exact there
      · intro place outside
        cases place with
        | nil => rfl
        | cons other place =>
            rw [node?_put]
            by_cases same : other = name
            · rw [if_pos same, same, node?_directory, found]
              apply beside
              intro through
              exact outside (List.cons_prefix_cons.mpr ⟨same.symm, through⟩)
            · rw [if_neg same]

theorem changeEntries_tidy {change : Entries -> Option Entries}
    (keeps : forall before after condition, change before = some after ->
      Tidy (.directory before condition) -> Tidy (.directory after condition))
    (done : changeEntries change way tree = some next) (tidy : Tidy tree) : Tidy next := by
  induction way generalizing tree next with
  | nil =>
      rcases changeEntries_nil done with ⟨before, after, condition, rfl, edited, rfl⟩
      exact keeps before after condition edited tidy
  | cons name way ih =>
      rcases changeEntries_cons done with ⟨entries, condition, child, changed, rfl, found, below, rfl⟩
      refine tidy.put (ih below ?_)
      cases tidy with
      | directory distinct each => exact each name child found

/-- What may be put under a name: a leaf, and where nothing or a file stood. -/
structure PutsLeaf (edit : Bytes -> Entries -> Option Entries) (leaf : FileTree) : Prop where
  bare : leaf.node ≠ .directory
  tidy : Tidy leaf
  puts : forall name before after, edit name before = some after -> after = put name leaf before
  free : forall name before after, edit name before = some after ->
    forall child, before.lookup name = some child ->
      Exists fun content : Bytes => child.node = .file content

theorem node?_leaf {leaf : FileTree} (bare : leaf.node ≠ .directory) (name : Bytes)
    (place : List Bytes) : node? (name :: place) leaf = none := by
  cases leaf with
  | directory entries condition => exact (bare rfl).elim
  | file content closed => rfl
  | link target closed => rfl

theorem node?_put_leaf {leaf : FileTree} (bare : leaf.node ≠ .directory) {name : Bytes}
    {entries : Entries} (free : forall child, entries.lookup name = some child ->
      Exists fun content : Bytes => child.node = .file content) (condition : Condition)
    (place : List Bytes) :
    node? place (.directory (put name leaf entries) condition) =
      (only [name] leaf.node place).or (node? place (.directory entries condition)) := by
  cases place with
  | nil => simp [only, node]
  | cons other rest =>
      rw [node?_put]
      by_cases same : other = name
      · cases rest with
        | nil => simp [only, same]
        | cons further rest =>
            have empty : node? (name :: further :: rest) (.directory entries condition) = none := by
              rw [node?_directory]
              cases held : entries.lookup name with
              | none => rfl
              | some child =>
                  rcases free child held with ⟨content, file⟩
                  exact node?_leaf (by rw [file]; simp) further rest
            rw [if_pos same, same, empty, node?_leaf bare]
            simp [only]
      · simp [only, same]

/-- A leaf that is put somewhere is all that changes. -/
theorem changeLast_lays {edit : Bytes -> Entries -> Option Entries} {leaf : FileTree}
    (leaves : PutsLeaf edit leaf) (done : changeLast way edit tree = some next) :
    Lays [] (only way leaf.node) tree next := by
  rcases changeLast_eq_some done with ⟨front, last, rfl, edits⟩
  rcases exists_changeEntries edits with ⟨before, after, condition, here, edited, there, beside⟩
  have free := leaves.free last before after edited
  have stands : forall place,
      node? place next = (only (front ++ [last]) leaf.node place).or (node? place tree) := by
    intro place
    by_cases through : front <+: place
    · rcases through with ⟨rest, rfl⟩
      have relative : only (front ++ [last]) leaf.node (front ++ rest) =
          only [last] leaf.node rest := by
        simp [only]
      rw [node?_append, node?_append, here, there, Option.bind_some, Option.bind_some,
        leaves.puts last before after edited, node?_put_leaf leaves.bare free, relative]
    · have apart : place ≠ front ++ [last] := by
        intro same
        exact through (same ▸ List.prefix_append front [last])
      rw [beside place through, only, if_neg apart, Option.none_or]
  refine ⟨stands, ?_, ?_⟩
  · intro place what found lasts
    by_cases same : place = front ++ [last]
    · exfalso
      rw [same, node?_append, here, Option.bind_some, node?_directory] at found
      rcases Option.bind_eq_some_iff.mp found with ⟨child, held, is⟩
      rcases free child held with ⟨content, file⟩
      rw [node?_nil, file] at is
      exact lasts content (Option.some.inj is).symm
    · rw [stands, only, if_neg same, Option.none_or, found]
  · apply changeEntries_tidy _ edits
    intro before after condition edited tidy
    rw [leaves.puts last before after edited]
    exact tidy.put leaves.tidy

theorem writeFile_lays {content : Bytes} (written : writeFile way content tree = some next) :
    Lays [] (only way (.file content)) tree next := by
  refine changeLast_lays (PutsLeaf.mk ?_ (Tidy.file content) ?_ ?_) written
  · simp [node]
  · intro name before after edited
    split at edited
    · exact (Option.some.inj edited).symm
    · exact (Option.some.inj edited).symm
    · cases edited
  · intro name before after edited child held
    rw [held] at edited
    split at edited
    · next absent => cases absent
    · next old file => exact ⟨old, by rw [Option.some.inj file]; rfl⟩
    · cases edited

theorem makeLink_edit {target : Bytes} {name : Bytes} {before after : Entries}
    (edited : (match before.lookup name, FileSystem.pathFault? ⟨target⟩ with
      | none, none => some (put name (.link target false) before)
      | _, _ => none) = some after) :
    before.lookup name = none ∧ after = put name (.link target false) before := by
  split at edited
  · next absent _ => exact ⟨absent, (Option.some.inj edited).symm⟩
  · cases edited

theorem makeLink_lays {target : Bytes} (made : makeLink way target tree = some next) :
    Lays [] (only way (.link target)) tree next := by
  refine changeLast_lays (PutsLeaf.mk ?_ (Tidy.link target) ?_ ?_) made
  · simp [node]
  · intro name before after edited
    exact (makeLink_edit edited).2
  · intro name before after edited child held
    rw [(makeLink_edit edited).1] at held
    cases held

/-- A link is made only where nothing stands. -/
theorem makeLink_free {target : Bytes} (made : makeLink way target tree = some next) :
    node? way tree = none := by
  rcases changeLast_eq_some made with ⟨front, last, rfl, edits⟩
  rcases exists_changeEntries edits with ⟨before, after, condition, here, edited, _⟩
  rw [node?_append, here, Option.bind_some, node?_directory, (makeLink_edit edited).1]
  rfl

end Leaves

end FileTree
end ProcInspection
