import ProcInspection.Proofs.FileSystem
import ProcInspection.Proofs.FileTree.Trail

namespace ProcInspection
namespace FileTree

/-!
What stands where.

Of a tree only one thing matters to a read: what stands at the end of each way.
In a tidy tree everything is open and the names in a directory are distinct.
There a path below an existing directory is read as its way says, as long as no
link is in the way, also when the path runs through dots before it gets to that
directory.
-/

/-- What stands at a place, without what is below it. -/
inductive Node where
  | directory
  | file (content : Bytes)
  | link (target : Bytes)
  deriving DecidableEq

def node : FileTree -> Node
  | .directory _ _ => .directory
  | .file content _ => .file content
  | .link target _ => .link target

def node? (way : List Bytes) (tree : FileTree) : Option Node :=
  (subtree? way tree).map node

@[simp]
theorem node?_nil (tree : FileTree) : node? [] tree = some tree.node :=
  rfl

@[simp]
theorem node?_directory (name : Bytes) (way : List Bytes) (entries : List (Bytes × FileTree))
    (condition : Condition) :
    node? (name :: way) (.directory entries condition) = (entries.lookup name).bind (node? way) := by
  rw [node?, subtree?]
  cases entries.lookup name <;> rfl

theorem node?_append (front back : List Bytes) (tree : FileTree) :
    node? (front ++ back) tree = (subtree? front tree).bind (node? back) := by
  unfold node?
  rw [subtree?_append]
  cases subtree? front tree <;> rfl

/-- Whatever stands somewhere stands in a directory. -/
theorem node?_above {front back : List Bytes} {tree : FileTree} {what : Node} (below : back ≠ [])
    (stands : node? (front ++ back) tree = some what) : node? front tree = some .directory := by
  rw [node?_append] at stands
  rcases Option.bind_eq_some_iff.mp stands with ⟨child, found, inside⟩
  rw [node?, found, Option.map_some]
  cases back with
  | nil => exact (below rfl).elim
  | cons name back =>
      cases child with
      | directory entries condition => rfl
      | file content closed => cases inside
      | link target closed => cases inside

/-- Nothing but directories stands along the names behind a way. -/
def Clear (way names : List Bytes) (tree : FileTree) : Prop :=
  forall front what, front <+: names -> node? (way ++ front) tree = some what -> what = .directory

theorem Clear.nil {way : List Bytes} {tree : FileTree} (stands : node? way tree = some .directory) :
    Clear way [] tree := by
  intro front what through found
  rw [List.prefix_nil.mp through, List.append_nil, stands] at found
  exact (Option.some.inj found).symm

theorem Clear.concat {way names : List Bytes} {tree : FileTree} {name : Bytes}
    (clear : Clear way names tree) (last : forall what,
      node? (way ++ (names ++ [name])) tree = some what -> what = .directory) :
    Clear way (names ++ [name]) tree := by
  intro front what through found
  rcases List.prefix_concat_iff.mp through with rfl | before
  · exact last what found
  · exact clear front what before found

theorem mem_names_iff (name : Bytes) (entries : List (Bytes × FileTree)) :
    name ∈ entries.map Prod.fst <-> (entries.lookup name).isSome = true := by
  simp only [List.lookup_isSome_iff, List.mem_map, beq_iff_eq]
  constructor
  · rintro ⟨entry, member, same⟩
    exact ⟨entry, member, same.symm⟩
  · rintro ⟨entry, member, same⟩
    exact ⟨entry, member, same.symm⟩

/-- Everything is open and the names of a directory are distinct. -/
inductive Tidy : FileTree -> Prop where
  | file (content : Bytes) : Tidy (.file content false)
  | link (target : Bytes) : Tidy (.link target false)
  | directory {entries : List (Bytes × FileTree)} (distinct : (entries.map Prod.fst).Nodup)
      (inside : forall name child, entries.lookup name = some child -> Tidy child) :
      Tidy (.directory entries .free)

theorem Tidy.of_forall {entries : List (Bytes × FileTree)} (distinct : (entries.map Prod.fst).Nodup)
    (inside : forall entry, entry ∈ entries -> Tidy entry.2) : Tidy (.directory entries .free) := by
  refine .directory distinct fun name child held => ?_
  rcases List.lookup_eq_some_iff.mp held with ⟨before, after, whole, _⟩
  exact inside (name, child) (whole ▸ List.mem_append_right before List.mem_cons_self)

theorem Tidy.subtree {tree child : FileTree} (tidy : Tidy tree) {way : List Bytes}
    (found : tree.subtree? way = some child) : Tidy child := by
  induction way generalizing tree with
  | nil => exact Option.some.inj found ▸ tidy
  | cons name way ih =>
      cases tidy with
      | file content => cases found
      | link target => cases found
      | directory distinct inside =>
          rcases Option.bind_eq_some_iff.mp found with ⟨below, held, found⟩
          exact ih (inside name below held) found

/-- A directory of a tidy tree is an open one. -/
theorem Tidy.open_directory {tree : FileTree} (tidy : Tidy tree) (same : tree.node = .directory) :
    Exists fun entries : List (Bytes × FileTree) =>
      tree = .directory entries .free ∧ (entries.map Prod.fst).Nodup := by
  cases tidy with
  | file content => cases same
  | link target => cases same
  | directory distinct inside => exact ⟨_, rfl, distinct⟩

/-! ## Walks -/

namespace Place

variable {place : Place} {name : Bytes} {names : List Bytes}

/-- A step along a short name out of an open directory is a lookup. -/
theorem step_of_free {entries : List (Bytes × FileTree)} (inside : place.tree = .directory entries .free)
    (plain : Path.IsName name) (short : name.length ≤ longestName) :
    place.step name =
      match entries.lookup name with
      | some child => .ok ⟨child, (name, place.tree) :: place.way⟩
      | none => .error (.ofSystem .noSuchEntry) := by
  have searchable : Condition.free.searchable = true := rfl
  have looked := step_of_isName inside plain
  rw [if_pos searchable, if_neg (Nat.not_lt_of_le short)] at looked
  exact looked

/-- What stands at the end of plain names is come to by walking along them. -/
theorem advance_found (tidy : Tidy place.tree) (plain : forall name, name ∈ names -> Path.IsName name)
    (short : forall name, name ∈ names -> name.length ≤ longestName) {child : FileTree}
    (found : place.tree.subtree? names = some child) :
    Exists fun next : Place => place.advance names = .ok (next, []) ∧ next.tree = child := by
  induction names generalizing place with
  | nil => exact ⟨place, rfl, Option.some.inj found⟩
  | cons name names ih =>
      have here : place.tree.node = .directory := by
        have stands : node? ([] ++ name :: names) place.tree = some child.node := by
          rw [List.nil_append, node?, found, Option.map_some]
        exact Option.some.inj (node?_above (List.cons_ne_nil name names) stands)
      rcases tidy.open_directory here with ⟨entries, inside, _⟩
      rw [inside] at found
      rcases Option.bind_eq_some_iff.mp found with ⟨below, held, found⟩
      have step := step_of_free inside (plain name List.mem_cons_self) (short name List.mem_cons_self)
      rw [held] at step
      rw [advance_cons name names (isLink_of_directory inside), step]
      rw [inside] at tidy
      cases tidy with
      | directory distinct each =>
          exact ih (each name below held)
            (fun other member => plain other (List.mem_cons_of_mem name member))
            (fun other member => short other (List.mem_cons_of_mem name member)) found

/-- Where nothing but directories is in the way, a missing entry is reported as
one. -/
theorem advance_missing (tidy : Tidy place.tree)
    (plain : forall name, name ∈ names -> Path.IsName name)
    (short : forall name, name ∈ names -> name.length ≤ longestName)
    (clear : forall front what, front <+: names -> node? front place.tree = some what ->
      what = .directory)
    (missing : node? names place.tree = none) :
    place.advance names = .error (.ofSystem .noSuchEntry) := by
  induction names generalizing place with
  | nil => cases missing
  | cons name names ih =>
      have here := clear [] _ List.nil_prefix (node?_nil place.tree)
      rcases tidy.open_directory here with ⟨entries, inside, _⟩
      have step := step_of_free inside (plain name List.mem_cons_self) (short name List.mem_cons_self)
      rw [inside] at missing
      rw [node?_directory] at missing
      rw [advance_cons name names (isLink_of_directory inside), step]
      cases held : entries.lookup name with
      | none => rfl
      | some below =>
          rw [held, Option.bind_some] at missing
          rw [inside] at tidy
          cases tidy with
          | directory distinct each =>
              apply ih (each name below held)
                (fun other member => plain other (List.mem_cons_of_mem name member))
                (fun other member => short other (List.mem_cons_of_mem name member)) _ missing
              intro front what through stands
              apply clear (name :: front) what (List.cons_prefix_cons.mpr ⟨rfl, through⟩)
              rw [inside, node?_directory, held]
              exact stands

/-- Names that lead from directory to directory can be walked. -/
theorem advance_directories {tree : FileTree} (tidy : Tidy tree) (within : Within tree place)
    (short : forall name, name ∈ names -> name.length ≤ longestName)
    (passed : forall front, front <+: names ->
      node? (front.foldl Path.turn place.names) tree = some .directory) :
    Exists fun next : Place => place.advance names = .ok (next, []) := by
  induction names generalizing place with
  | nil => exact ⟨place, rfl⟩
  | cons name names ih =>
      have stands := passed [] List.nil_prefix
      rw [List.foldl_nil, node?, within.subtree?, Option.map_some] at stands
      rcases (tidy.subtree within.subtree?).open_directory (Option.some.inj stands)
        with ⟨entries, inside, _⟩
      have ahead := passed [name] (List.cons_prefix_cons.mpr ⟨rfl, List.nil_prefix⟩)
      rw [List.foldl_cons, List.foldl_nil] at ahead
      have stepped : Exists fun next : Place => place.step name = .ok next := by
        unfold step
        rw [inside]
        by_cases stays : name = Path.dot
        · exact ⟨place, by simp only [Condition.free, if_pos stays, if_true]⟩
        · by_cases up : name = Path.dotDot
          · exact ⟨place.parent, by simp only [Condition.free, if_neg stays, if_pos up, if_true]⟩
          · rw [Path.turn, if_neg stays, if_neg up, node?_append, within.subtree?,
              Option.bind_some, inside, node?_directory] at ahead
            rcases Option.bind_eq_some_iff.mp ahead with ⟨child, held, _⟩
            have fits : ¬ longestName < name.length :=
              Nat.not_lt_of_le (short name List.mem_cons_self)
            simp only [Condition.free, if_neg stays, if_neg up, if_neg fits, held, if_true]
            exact ⟨_, rfl⟩
      rcases stepped with ⟨next, stepped⟩
      have reached := step_within within stepped
      rw [advance_cons name names (isLink_of_directory inside), stepped]
      apply ih reached.1 (fun other member => short other (List.mem_cons_of_mem name member))
      intro front through
      rw [reached.2]
      exact passed (name :: front) (List.cons_prefix_cons.mpr ⟨rfl, through⟩)

end Place

/-! ## Paths below a directory -/

open FileSystem (pathFault? pathLimit linkLimit)

/-- A path that leads from directory to directory, dots included. -/
structure Rooted (base : Path) (tree : FileTree) : Prop where
  taken : pathFault? base = none
  absolute : base.isAbsolute = true
  short : forall name, name ∈ base.parts -> name.length ≤ Place.longestName
  passed : forall front, front <+: base.parts -> node? (Path.locate front) tree = some .directory

theorem Rooted.stands {base : Path} {tree : FileTree} (rooted : Rooted base tree) :
    node? (Path.locate base.parts) tree = some .directory :=
  rooted.passed base.parts (List.prefix_refl _)

/-- A path that goes on from a base with plain names. -/
structure Descends (base path : Path) (names : List Bytes) : Prop where
  under : base.Under path names
  plain : forall name, name ∈ names -> Path.IsName name

theorem Descends.join {base path : Path} {names : List Bytes} (descends : Descends base path names)
    {name : Bytes} (plain : Path.IsName name) :
    Descends base (path.join ⟨name⟩) (names ++ [name]) := by
  refine ⟨descends.under.join plain, ?_⟩
  intro other member
  rcases List.mem_append.mp member with before | last
  · exact descends.plain other before
  · exact List.mem_singleton.mp last ▸ plain

/-- Such a path, if the system takes it. -/
structure Leads (base path : Path) (names : List Bytes) : Prop extends
    Descends base path names where
  short : forall name, name ∈ names -> name.length ≤ Place.longestName
  taken : pathFault? path = none

theorem pathFault?_of_fits {path : Path} {bound : Nat} (fits : path.Fits bound)
    (room : bound < pathLimit) (absolute : path.isAbsolute = true) : pathFault? path = none := by
  have nonempty : path.bytes.isEmpty = false := by
    cases shown : path.bytes with
    | nil => simp [Path.isAbsolute, shown] at absolute
    | cons first rest => rfl
  have short : ¬ pathLimit ≤ path.bytes.length :=
    Nat.not_le_of_lt (Nat.lt_of_le_of_lt fits.short room)
  simp [pathFault?, fits.noZero, nonempty, short]

theorem fits_of_pathFault? {path : Path} (taken : pathFault? path = none) :
    path.Fits path.bytes.length := by
  refine ⟨?_, Nat.le_refl _⟩
  intro zero
  simp [pathFault?, zero] at taken

section Below

variable {base path : Path} {files : FileSystem} {names : List Bytes} (tidy : Tidy files.tree)
  (rooted : Rooted base files.tree)

include tidy rooted

/-- A base is walked without a link to what stands at the end of its way. -/
theorem exists_base :
    Exists fun start : Place =>
      subtree? (Path.locate base.parts) files.tree = some start.tree ∧
        (Place.top files.tree).advance base.parts = .ok (start, []) ∧ start.isLink = false := by
  rcases Place.advance_directories tidy .top rooted.short rooted.passed with ⟨start, advanced⟩
  rcases Place.advance_within .top advanced with ⟨within, front, whole, ends⟩
  rw [List.append_nil] at whole
  have found : subtree? (Path.locate base.parts) files.tree = some start.tree := by
    have seen := within.subtree?
    rw [ends, ← whole] at seen
    exact seen
  have directory := rooted.stands
  rw [node?, found, Option.map_some] at directory
  rcases (tidy.subtree found).open_directory (Option.some.inj directory) with ⟨entries, inside, _⟩
  exact ⟨start, found, advanced, Place.isLink_of_directory inside⟩

theorem subtree_of_find {held : FileTree} (seen : files.find true base = .ok held) :
    subtree? (Path.locate base.parts) files.tree = some held := by
  rcases exists_base tidy rooted with ⟨start, here, advanced, bare⟩
  rcases FileSystem.find_eq_ok seen with ⟨arrival, resolved, inside⟩
  rcases FileSystem.resolve_eq_ok resolved with ⟨_, top, begins, came⟩
  rw [FileSystem.origin?, if_pos rooted.absolute] at begins
  rw [← Option.some.inj begins] at came
  have ends := FileSystem.travel_parts came
  rw [Place.travel_of_settled advanced (Or.inl bare)] at ends
  rw [here, ← inside, ← Except.ok.inj ends]

/-- A path below a base is walked from where the base leads to. -/
theorem exists_start (descends : Descends base path names) (taken : pathFault? path = none) :
    Exists fun start : Place =>
      subtree? (Path.locate base.parts) files.tree = some start.tree ∧
        forall onward, files.resolve onward path = start.travel onward linkLimit names := by
  rcases exists_base tidy rooted with ⟨start, here, advanced, bare⟩
  refine ⟨start, here, ?_⟩
  intro onward
  have begins : files.origin? path = some (.top files.tree) := by
    rw [FileSystem.origin?, descends.under.start, if_pos rooted.absolute]
  rw [FileSystem.resolve_of_origin taken begins, descends.under.names]
  exact Place.travel_congr (Place.advance_append_of_bare names advanced bare) onward linkLimit

/-- What stands at the end of a way is found there.  A link has to be asked for
itself. -/
theorem find_of_subtree (leads : Leads base path names) {found : FileTree}
    (stands : subtree? (Path.locate base.parts ++ names) files.tree = some found) (onward : Bool)
    (settled : onward = true -> forall target, found.node ≠ .link target) :
    files.find onward path = .ok found := by
  rcases exists_start tidy rooted leads.toDescends leads.taken with ⟨start, here, same⟩
  rw [subtree?_append, here, Option.bind_some] at stands
  rcases Place.advance_found (tidy.subtree here) leads.plain leads.short stands
    with ⟨next, advanced, ends⟩
  have rests : next.isLink = false ∨ ([] = ([] : List Bytes) ∧ onward = false) := by
    cases onward with
    | false => exact Or.inr ⟨rfl, rfl⟩
    | true =>
        refine Or.inl (Bool.eq_false_iff.mpr fun link => ?_)
        rcases Place.isLink_iff.mp link with ⟨target, closed, inside⟩
        exact settled rfl target (by rw [← ends, inside]; rfl)
  rw [FileSystem.find, same, Place.travel_of_settled advanced rests, ← ends]

theorem read_of_file (leads : Leads base path names) {content : Bytes}
    (stands : node? (Path.locate base.parts ++ names) files.tree = some (.file content)) :
    files.read path = .ok content := by
  rcases Option.map_eq_some_iff.mp stands with ⟨found, here, same⟩
  have whole := tidy.subtree here
  have seen := find_of_subtree tidy rooted leads here true fun _ target link => by
    rw [same] at link
    cases link
  cases whole with
  | file held =>
      rw [FileSystem.read, seen]
      cases same
      rfl
  | link target => cases same
  | directory distinct inside => cases same

theorem readLink_of_link (leads : Leads base path names) {target : Bytes}
    (stands : node? (Path.locate base.parts ++ names) files.tree = some (.link target)) :
    files.readLink path = .ok target := by
  rcases Option.map_eq_some_iff.mp stands with ⟨found, here, same⟩
  have whole := tidy.subtree here
  have seen := find_of_subtree tidy rooted leads here false fun impossible => by
    cases impossible
  cases whole with
  | link held =>
      rw [FileSystem.readLink, seen]
      cases same
      rfl
  | file content => cases same
  | directory distinct inside => cases same

/-- A target that is read is that of the link at the end of the way, if there
is no other link on it. -/
theorem link_of_readLink {name : Bytes} (descends : Descends base path (names ++ [name]))
    (clear : Clear (Path.locate base.parts) names files.tree) {target : Bytes}
    (seen : files.readLink path = .ok target) :
    node? (Path.locate base.parts ++ (names ++ [name])) files.tree = some (.link target) := by
  unfold FileSystem.readLink FileSystem.find at seen
  cases resolved : files.resolve false path with
  | error failure =>
      rw [resolved] at seen
      cases seen
  | ok arrival =>
      rcases exists_start tidy rooted descends (FileSystem.resolve_eq_ok resolved).1
        with ⟨start, here, same⟩
      have bare : Straight true names start.tree := by
        intro front rest split _ link closed inside
        have stands : node? (Path.locate base.parts ++ front) files.tree = some (.link link) := by
          rw [node?_append, here, Option.bind_some, node?, inside]
          rfl
        cases clear front _ ⟨rest, split.symm⟩ stands
      have found := (Place.travel_of_straight (bare.concat name) descends.plain
        ((same false).symm.trans resolved)).2
      rw [node?_append, here, Option.bind_some, node?, found, Option.map_some]
      rw [resolved] at seen
      cases inside : arrival.place.tree with
      | file content closed =>
          simp only [inside] at seen
          cases seen
      | directory entries condition =>
          simp only [inside] at seen
          cases seen
      | link held closed =>
          cases closed with
          | true =>
              simp only [inside] at seen
              cases seen
          | false =>
              simp only [inside] at seen
              rw [← Except.ok.inj seen]
              rfl

/-- A directory lists each name that something stands under, once. -/
theorem list_of_directory (leads : Leads base path names)
    (stands : node? (Path.locate base.parts ++ names) files.tree = some .directory) :
    Exists fun listed : List Bytes => files.list path = .ok listed ∧ listed.Nodup ∧
      forall name, name ∈ listed <->
        Exists fun what : Node =>
          node? (Path.locate base.parts ++ (names ++ [name])) files.tree = some what := by
  rcases Option.map_eq_some_iff.mp stands with ⟨found, here, same⟩
  have seen := find_of_subtree tidy rooted leads here true fun _ target link => by
    rw [same] at link
    cases link
  rcases (tidy.subtree here).open_directory same with ⟨entries, inside, distinct⟩
  rw [inside] at seen
  refine ⟨entries.map Prod.fst, ?_, distinct, ?_⟩
  · rw [FileSystem.list, seen]
    rfl
  · intro name
    rw [← List.append_assoc, node?_append, here, Option.bind_some, inside, node?_directory,
      mem_names_iff, Option.isSome_iff_exists]
    cases entries.lookup name with
    | none => simp
    | some child => simp

/-- Where nothing but directories is in the way, a path to a missing entry is
reported as one. -/
theorem find_missing (leads : Leads base path names)
    (clear : Clear (Path.locate base.parts) names files.tree)
    (missing : node? (Path.locate base.parts ++ names) files.tree = none) :
    files.find true path = .error (.ofSystem .noSuchEntry) := by
  rcases exists_start tidy rooted leads.toDescends leads.taken with ⟨start, here, same⟩
  rw [node?_append, here, Option.bind_some] at missing
  have failed := Place.advance_missing (tidy.subtree here) leads.plain leads.short (by
    intro front what through stands
    apply clear front what through
    rw [node?_append, here, Option.bind_some]
    exact stands) missing
  rw [FileSystem.find, same, Place.travel_of_failed failed]

end Below

end FileTree
end ProcInspection
