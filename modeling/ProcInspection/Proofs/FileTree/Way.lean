import ProcInspection.Proofs.FileTree.Build

namespace ProcInspection
namespace FileTree

/-!
What a change at a path leaves below another path.

A path that changes are made at goes on from a base with plain names.  The base
leads from directory to directory, dots included, so following it makes
nothing, and the change is one at the way of the names behind it.  No change is
made behind a link.
-/

/-! ## Ways of paths -/

section Ways

variable {way last names : List Bytes} {tree next : FileTree}

/-- The places that are passed on the way along names. -/
def Passes (way names place : List Bytes) : Prop :=
  Exists fun front : List Bytes => front <+: names ∧ place <+: front.foldl Path.turn way

theorem passes_nil (place : List Bytes) : Passes way [] place <-> place <+: way := by
  simp [Passes]

theorem passes_cons (name : Bytes) (place : List Bytes) :
    Passes way (name :: names) place <-> place <+: way ∨ Passes (Path.turn way name) names place := by
  constructor
  · rintro ⟨front, through, below⟩
    cases front with
    | nil => exact Or.inl below
    | cons other front =>
        rcases List.cons_prefix_cons.mp through with ⟨rfl, onward⟩
        exact Or.inr ⟨front, onward, below⟩
  · rintro (here | ⟨front, through, below⟩)
    · exact ⟨[], List.nil_prefix, here⟩
    · exact ⟨name :: front, List.cons_prefix_cons.mpr ⟨rfl, through⟩, below⟩

theorem node?_passed {place : List Bytes} (stands : node? way tree = some .directory)
    (through : place <+: way) : node? place tree = some .directory := by
  rcases through with ⟨rest, rfl⟩
  cases rest with
  | nil =>
      rw [List.append_nil] at stands
      exact stands
  | cons name rest => exact node?_above (List.cons_ne_nil name rest) stands

/-- What following names makes: directories at the places that are passed, and
nothing else. -/
structure Paves (way names last : List Bytes) (tree next : FileTree) : Prop where
  ends : last = names.foldl Path.turn way
  short : forall name, name ∈ names -> name.length ≤ Place.longestName
  on : forall place, Passes way names place -> node? place next = some .directory
  off : forall place, ¬ Passes way names place -> node? place next = node? place tree
  keeps : Keeps tree next
  tidy : Tidy tree -> Tidy next

/-- A directory that is there need not be made. -/
theorem directories_or (stands : node? way tree = some .directory) (place : List Bytes) :
    (directories way place).or (node? place tree) = node? place tree := by
  by_cases through : place <+: way
  · rw [node?_passed stands through, directories, if_pos through]
    rfl
  · rw [directories, if_neg through, Option.none_or]

theorem Paves.nil (stands : node? way tree = some .directory) : Paves way [] way tree tree where
  ends := rfl
  short _ member := by cases member
  on place passes := node?_passed stands ((passes_nil place).mp passes)
  off _ _ := rfl
  keeps _ _ found _ := found
  tidy := id

theorem Paves.cons {name : Bytes} {middle : FileTree} (stands : node? way tree = some .directory)
    (short : name.length ≤ Place.longestName)
    (step : Lays [] (directories (Path.turn way name)) tree middle)
    (rest : Paves (Path.turn way name) names last middle next) :
    Paves way (name :: names) last tree next where
  ends := rest.ends
  short := by
    intro other member
    rcases List.mem_cons.mp member with rfl | later
    · exact short
    · exact rest.short other later
  on := by
    intro place passes
    rcases (passes_cons name place).mp passes with here | later
    · have lasts : forall content, Node.directory ≠ .file content := fun _ same => by cases same
      exact rest.keeps _ _ (step.keeps _ _ (node?_passed stands here) lasts) lasts
    · exact rest.on place later
  off := by
    intro place outside
    rw [passes_cons, not_or] at outside
    have beside : ¬ place <+: Path.turn way name := fun here =>
      outside.2 ⟨[], List.nil_prefix, here⟩
    have same := step.stands place
    rw [directories, if_neg beside, Option.none_or] at same
    exact (rest.off place outside.2).trans same
  keeps := step.keeps.trans rest.keeps
  tidy tidy := rest.tidy (step.tidy tidy)

/-- Going to where a directory stands changes nothing. -/
theorem Lays.still (stands : node? way tree = some .directory) :
    Lays [] (directories way) tree tree where
  stands place := (directories_or stands place).symm
  keeps _ _ found _ := found
  tidy := id

theorem Lays.stands_directory (lays : Lays [] (directories way) tree next) :
    node? way next = some .directory := by
  rw [← List.nil_append way, lays.stands, directories, if_pos (List.prefix_refl way)]
  rfl

theorem makeWay_paves (stands : node? way tree = some .directory)
    (made : makeWay tree way names = some (next, last)) : Paves way names last tree next := by
  induction names generalizing way tree with
  | nil =>
      rcases Prod.mk.inj (Option.some.inj made) with ⟨rfl, rfl⟩
      exact .nil stands
  | cons name names ih =>
      rw [makeWay] at made
      by_cases stays : name = Path.dot
      · have turn : Path.turn way name = way := if_pos stays
        rw [if_pos stays] at made
        refine .cons stands (by rw [stays]; decide) (Lays.still (turn.symm ▸ stands)) ?_
        rw [turn]
        exact ih stands made
      · rw [if_neg stays] at made
        by_cases up : name = Path.dotDot
        · have turn : Path.turn way name = way.dropLast := by
            rw [Path.turn, if_neg stays, if_pos up]
          have above := node?_passed stands (List.dropLast_prefix way)
          rw [if_pos up] at made
          refine .cons stands (by rw [up]; decide) (Lays.still (turn.symm ▸ above)) ?_
          rw [turn]
          exact ih above made
        · have turn : Path.turn way name = way ++ [name] := by
            rw [Path.turn, if_neg stays, if_neg up]
          rw [if_neg up] at made
          by_cases plain : isPlainName name = true
          · rw [if_pos plain] at made
            have short : name.length ≤ Place.longestName := by
              rw [isPlainName, Bool.and_eq_true, decide_eq_true_iff] at plain
              exact plain.2
            cases paved : makeDirectories (way ++ [name]) tree with
            | none =>
                rw [paved] at made
                cases made
            | some middle =>
                rw [paved] at made
                have step := makeDirectories_lays paved
                refine .cons stands short (turn.symm ▸ step) ?_
                rw [turn]
                exact ih step.stands_directory made
          · rw [if_neg plain] at made
            cases made

end Ways

/-! ## Changes at paths -/

section Paths

variable {base path : Path} {names : List Bytes} {tree next : FileTree}

/-- A tree in which the directories of a path were made. -/
theorem rooted_of_makePath (stands : tree.node = .directory) (made : makePath base tree = some next) :
    Rooted base next ∧ (Tidy tree -> Tidy next) := by
  unfold makePath at made
  by_cases takes : takesPath base = true
  · rw [if_pos takes] at made
    rcases Option.map_eq_some_iff.mp made with ⟨⟨built, last⟩, way, rfl⟩
    have paves := makeWay_paves (by rw [node?_nil, stands]) way
    rw [takesPath, Bool.and_eq_true] at takes
    refine ⟨⟨Option.isNone_iff_eq_none.mp takes.2, takes.1, paves.short, ?_⟩, paves.tidy⟩
    intro front through
    exact paves.on _ ⟨front, through, List.prefix_refl _⟩
  · rw [if_neg takes] at made
    cases made

/-- Following names from a rooted path makes what is missing behind it. -/
theorem makeWay_lays (rooted : Rooted base tree) (plain : forall name, name ∈ names -> Path.IsName name)
    {last : List Bytes} (made : makeWay tree [] (base.parts ++ names) = some (next, last)) :
    Lays (Path.locate base.parts) (directories names) tree next := by
  have top : node? [] tree = some .directory := rooted.passed [] List.nil_prefix
  have paves := makeWay_paves top made
  refine ⟨?_, paves.keeps, paves.tidy⟩
  intro place
  by_cases through : place <+: names
  · have passes : Passes [] (base.parts ++ names) (Path.locate base.parts ++ place) := by
      refine ⟨base.parts ++ place, (List.prefix_append_right_inj _).mpr through, ?_⟩
      rw [List.foldl_append, Path.foldl_turn_of_isName fun name member => plain name (through.mem member)]
      exact List.prefix_refl _
    rw [paves.on _ passes, directories, if_pos through]
    rfl
  · rw [directories, if_neg through, Option.none_or]
    by_cases passes : Passes [] (base.parts ++ names) (Path.locate base.parts ++ place)
    · rw [paves.on _ passes]
      rcases passes with ⟨front, on, below⟩
      rcases List.prefix_or_prefix_of_prefix on (List.prefix_append base.parts names)
        with within | ⟨rest, rfl⟩
      · exact (node?_passed (rooted.passed front within) below).symm
      · have onward := (List.prefix_append_right_inj _).mp on
        rw [List.foldl_append, Path.foldl_turn_of_isName fun name member => plain name (onward.mem member)]
          at below
        exact (through (((List.prefix_append_right_inj _).mp below).trans onward)).elim
    · exact paves.off _ passes

theorem makePath_lays (rooted : Rooted base tree) (descends : Descends base path names)
    (made : makePath path tree = some next) :
    Lays (Path.locate base.parts) (directories names) tree next := by
  unfold makePath at made
  by_cases takes : takesPath path = true
  · rw [if_pos takes, descends.under.parts] at made
    rcases Option.map_eq_some_iff.mp made with ⟨⟨built, last⟩, way, rfl⟩
    exact makeWay_lays rooted descends.plain way
  · rw [if_neg takes] at made
    cases made

/-- A change at a path below a base is one at the way of its names. -/
theorem changeAt_eq {change : List Bytes -> FileTree -> Option FileTree}
    (descends : Descends base path names) (below : names ≠ [])
    (done : changeAt path change tree = some next) :
    change (Path.locate base.parts ++ names) tree = some next := by
  rcases List.eq_nil_or_concat names with empty | ⟨front, name, whole⟩
  · exact (below empty).elim
  rw [List.concat_eq_append] at whole
  subst whole
  unfold changeAt at done
  by_cases takes : takesPath path = true
  · rw [if_pos takes] at done
    rcases Option.bind_eq_some_iff.mp done with ⟨way, leads, changed⟩
    have own := descends.plain name (List.mem_append_right front List.mem_cons_self)
    have noDots : ¬ isDots name = true := by
      simp [isDots, own.notDot, own.notDotDot]
    rw [wayTo?, descends.under.parts, ← List.append_assoc, List.getLast?_concat,
      List.dropLast_concat] at leads
    simp only [if_neg noDots] at leads
    split at leads
    · rcases Option.map_eq_some_iff.mp leads with ⟨reach, found, rfl⟩
      rw [wayOf?] at found
      split at found
      · rename_i place advanced
        rcases (Place.advance_within .top advanced).2 with ⟨passed, all, reached⟩
        rw [List.append_nil] at all
        rw [← all, List.foldl_append,
          Path.foldl_turn_of_isName fun other member =>
            descends.plain other (List.mem_append_left _ member)] at reached
        rw [← Option.some.inj found, reached, List.append_assoc] at changed
        exact changed
      · cases found
    · cases leads
  · rw [if_neg takes] at done
    cases done

theorem Lays.nothing (way : List Bytes) (tree : FileTree) : Lays way (fun _ => none) tree tree where
  stands place := by rw [Option.none_or]
  keeps _ _ found _ := found
  tidy := id

/-- A change at one place, seen from a way to that place. -/
theorem Lays.below {way : List Bytes} {what : Node}
    (lays : Lays [] (only (way ++ names) what) tree next) : Lays way (only names what) tree next where
  stands place := by
    have same := lays.stands (way ++ place)
    simp only [only, List.nil_append, List.append_cancel_left_eq] at same
    exact same
  keeps := lays.keeps
  tidy := lays.tidy

section Leaf

variable (descends : Descends base path names) (below : names ≠ [])

include descends below

theorem writeAt_lays {content : Bytes} (written : writeAt path content tree = some next) :
    Lays (Path.locate base.parts) (only names (.file content)) tree next :=
  (writeFile_lays (changeAt_eq descends below written)).below

theorem linkAt_lays {target : Bytes}
    (made : changeAt path (fun way => makeLink way target) tree = some next) :
    Lays (Path.locate base.parts) (only names (.link target)) tree next :=
  (makeLink_lays (changeAt_eq descends below made)).below

theorem linkAt_free {target : Bytes}
    (made : changeAt path (fun way => makeLink way target) tree = some next) :
    node? (Path.locate base.parts ++ names) tree = none :=
  makeLink_free (changeAt_eq descends below made)

theorem writeBelow_lays {content : Bytes} (rooted : Rooted base tree)
    (written : writeBelow path content tree = some next) :
    Lays (Path.locate base.parts)
      (fun place => (only names (.file content) place).or (directories names.dropLast place))
      tree next := by
  rw [writeBelow, descends.under.parts, List.dropLast_append_of_ne_nil below] at written
  cases way : makeWay tree [] (base.parts ++ names.dropLast) with
  | none =>
      rw [way] at written
      cases written
  | some result =>
      rw [way] at written
      have inside : forall name, name ∈ names.dropLast -> Path.IsName name := fun name member =>
        descends.plain name (List.mem_of_mem_dropLast member)
      exact (makeWay_lays rooted inside way).trans (writeAt_lays descends below written)

theorem writeIfGiven_lays {content : Option Bytes}
    (written : writeIfGiven path content tree = some next) :
    Lays (Path.locate base.parts)
      (fun place => content.bind fun given => only names (.file given) place) tree next := by
  cases content with
  | none => exact Option.some.inj written ▸ Lays.nothing _ tree
  | some given => exact writeAt_lays descends below written

end Leaf

end Paths

end FileTree
end ProcInspection
