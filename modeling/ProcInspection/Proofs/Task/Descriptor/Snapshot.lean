import ProcInspection.Proofs.Failure
import ProcInspection.Proofs.FileSystem.Entry
import ProcInspection.Proofs.FileTree.View
import ProcInspection.Proofs.Task.Descriptor

namespace ProcInspection
namespace Descriptor

/-!
What a snapshot of the descriptors keeps.

A snapshot fails only as a whole, where the directory cannot be listed.  Once
it is listed, every entry counts for itself.  An entry is kept if its name is a
number and it is a link that can be read; what it is kept as depends on nothing
but its own name and its own target.  All other entries are passed over, and
what becomes of them is seen nowhere in the snapshot.  So are those that the
listing itself fails on.
-/

variable {files : FileSystem} {root : ProcRoot} {pid : ProcessId} {directory : Path} {name : Bytes}

/-- An entry whose name is a number of 32 bits and whose link can be read. -/
structure IsReadable (files : FileSystem) (directory : Path) (name : Bytes) : Prop where
  numbered : Decimal.IsNumberName name
  readable : Exists fun target : Bytes => files.readLink (directory.join ⟨name⟩) = .ok target

/-- What an entry of a directory shows: the number in its name, and the target
of the link that stands under this name in the directory itself. -/
inductive Shows (entries : List (Bytes × FileTree)) (name : Bytes) : Descriptor -> Prop where
  | link {number : UInt32} {target : Bytes}
      (numbered : Decimal.Denotes (name.map UInt8.toNat) number.toNat)
      (linked : entries.lookup name = some (.link target false)) :
      Shows entries name (ofTarget number (Utf8.decodeLossy target))

/-! ## One entry -/

/-- The descriptor of one name, if it has one. -/
def ofName? (files : FileSystem) (directory : Path) (name : Bytes) : Option Descriptor :=
  (Decimal.ofName? name).bind fun number => (readEntry files directory name number).descriptor?

theorem ofName?_eq_some_iff {descriptor : Descriptor} :
    ofName? files directory name = some descriptor <->
      Exists fun number : UInt32 => Decimal.ofName? name = some number ∧
        Exists fun target : Bytes => files.readLink (directory.join ⟨name⟩) = .ok target ∧
          descriptor = ofTarget number (Utf8.decodeLossy target) := by
  simp only [ofName?, Option.bind_eq_some_iff, descriptor?_readEntry_iff]

theorem isSome_ofName?_iff :
    (ofName? files directory name).isSome = true <-> IsReadable files directory name := by
  rw [Option.isSome_iff_exists]
  constructor
  · rintro ⟨descriptor, shown⟩
    rcases ofName?_eq_some_iff.mp shown with ⟨number, numbered, target, read, _⟩
    exact ⟨(Decimal.isNumberName_iff name).mpr ⟨number, numbered⟩, target, read⟩
  · rintro ⟨numbered, target, read⟩
    rcases (Decimal.isNumberName_iff name).mp numbered with ⟨number, numbered⟩
    exact ⟨_, ofName?_eq_some_iff.mpr ⟨number, numbered, target, read, rfl⟩⟩

instance : DecidablePred (IsReadable files directory) :=
  fun _ => decidable_of_iff _ isSome_ofName?_iff

theorem enumerate_of_list {names : List Bytes}
    (listed : files.list (root.descriptorDir pid) = .ok names) :
    enumerate files root pid = .ok (names.filterMap (ofName? files (root.descriptorDir pid))) := by
  unfold enumerate readEntries
  rw [listed]
  simp only [List.filterMap_filterMap, ofName?, Option.bind_map]
  rfl

theorem enumerate_of_refused {cause : IoFailure}
    (refused : files.list (root.descriptorDir pid) = .error cause) :
    enumerate files root pid = .error (.ofProcessRead pid cause) := by
  unfold enumerate
  rw [refused]

theorem enumerate_eq_error_iff {failure : Failure} :
    enumerate files root pid = .error failure <->
      Exists fun cause : IoFailure =>
        files.list (root.descriptorDir pid) = .error cause ∧ Failure.Reports pid cause failure := by
  cases listed : files.list (root.descriptorDir pid) with
  | ok names => simp [enumerate_of_list listed]
  | error cause => simp [enumerate_of_refused listed, Failure.reports_iff, eq_comm]

/-! ## The entries of the directory -/

theorem isName_of_isReadable (readable : IsReadable files directory name) : Path.IsName name := by
  rcases readable.numbered with ⟨value, denotes, _⟩
  exact denotes.isName

section Listed

variable {entries : List (Bytes × FileTree)} {condition : Condition}
  (found : files.find true (root.descriptorDir pid) = .ok (.directory entries condition))

include found

/-- What a name is kept as is what the entry of this name shows. -/
theorem shows_of_ofName? {descriptor : Descriptor}
    (shown : ofName? files (root.descriptorDir pid) name = some descriptor) :
    Shows entries name descriptor := by
  rcases ofName?_eq_some_iff.mp shown with ⟨number, numbered, target, read, rfl⟩
  have denotes := (Decimal.ofName?_eq_some_iff name number).mp numbered
  exact .link denotes (FileSystem.lookup_of_readLink found denotes.isName read).2

theorem mem_of_isReadable (readable : IsReadable files (root.descriptorDir pid) name) :
    name ∈ entries.map Prod.fst := by
  rcases readable.readable with ⟨target, read⟩
  rw [FileTree.mem_names_iff,
    (FileSystem.lookup_of_readLink found (isName_of_isReadable readable) read).2]
  rfl

/-- Under a number the open links can be read and nothing else, as long as the
directory can be searched and the system takes the path. -/
theorem isReadable_iff_link (numbered : Decimal.IsNumberName name)
    (taken : FileSystem.pathFault? ((root.descriptorDir pid).join ⟨name⟩) = none)
    (short : name.length ≤ FileTree.Place.longestName) :
    IsReadable files (root.descriptorDir pid) name <->
      condition.searchable = true ∧
        Exists fun target : Bytes => entries.lookup name = some (.link target false) := by
  constructor
  · intro readable
    rcases readable.readable with ⟨target, read⟩
    rcases FileSystem.lookup_of_readLink found (isName_of_isReadable readable) read
      with ⟨searchable, linked⟩
    exact ⟨searchable, target, linked⟩
  · rintro ⟨searchable, target, linked⟩
    rcases numbered with ⟨value, denotes, small⟩
    exact ⟨⟨value, denotes, small⟩, target,
      FileSystem.readLink_of_lookup found denotes.isName taken short searchable linked⟩

theorem forall₂_shows :
    List.Forall₂ (Shows entries)
      ((entries.map Prod.fst).filter fun name => IsReadable files (root.descriptorDir pid) name)
      ((entries.map Prod.fst).filterMap (ofName? files (root.descriptorDir pid))) :=
  FileSystem.forall₂_filterMap (fun _ => isSome_ofName?_iff) (fun _ _ => shows_of_ofName? found) _

end Listed

/-! ## Entries that are passed over -/

section Changed

variable {other : FileSystem} {entries changed : List (Bytes × FileTree)} {condition : Condition}
  (found : files.find true (root.descriptorDir pid) = .ok (.directory entries condition))
  (also : other.find true (root.descriptorDir pid) = .ok (.directory changed condition))

include found also

/-- Two directories that hold the same under a name give it one descriptor. -/
theorem ofName?_congr (same : entries.lookup name = changed.lookup name) :
    ofName? files (root.descriptorDir pid) name = ofName? other (root.descriptorDir pid) name := by
  unfold ofName? readEntry
  cases numbered : Decimal.ofName? name with
  | none => rfl
  | some number =>
      have plain := ((Decimal.ofName?_eq_some_iff name number).mp numbered).isName
      rw [Option.bind_some, Option.bind_some, FileSystem.readLink_congr found also plain same]

/-- An entry that is passed over in both directories is seen in neither
snapshot. -/
theorem perm_of_changed (distinct : (entries.map Prod.fst).Nodup)
    (alsoDistinct : (changed.map Prod.fst).Nodup)
    (beside : forall other, other ≠ name -> entries.lookup other = changed.lookup other)
    (before : ¬ IsReadable files (root.descriptorDir pid) name)
    (after : ¬ IsReadable other (root.descriptorDir pid) name) :
    ((entries.map Prod.fst).filterMap (ofName? files (root.descriptorDir pid))).Perm
      ((changed.map Prod.fst).filterMap (ofName? other (root.descriptorDir pid))) := by
  have same : ofName? files (root.descriptorDir pid) = ofName? other (root.descriptorDir pid) := by
    -- The name has no descriptor on either side, and every other name is under no change.
    funext own
    by_cases here : own = name
    · rw [← isSome_ofName?_iff, Option.not_isSome_iff_eq_none] at before after
      rw [here, before, after]
    · exact ofName?_congr found also (beside own here)
  have readable (own : Bytes) : IsReadable files (root.descriptorDir pid) own <->
      IsReadable other (root.descriptorDir pid) own := by
    rw [← isSome_ofName?_iff, ← isSome_ofName?_iff, same]
  rw [← FileSystem.filterMap_filter_isSome, ← FileSystem.filterMap_filter_isSome (ofName? other _),
    same]
  apply List.Perm.filterMap
  apply (List.perm_ext_iff_of_nodup (distinct.filter _) (alsoDistinct.filter _)).mpr
  intro own
  simp only [List.mem_filter, isSome_ofName?_iff]
  constructor
  · rintro ⟨_, kept⟩
    exact ⟨mem_of_isReadable also kept, kept⟩
  · rintro ⟨_, kept⟩
    exact ⟨mem_of_isReadable found ((readable own).mpr kept), kept⟩

end Changed

/-- A snapshot fails where its directory cannot be listed, and nowhere else.
Otherwise it has, in the order of the listing, one descriptor for each entry
whose name is a number and whose link can be read, with the number in that name
and the target of that very entry.  Entries that cannot be read are passed over
one by one: if all that two directories differ in is one of these, they have the
same descriptors, whatever else the trees around them hold. -/
theorem enumerate_entrywise (files : FileSystem) (root : ProcRoot) (pid : ProcessId) :
    (forall failure, enumerate files root pid = .error failure <->
      Exists fun cause : IoFailure =>
        files.list (root.descriptorDir pid) = .error cause ∧ Failure.Reports pid cause failure) ∧
    (forall names, files.list (root.descriptorDir pid) = .ok names ->
      Exists fun entries : List (Bytes × FileTree) => Exists fun condition : Condition =>
        Exists fun descriptors : List Descriptor =>
          files.find true (root.descriptorDir pid) = .ok (.directory entries condition) ∧
            names = entries.map Prod.fst ∧
            enumerate files root pid = .ok descriptors ∧
            List.Forall₂ (Shows entries)
              (names.filter fun name => IsReadable files (root.descriptorDir pid) name)
              descriptors ∧
            forall name, Decimal.IsNumberName name ->
              FileSystem.pathFault? ((root.descriptorDir pid).join ⟨name⟩) = none ->
                name.length ≤ FileTree.Place.longestName ->
                  (IsReadable files (root.descriptorDir pid) name <->
                    condition.searchable = true ∧
                      Exists fun target : Bytes =>
                        entries.lookup name = some (.link target false))) ∧
    forall other entries changed condition name,
      files.find true (root.descriptorDir pid) = .ok (.directory entries condition) ->
        other.find true (root.descriptorDir pid) = .ok (.directory changed condition) ->
          condition.listable = true -> (entries.map Prod.fst).Nodup ->
            (changed.map Prod.fst).Nodup ->
              (forall other, other ≠ name -> entries.lookup other = changed.lookup other) ->
                ¬ IsReadable files (root.descriptorDir pid) name ->
                  ¬ IsReadable other (root.descriptorDir pid) name ->
                    Exists fun before : List Descriptor => Exists fun after : List Descriptor =>
                      enumerate files root pid = .ok before ∧
                        enumerate other root pid = .ok after ∧ before.Perm after := by
  refine ⟨fun failure => enumerate_eq_error_iff, ?_, ?_⟩
  · intro names listed
    rcases FileSystem.list_eq_ok_iff.mp listed with ⟨entries, condition, found, _, rfl⟩
    exact ⟨entries, condition, _, found, rfl, enumerate_of_list listed, forall₂_shows found,
      fun name => isReadable_iff_link found⟩
  · intro other entries changed condition name found also listable distinct alsoDistinct beside
      before after
    have listed := FileSystem.list_eq_ok_iff.mpr ⟨entries, condition, found, listable, rfl⟩
    have alsoListed := FileSystem.list_eq_ok_iff.mpr ⟨changed, condition, also, listable, rfl⟩
    exact ⟨_, _, enumerate_of_list listed, enumerate_of_list alsoListed,
      perm_of_changed found also distinct alsoDistinct beside before after⟩

namespace Sample

def system (entries : List (Bytes × FileTree)) (condition : Condition) : FileSystem where
  tree := .directory [(Utf8.encode "7", .directory
    [(Utf8.encode "fd", .directory entries condition)] .free)] .free
  working := none

/-- A directory with one more entry, which a listing fails on. -/
def lossy : Condition :=
  ⟨true, true, 1⟩

def mount : ProcRoot :=
  ⟨Path.ofText "/"⟩

/-- Two links of small numbers, and between them what is passed over. -/
def left : List (Bytes × FileTree) :=
  [(Utf8.encode "3", .link (Utf8.encode "pipe:[8]") false),
    (Utf8.encode "4294967296", .link (Utf8.encode "/tmp/a") false),
    (Utf8.encode "x", .link (Utf8.encode "/tmp/b") false),
    (Utf8.encode "6", .link (Utf8.encode "/tmp/d") true),
    ([0xFF], .link (Utf8.encode "/tmp/c") false),
    (Utf8.encode "04", .link [0x2F, 0xFF] false)]

/-- A plain file under a number, which goes away. -/
def before : List (Bytes × FileTree) :=
  (Utf8.encode "5", .file [] false) :: left

end Sample

theorem enumerate_entrywise_sample :
    Exists fun before : List Descriptor => Exists fun after : List Descriptor =>
      enumerate (Sample.system Sample.before Sample.lossy) Sample.mount ⟨7⟩ = .ok before ∧
        enumerate (Sample.system Sample.left Sample.lossy) Sample.mount ⟨7⟩ = .ok after ∧ before.Perm after ∧
          before = [.ofTarget 3 "pipe:[8]", .ofTarget 4 "/\uFFFD"] := by
  have found : forall entries,
      (Sample.system entries Sample.lossy).find true (Sample.mount.descriptorDir ⟨7⟩) =
        .ok (.directory entries Sample.lossy) := fun _ => rfl
  have beside : forall other, other ≠ Utf8.encode "5" ->
      Sample.before.lookup other = Sample.left.lookup other := by
    intro other different
    rw [Sample.before, List.lookup_cons, beq_false_of_ne different]
  rcases (enumerate_entrywise (Sample.system Sample.before Sample.lossy) Sample.mount ⟨7⟩).2.2 _ _ _ _ _
    (found _) (found Sample.left) rfl (by decide) (by decide) beside (by decide) (by decide)
    with ⟨before, after, first, second, same⟩
  refine ⟨before, after, first, second, same, ?_⟩
  have listed : (Sample.system Sample.before Sample.lossy).list (Sample.mount.descriptorDir ⟨7⟩) =
      .ok (Sample.before.map Prod.fst) := rfl
  rw [enumerate_of_list listed] at first
  rw [← Except.ok.inj first]
  decide +kernel

end Descriptor
end ProcInspection
