import Mathlib.Data.List.Nodup
import Mathlib.Data.List.Pairwise
import ProcInspection.Proofs.Task.Descriptor.Snapshot
import ProcInspection.Proofs.Text.Zeros

namespace ProcInspection

/-!
The numbers in a snapshot.

A directory has no name twice, but two of its names may be one number: zeros in
front of a number are passed by.  So the descriptors of a snapshot have
distinct numbers if no two of the links that are kept agree without these
zeros.  Where every number is written as the system writes it, none do.
-/

namespace Decimal

/-- A name without the zeros in front. -/
def trimmed (name : Bytes) : Bytes :=
  name.dropWhile fun byte => byte == 0x30

theorem significant_toNat (name : Bytes) :
    significant (name.map UInt8.toNat) = (trimmed name).map UInt8.toNat :=
  significant_map (fun _ _ => UInt8.toNat.inj) rfl name

/-- Two names are one number if they agree without the zeros in front. -/
theorem number_eq_iff_trimmed {name another : Bytes} {number other : UInt32}
    (read : ofName? name = some number) (also : ofName? another = some other) :
    number = other <-> trimmed name = trimmed another := by
  have denotes := (ofName?_eq_some_iff name number).mp read
  have alike := denotes.value_eq_iff ((ofName?_eq_some_iff another other).mp also)
  rw [significant_toNat, significant_toNat,
    List.map_inj_right fun _ _ same => UInt8.toNat.inj same] at alike
  rw [← alike]
  exact ⟨congrArg _, UInt32.toNat.inj⟩

end Decimal

namespace Descriptor

variable {files : FileSystem} {root : ProcRoot} {pid : ProcessId} {name other : Bytes}
  {descriptor another : Descriptor}

theorem number_of_ofName? {directory : Path} (shown : ofName? files directory name = some descriptor) :
    Decimal.ofName? name = some descriptor.number := by
  rcases ofName?_eq_some_iff.mp shown with ⟨number, numbered, target, _, rfl⟩
  exact numbered

theorem number_eq_iff {directory : Path} (shown : ofName? files directory name = some descriptor)
    (seen : ofName? files directory other = some another) :
    descriptor.number = another.number <-> Decimal.trimmed name = Decimal.trimmed other :=
  Decimal.number_eq_iff_trimmed (number_of_ofName? shown) (number_of_ofName? seen)

/-- The numbers kept of distinct names are distinct if each comes from one name. -/
theorem nodup_numbers_iff {directory : Path} {names : List Bytes} (distinct : names.Nodup) :
    ((names.filterMap (ofName? files directory)).map number).Nodup <->
      forall name, name ∈ names -> forall other, other ∈ names ->
        forall descriptor, ofName? files directory name = some descriptor ->
          forall another, ofName? files directory other = some another ->
            descriptor.number = another.number -> name = other := by
  unfold List.Nodup
  rw [List.pairwise_map, List.pairwise_filterMap]
  constructor
  · intro apart name member other also descriptor shown another seen same
    by_contra different
    refine @List.Pairwise.forall _ _ _ ⟨?_⟩ apart _ member _ also different descriptor shown another
      seen same
    intro left right apart descriptor shown another seen
    exact (apart another seen descriptor shown).symm
  · intro alike
    apply distinct.pairwise_of_forall_ne
    intro name member other also different descriptor shown another seen same
    exact different (alike name member other also descriptor shown another seen same)

/-- The descriptors of a listed directory have distinct numbers if no two names
of readable links agree without the zeros in front, and only then.  So they
have where every such name is the text of its number. -/
theorem numbers_distinct_iff {names : List Bytes}
    (listed : files.list (root.descriptorDir pid) = .ok names) (distinct : names.Nodup) :
    Exists fun descriptors : List Descriptor =>
      enumerate files root pid = .ok descriptors ∧
        ((descriptors.map number).Nodup <->
          forall name other, IsReadable files (root.descriptorDir pid) name ->
            IsReadable files (root.descriptorDir pid) other ->
              Decimal.trimmed name = Decimal.trimmed other -> name = other) ∧
        ((forall name, IsReadable files (root.descriptorDir pid) name ->
            Exists fun number : UInt32 => name = Utf8.encode (Decimal.text number.toNat)) ->
          (descriptors.map number).Nodup) := by
  rcases FileSystem.list_eq_ok_iff.mp listed with ⟨entries, condition, found, _, rfl⟩
  refine ⟨_, enumerate_of_list listed, ?_, ?_⟩
  · rw [nodup_numbers_iff distinct]
    constructor
    · intro alike name other kept also same
      rcases Option.isSome_iff_exists.mp (isSome_ofName?_iff.mpr kept) with ⟨descriptor, shown⟩
      rcases Option.isSome_iff_exists.mp (isSome_ofName?_iff.mpr also) with ⟨another, seen⟩
      exact alike name (mem_of_isReadable found kept) other (mem_of_isReadable found also)
        descriptor shown another seen ((number_eq_iff shown seen).mpr same)
    · intro alike name _ other _ descriptor shown another seen same
      exact alike name other (isSome_ofName?_iff.mp (Option.isSome_of_mem shown))
        (isSome_ofName?_iff.mp (Option.isSome_of_mem seen)) ((number_eq_iff shown seen).mp same)
  · intro written
    have text {name : Bytes} {descriptor : Descriptor}
        (shown : ofName? files (root.descriptorDir pid) name = some descriptor) :
        name = Utf8.encode (Decimal.text descriptor.number.toNat) := by
      have numbered := number_of_ofName? shown
      rcases written name (isSome_ofName?_iff.mp (Option.isSome_of_mem shown)) with ⟨value, whole⟩
      rw [whole, Decimal.ofName?_encode_text] at numbered
      rw [whole, Option.some.inj numbered]
    rw [nodup_numbers_iff distinct]
    intro name _ other _ descriptor shown another seen same
    rw [text shown, text seen, same]

namespace Sample

/-- Two links under one number. -/
def twice : List (Bytes × FileTree) :=
  [(Utf8.encode "1", .link (Utf8.encode "/dev/null") false),
    (Utf8.encode "01", .link (Utf8.encode "/tmp/a") false)]

end Sample

theorem numbers_distinct_iff_twice :
    (Sample.system Sample.twice .free).list (Sample.mount.descriptorDir ⟨7⟩) =
        .ok (Sample.twice.map Prod.fst) ∧
      (Sample.twice.map Prod.fst).Nodup ∧
      Exists fun descriptors : List Descriptor =>
        enumerate (Sample.system Sample.twice .free) Sample.mount ⟨7⟩ = .ok descriptors ∧
          ¬ (descriptors.map number).Nodup := by
  have listed : (Sample.system Sample.twice .free).list (Sample.mount.descriptorDir ⟨7⟩) =
      .ok (Sample.twice.map Prod.fst) := rfl
  have distinct : (Sample.twice.map Prod.fst).Nodup := by decide
  rcases numbers_distinct_iff listed distinct with ⟨descriptors, shown, law, _⟩
  refine ⟨listed, distinct, descriptors, shown, ?_⟩
  intro apart
  exact absurd (law.mp apart (Utf8.encode "1") (Utf8.encode "01") (by decide) (by decide) rfl)
    (by decide)

/-- A tidy tree can have two descriptors of one number. -/
theorem numbers_not_always_distinct :
    ¬ forall (files : FileSystem) (root : ProcRoot) (pid : ProcessId) (descriptors : List Descriptor),
      files.tree.Tidy -> enumerate files root pid = .ok descriptors ->
        (descriptors.map number).Nodup := by
  intro always
  have tidy : (Sample.system Sample.twice .free).tree.Tidy := by
    refine .of_forall (by decide) (List.forall_mem_singleton.mpr ?_)
    refine .of_forall (by decide) (List.forall_mem_singleton.mpr ?_)
    exact .of_forall (by decide) (List.forall_mem_cons.mpr
      ⟨.link _, List.forall_mem_singleton.mpr (.link _)⟩)
  have shown : enumerate (Sample.system Sample.twice .free) Sample.mount ⟨7⟩ =
      .ok [.ofTarget 1 "/dev/null", .ofTarget 1 "/tmp/a"] := by
    rw [enumerate_of_list rfl]
    exact congrArg Except.ok (by decide +kernel)
  exact absurd (always _ _ _ _ tidy shown) (by decide)

end Descriptor
end ProcInspection
