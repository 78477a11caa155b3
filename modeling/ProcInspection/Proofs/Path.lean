import Mathlib.Data.List.Basic
import ProcInspection.Path
import ProcInspection.Proofs.Text.Number

namespace ProcInspection

/-!
Paths taken apart into names.

Every path that an inspection reads is the root with a few names joined to it.
Taken apart again it gives the parts of the root and then these names, however
the root is written.  The text of a process or thread number is such a name,
and different numbers have different names.

As long as no link is in the way, where names lead can be said without a tree: a
dot stays, two dots drop the last name, and any other name is appended.
-/

attribute [ext] Path

namespace Path

/-- A name that stands for an entry of a directory. -/
structure IsName (name : Bytes) : Prop where
  nonempty : name ≠ []
  unbroken : separator ∉ name
  notDot : name ≠ dot
  notDotDot : name ≠ dotDot

instance (name : Bytes) : Decidable (IsName name) :=
  decidable_of_iff (name ≠ [] ∧ separator ∉ name ∧ name ≠ dot ∧ name ≠ dotDot)
    ⟨fun ⟨nonempty, unbroken, notDot, notDotDot⟩ => ⟨nonempty, unbroken, notDot, notDotDot⟩,
      fun plain => ⟨plain.nonempty, plain.unbroken, plain.notDot, plain.notDotDot⟩⟩

theorem isAbsolute_of_isName {name : Bytes} (plain : IsName name) :
    (Path.mk name).isAbsolute = false := by
  unfold isAbsolute
  cases name with
  | nil => rfl
  | cons first rest =>
      apply decide_eq_false
      intro starts
      exact plain.unbroken (List.mem_cons.mpr (Or.inl (Option.some.inj starts).symm))

/-- Joining puts the name behind a separator, except behind an empty path. -/
theorem bytes_join {name : Bytes} (plain : IsName name) (path : Path) :
    (path.bytes = [] ∧ (path.join ⟨name⟩).bytes = name) ∨
      Exists fun before : Bytes =>
        (path.bytes = before ∨ path.bytes = before ++ [separator]) ∧ path.bytes ≠ [] ∧
          (path.join ⟨name⟩).bytes = before ++ separator :: name := by
  unfold join
  rw [isAbsolute_of_isName plain, if_neg Bool.false_ne_true]
  unfold needsSeparator
  cases ends : path.bytes.getLast? with
  | none =>
      have empty := List.getLast?_eq_none_iff.mp ends
      refine Or.inl ⟨empty, ?_⟩
      rw [if_neg Bool.false_ne_true, empty, List.nil_append]
  | some last =>
      rcases List.getLast?_eq_some_iff.mp ends with ⟨before, whole⟩
      have nonempty : path.bytes ≠ [] := by
        rw [whole]
        exact List.append_ne_nil_of_right_ne_nil _ (List.cons_ne_nil _ _)
      by_cases closed : last = separator
      · refine Or.inr ⟨before, Or.inr (closed ▸ whole), nonempty, ?_⟩
        rw [if_neg (by rw [closed]; decide), whole, closed, List.append_assoc,
          List.singleton_append]
      · refine Or.inr ⟨path.bytes, Or.inl rfl, nonempty, ?_⟩
        rw [if_pos (decide_eq_true closed)]

theorem parts_join {name : Bytes} (plain : IsName name) (path : Path) :
    (path.join ⟨name⟩).parts = path.parts ++ [name] := by
  have alone : List.splitOnP (· == separator) name = [name] := by
    apply List.splitOnP_eq_singleton
    intro byte member
    apply beq_eq_false_iff_ne.mpr
    intro same
    exact plain.unbroken (same ▸ member)
  have kept : [name].filter (fun name => !name.isEmpty) = [name] := by
    rw [List.filter_singleton, List.isEmpty_eq_false_iff.mpr plain.nonempty]
    rfl
  have divided : forall before after : Bytes,
      (before ++ separator :: after).splitOnP (· == separator) =
        before.splitOnP (· == separator) ++ after.splitOnP (· == separator) :=
    fun before after => List.splitOnP_append_cons before after (beq_self_eq_true separator)
  unfold parts
  rcases bytes_join plain path with ⟨empty, joined⟩ | ⟨before, same | closed, _, joined⟩
  · rw [joined, empty, alone, kept, List.splitOnP_nil]
    rfl
  · rw [joined, divided, alone, List.filter_append, kept, same]
  · rw [joined, closed, divided, divided, alone, List.splitOnP_nil, List.filter_append,
      List.filter_append, kept]
    change _ = List.filter _ _ ++ [] ++ [name]
    rw [List.append_nil]

/-- A path does not end with a separator once a name is joined to it. -/
theorem exists_last_join {name : Bytes} (plain : IsName name) (path : Path) :
    Exists fun last : UInt8 =>
      (path.join ⟨name⟩).bytes.getLast? = some last ∧ last ≠ separator := by
  have ends : (path.join ⟨name⟩).bytes.getLast? = name.getLast? := by
    rcases bytes_join plain path with ⟨_, joined⟩ | ⟨before, _, _, joined⟩
    · rw [joined]
    · rw [joined, List.getLast?_append, List.getLast?_cons]
      cases shown : name.getLast? with
      | none => exact (plain.nonempty (List.getLast?_eq_none_iff.mp shown)).elim
      | some last => rfl
  cases shown : name.getLast? with
  | none => exact (plain.nonempty (List.getLast?_eq_none_iff.mp shown)).elim
  | some last =>
      refine ⟨last, ends.trans shown, ?_⟩
      rintro rfl
      exact plain.unbroken (List.mem_of_getLast? shown)

theorem names_join {name : Bytes} (plain : IsName name) (path : Path) :
    (path.join ⟨name⟩).names = path.parts ++ [name] := by
  rcases exists_last_join plain path with ⟨last, ends, other⟩
  unfold names
  rw [ends, if_neg fun closed => other (Option.some.inj closed), parts_join plain]

/-- What is joined behind a name stands behind one separator. -/
theorem bytes_join_join {name : Bytes} (plain : IsName name) (path : Path) {part : Path}
    (relative : part.isAbsolute = false) :
    ((path.join ⟨name⟩).join part).bytes = (path.join ⟨name⟩).bytes ++ separator :: part.bytes := by
  rcases exists_last_join plain path with ⟨last, ends, other⟩
  have needed : (path.join ⟨name⟩).needsSeparator = true := by
    rw [needsSeparator, ends]
    exact decide_eq_true other
  rw [join, relative, needed]
  rfl

theorem isAbsolute_join {name : Bytes} (plain : IsName name) (path : Path) :
    (path.join ⟨name⟩).isAbsolute = path.isAbsolute := by
  rcases bytes_join plain path with ⟨empty, joined⟩ | ⟨before, whole, nonempty, joined⟩
  · have path_eq : path = ⟨[]⟩ := Path.ext empty
    have name_eq : path.join ⟨name⟩ = ⟨name⟩ := Path.ext joined
    rw [name_eq, path_eq, isAbsolute_of_isName plain]
    rfl
  · unfold isAbsolute
    rw [joined]
    cases before with
    | cons first rest =>
        rcases whole with same | closed
        · rw [same]
          rfl
        · rw [closed]
          rfl
    | nil =>
        rcases whole with same | closed
        · exact (nonempty same).elim
        · rw [closed]
          rfl

/-- A path that is a base with names joined to it. -/
structure Under (base path : Path) (names : List Bytes) : Prop where
  start : path.isAbsolute = base.isAbsolute
  parts : path.parts = base.parts ++ names
  names : path.names = base.parts ++ names

theorem under_join {name : Bytes} (plain : IsName name) (base : Path) :
    Under base (base.join ⟨name⟩) [name] :=
  ⟨isAbsolute_join plain base, parts_join plain base, names_join plain base⟩

theorem Under.join {base path : Path} {names : List Bytes} {name : Bytes}
    (under : Under base path names) (plain : IsName name) :
    Under base (path.join ⟨name⟩) (names ++ [name]) where
  start := (isAbsolute_join plain path).trans under.start
  parts := by rw [parts_join plain, under.parts, List.append_assoc]
  names := by rw [names_join plain, under.parts, List.append_assoc]

/-! ## Where names lead -/

/-- The way after one more name. -/
def turn (way : List Bytes) (name : Bytes) : List Bytes :=
  if name = dot then way else if name = dotDot then way.dropLast else way ++ [name]

/-- The way that names lead to from the top. -/
def locate (names : List Bytes) : List Bytes :=
  names.foldl turn []

theorem turn_of_isName {name : Bytes} (plain : IsName name) (way : List Bytes) :
    turn way name = way ++ [name] := by
  unfold turn
  rw [if_neg plain.notDot, if_neg plain.notDotDot]

/-- Plain names are appended one by one. -/
theorem foldl_turn_of_isName {names : List Bytes} (plain : forall name, name ∈ names -> IsName name)
    (way : List Bytes) : names.foldl turn way = way ++ names := by
  induction names generalizing way with
  | nil => rw [List.foldl_nil, List.append_nil]
  | cons name names ih =>
      rw [List.foldl_cons, turn_of_isName (plain name List.mem_cons_self),
        ih fun other member => plain other (List.mem_cons_of_mem name member), List.append_assoc,
        List.singleton_append]

end Path

/-! ## Numbers as names -/

namespace Decimal

/-- Different numbers have different names. -/
theorem encode_text_injective {number other : UInt32}
    (same : Utf8.encode (text number.toNat) = Utf8.encode (text other.toNat)) : number = other := by
  have first := denotes_text number.toNat
  rw [same] at first
  exact UInt32.toNat.inj (first.total.symm.trans (denotes_text other.toNat).total)

theorem ofName?_encode_text (number : UInt32) :
    ofName? (Utf8.encode (text number.toNat)) = some number :=
  (ofName?_eq_some_iff _ _).mpr (denotes_text number.toNat)

theorem Denotes.isName {name : Bytes} {value : Nat}
    (denotes : Denotes (name.map UInt8.toNat) value) : Path.IsName name := by
  have digit : forall byte, byte ∈ name -> 48 ≤ byte.toNat :=
    fun byte member => (denotes.digits _ (List.mem_map_of_mem member)).1
  have noDot : (0x2E : UInt8) ∉ name := fun member => absurd (digit _ member) (by decide)
  refine ⟨fun empty => denotes.nonempty (by rw [empty, List.map_nil]),
    fun member => absurd (digit _ member) (by decide), ?_, ?_⟩
  · intro same
    exact noDot (same ▸ List.mem_cons_self)
  · intro same
    exact noDot (same ▸ List.mem_cons_self)

end Decimal

namespace ProcessId

theorem isName_text (pid : ProcessId) : Path.IsName (Utf8.encode pid.text) :=
  (Decimal.denotes_text pid.number.toNat).isName

theorem encode_text_injective {pid process : ProcessId}
    (same : Utf8.encode pid.text = Utf8.encode process.text) : pid = process :=
  congrArg ProcessId.mk (Decimal.encode_text_injective same)

theorem encode_text_inj {pid process : ProcessId} :
    Utf8.encode pid.text = Utf8.encode process.text <-> pid = process :=
  ⟨encode_text_injective, fun same => same ▸ rfl⟩

/-- The tables stand beside every process: their directory is no number. -/
theorem encode_text_ne_net (pid : ProcessId) : Utf8.encode pid.text ≠ Utf8.encode "net" := by
  intro same
  have denotes := Decimal.denotes_text pid.number.toNat
  change Decimal.Denotes ((Utf8.encode pid.text).map UInt8.toNat) _ at denotes
  rw [same] at denotes
  exact absurd (denotes.digits 110 (by decide)).2 (by decide)

end ProcessId

namespace ThreadId

theorem isName_text (tid : ThreadId) : Path.IsName (Utf8.encode tid.text) :=
  (Decimal.denotes_text tid.number.toNat).isName

theorem encode_text_inj {tid thread : ThreadId} :
    Utf8.encode tid.text = Utf8.encode thread.text <-> tid = thread :=
  ⟨fun same => congrArg ThreadId.mk (Decimal.encode_text_injective same), fun same => same ▸ rfl⟩

end ThreadId

/-! ## The places of a process -/

namespace ProcRoot

variable (root : ProcRoot) (pid : ProcessId)

theorem under_processFile {file : Bytes} (plain : Path.IsName file) :
    root.path.Under (root.processFile pid ⟨file⟩) [Utf8.encode pid.text, file] :=
  (Path.under_join pid.isName_text root.path).join plain

theorem under_taskFile (tid : ThreadId) {file : Bytes} (plain : Path.IsName file) :
    root.path.Under (root.taskFile pid tid ⟨file⟩)
      [Utf8.encode pid.text, Utf8.encode "task", Utf8.encode tid.text, file] :=
  ((root.under_processFile pid (by decide)).join tid.isName_text).join plain

theorem under_netFile {file : Bytes} (plain : Path.IsName file) :
    root.path.Under ((root.path.join (Path.ofText "net")).join ⟨file⟩) [Utf8.encode "net", file] :=
  (Path.under_join (by decide) root.path).join plain

/-- Different processes have different directories. -/
theorem processDir_inj {pid process : ProcessId} :
    root.processDir pid = root.processDir process <-> pid = process := by
  constructor
  · intro same
    have parts := congrArg Path.parts same
    unfold processDir Path.ofText at parts
    rw [Path.parts_join pid.isName_text, Path.parts_join process.isName_text] at parts
    exact ProcessId.encode_text_injective (List.singleton_inj.mp (List.append_cancel_left parts))
  · rintro rfl
    rfl

/-- They have no file in common, whatever the file is called below them. -/
theorem processFile_inj {pid process : ProcessId} {file : Path}
    (relative : file.isAbsolute = false) :
    root.processFile pid file = root.processFile process file <-> pid = process := by
  constructor
  · intro same
    have bytes := congrArg Path.bytes same
    unfold processFile processDir Path.ofText at bytes
    rw [Path.bytes_join_join pid.isName_text root.path relative,
      Path.bytes_join_join process.isName_text root.path relative] at bytes
    exact root.processDir_inj.mp (Path.ext (List.append_cancel_right bytes))
  · rintro rfl
    rfl

end ProcRoot

/-! ## Lengths -/

/-- A path without a zero byte that is no longer than a bound. -/
structure Path.Fits (path : Path) (bound : Nat) : Prop where
  noZero : 0 ∉ path.bytes
  short : path.bytes.length ≤ bound

theorem Path.Fits.join {path part : Path} {bound more : Nat} (fits : path.Fits bound)
    (behind : part.Fits more) : (path.join part).Fits (bound + 1 + more) := by
  have first := fits.short
  have second := behind.short
  unfold Path.join
  split
  · exact ⟨behind.noZero, by omega⟩
  · split
    · refine ⟨?_, ?_⟩
      · simp [fits.noZero, behind.noZero, Path.separator]
      · simp only [List.length_append, List.length_cons]
        omega
    · refine ⟨?_, ?_⟩
      · simp [fits.noZero, behind.noZero]
      · simp only [List.length_append]
        omega

theorem Decimal.fits_text (number : UInt32) :
    (Path.ofText (Decimal.text number.toNat)).Fits 10 := by
  have denotes := Decimal.denotes_digits number.toNat
  have codes := congrArg List.length (Utf8.map_toNat_encodeChars denotes.ascii)
  rw [List.length_map, List.length_map] at codes
  have written : (Path.ofText (Decimal.text number.toNat)).bytes =
      Utf8.encodeChars (Decimal.digits number.toNat) :=
    congrArg Utf8.encodeChars String.toList_ofList
  refine ⟨?_, ?_⟩
  · intro zero
    have digit := (Decimal.denotes_text number.toNat).digits 0 (List.mem_map.mpr ⟨0, zero, rfl⟩)
    exact absurd digit.1 (by decide)
  · rw [written, codes]
    have small : number.toNat < 10 ^ 10 := Nat.lt_trans number.toNat_lt (by decide)
    exact Decimal.length_digits_le (by decide) small

namespace ProcRoot

variable {root : ProcRoot} {bound more : Nat} (fits : root.path.Fits bound) (pid : ProcessId)

include fits

theorem fits_processFile {file : Path} (behind : file.Fits more) :
    (root.processFile pid file).Fits (bound + 12 + more) :=
  (fits.join (Decimal.fits_text pid.number)).join behind

theorem fits_taskFile (tid : ThreadId) {file : Path} (behind : file.Fits more) :
    (root.taskFile pid tid file).Fits (bound + 28 + more) :=
  ((root.fits_processFile fits pid ⟨by decide, Nat.le_refl _⟩).join
    (Decimal.fits_text tid.number)).join behind

end ProcRoot
end ProcInspection
