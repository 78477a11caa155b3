import Mathlib.Data.List.Basic
import ProcInspection.Proofs.Text.Number
import ProcInspection.Task.Descriptor

namespace ProcInspection
namespace Descriptor

/-!
What a listing of descriptors holds.

A socket is recognized by its target on raw bytes: although the target is
decoded before it is looked at, a broken byte is shown as something that no
socket target contains.  A listing has one descriptor for each numbered link
that can be read, and the inodes of its sockets are told apart from zero and
from nothing else.
-/

theorem dropLast?_eq_some_iff {last : Char} {text rest : List Char} :
    dropLast? last text = some rest <-> text = rest ++ [last] := by
  unfold dropLast?
  constructor
  · intro dropped
    by_cases ends : text.getLast? = some last
    · rw [if_pos ends] at dropped
      rcases List.getLast?_eq_some_iff.mp ends with ⟨before, whole⟩
      rw [whole, List.dropLast_concat] at dropped
      rw [whole, Option.some.inj dropped]
    · rw [if_neg ends] at dropped
      cases dropped
  · intro whole
    rw [whole, List.getLast?_concat, if_pos rfl, List.dropLast_concat]

theorem socketInode?_eq_some_iff (target : String) (inode : UInt64) :
    socketInode? target = some inode <->
      Exists fun digits : List Char => target.toList = "socket:[".toList ++ (digits ++ [']']) ∧
        Decimal.Denotes (digits.map Char.toNat) inode.toNat := by
  unfold socketInode?
  constructor
  · intro read
    cases marked : List.isPrefixOf? "socket:[".toList target.toList with
    | none =>
        rw [marked] at read
        cases read
    | some rest =>
        rw [marked] at read
        cases closed : dropLast? ']' rest with
        | none =>
            simp only [closed, reduceCtorEq] at read
        | some digits =>
            simp only [closed] at read
            refine ⟨digits, ?_, (Decimal.word64?_eq_some_iff digits inode).mp read⟩
            rw [← List.isPrefixOf?_eq_some_iff_append_eq.mp marked, dropLast?_eq_some_iff.mp closed]
  · rintro ⟨digits, whole, denotes⟩
    rw [List.isPrefixOf?_eq_some_iff_append_eq.mpr whole.symm]
    simp only [dropLast?_eq_some_iff.mpr rfl]
    exact (Decimal.word64?_eq_some_iff digits inode).mpr denotes

/-- A link target that is exactly `socket:[`, a number and `]`. -/
def IsSocketTarget (target : Bytes) (inode : UInt64) : Prop :=
  Exists fun digits : Bytes => target = Utf8.encode "socket:[" ++ digits ++ Utf8.encode "]" ∧
    Decimal.Denotes (digits.map UInt8.toNat) inode.toNat

/-- Decoding neither makes a socket of a target nor hides one. -/
theorem socketInode?_decodeLossy_iff (target : Bytes) (inode : UInt64) :
    socketInode? (Utf8.decodeLossy target) = some inode <-> IsSocketTarget target inode := by
  have written : forall digits : List Char, Utf8.encodeChars ("socket:[".toList ++ (digits ++ [']'])) =
      Utf8.encode "socket:[" ++ Utf8.encodeChars digits ++ Utf8.encode "]" := by
    intro digits
    rw [Utf8.encodeChars_append, Utf8.encodeChars_append, ← List.append_assoc]
    rfl
  have clean : forall digits : List Char, (forall c, c ∈ digits -> c.toNat < 0x80) ->
      Utf8.replacement ∉ "socket:[".toList ++ (digits ++ [']']) := by
    intro digits ascii member
    rcases List.mem_append.mp member with mark | rest
    · exact absurd mark (by decide)
    · rcases List.mem_append.mp rest with digit | close
      · exact absurd (ascii _ digit) (by decide)
      · exact absurd close (by decide)
  rw [socketInode?_eq_some_iff]
  constructor
  · rintro ⟨digits, shown, denotes⟩
    have bytes := (Utf8.toList_decodeLossy_eq_iff (clean digits denotes.ascii) target).mp shown
    refine ⟨Utf8.encodeChars digits, ?_, (Decimal.denotes_bytes_iff _ _).mpr ⟨digits, rfl, denotes⟩⟩
    rw [bytes, written]
  · rintro ⟨bytes, whole, denotes⟩
    rcases (Decimal.denotes_bytes_iff _ _).mp denotes with ⟨digits, same, denotes⟩
    refine ⟨digits, ?_, denotes⟩
    rw [Utf8.toList_decodeLossy_eq_iff (clean digits denotes.ascii), whole, same, written]

/-! ## Listings -/

/-- An entry is shown if its link can be read. -/
theorem descriptor?_readEntry_iff (files : FileSystem) (directory : Path) (name : Bytes)
    (number : UInt32) (descriptor : Descriptor) :
    (readEntry files directory name number).descriptor? = some descriptor <->
      Exists fun target : Bytes => files.readLink (directory.join ⟨name⟩) = .ok target ∧
        descriptor = ofTarget number (Utf8.decodeLossy target) := by
  unfold readEntry
  cases found : files.readLink (directory.join ⟨name⟩) with
  | ok target =>
      constructor
      · intro listed
        exact ⟨target, rfl, (Option.some.inj listed).symm⟩
      · rintro ⟨other, same, built⟩
        rw [built, Except.ok.inj same]
        rfl
  | error cause =>
      constructor
      · intro impossible
        cases impossible
      · rintro ⟨other, impossible, _⟩
        cases impossible

/-- A descriptor is listed if a numbered name leads to a link that can be read. -/
theorem mem_listed_iff (files : FileSystem) (directory : Path) (names : List Bytes)
    (descriptor : Descriptor) :
    descriptor ∈ (readEntries files directory names).filterMap Entry.descriptor? <->
      Exists fun name : Bytes => name ∈ names ∧ Exists fun number : UInt32 =>
        Decimal.ofName? name = some number ∧ Exists fun target : Bytes =>
          files.readLink (directory.join ⟨name⟩) = .ok target ∧
            descriptor = ofTarget number (Utf8.decodeLossy target) := by
  unfold readEntries
  simp only [List.mem_filterMap, Option.map_eq_some_iff]
  constructor
  · rintro ⟨_, ⟨name, member, number, plain, rfl⟩, listed⟩
    exact ⟨name, member, number, plain, (descriptor?_readEntry_iff _ _ _ _ _).mp listed⟩
  · rintro ⟨name, member, number, plain, listed⟩
    exact ⟨readEntry files directory name number, ⟨name, member, number, plain, rfl⟩,
      (descriptor?_readEntry_iff _ _ _ _ _).mpr listed⟩

theorem mem_insertInode (inode other : UInt64) (inodes : List UInt64) :
    inode ∈ insertInode other inodes <-> inode = other ∨ inode ∈ inodes := by
  induction inodes with
  | nil => rw [insertInode, List.mem_cons]
  | cons first rest ih =>
      unfold insertInode
      by_cases before : other < first
      · rw [if_pos before, List.mem_cons]
      · rw [if_neg before]
        by_cases same : other = first
        · rw [if_pos same, same, List.mem_cons]
          constructor
          · exact Or.inr
          · rintro (head | member)
            · exact Or.inl head
            · exact member
        · rw [if_neg same, List.mem_cons, List.mem_cons, ih]
          exact or_left_comm

/-- The inodes of a listing are those of its descriptors, zero left out. -/
theorem mem_inodes_iff (descriptors : List Descriptor) (number : UInt64) :
    number ∈ inodes descriptors <->
      number ≠ 0 ∧ Exists fun descriptor : Descriptor =>
        descriptor ∈ descriptors ∧ descriptor.inode = some number := by
  have gathered : forall found : List UInt64, number ∈ found.foldr insertInode [] <-> number ∈ found := by
    intro found
    induction found with
    | nil => rfl
    | cons first rest ih => rw [List.foldr_cons, mem_insertInode, ih, List.mem_cons]
  unfold inodes
  rw [gathered, List.mem_filter, List.mem_filterMap, decide_eq_true_iff, and_comm]

/-- The inodes of a listing in terms of what was read: some readable link of a
numbered name leads to a socket of that inode. -/
theorem mem_inodes_listed_iff (files : FileSystem) (directory : Path) (names : List Bytes)
    (inode : UInt64) :
    inode ∈ inodes ((readEntries files directory names).filterMap Entry.descriptor?) <->
      inode ≠ 0 ∧ Exists fun name : Bytes => name ∈ names ∧ Decimal.IsNumberName name ∧
        Exists fun target : Bytes =>
          files.readLink (directory.join ⟨name⟩) = .ok target ∧ IsSocketTarget target inode := by
  rw [mem_inodes_iff]
  apply and_congr_right
  intro _
  constructor
  · rintro ⟨descriptor, listed, shown⟩
    rcases (mem_listed_iff _ _ _ _).mp listed with ⟨name, member, number, plain, target, read, built⟩
    rw [built] at shown
    exact ⟨name, member, (Decimal.isNumberName_iff name).mpr ⟨number, plain⟩, target, read,
      (socketInode?_decodeLossy_iff target inode).mp shown⟩
  · rintro ⟨name, member, plain, target, read, socket⟩
    rcases (Decimal.isNumberName_iff name).mp plain with ⟨number, plain⟩
    exact ⟨ofTarget number (Utf8.decodeLossy target),
      (mem_listed_iff _ _ _ _).mpr ⟨name, member, number, plain, target, read, rfl⟩,
      (socketInode?_decodeLossy_iff target inode).mpr socket⟩

end Descriptor
end ProcInspection
