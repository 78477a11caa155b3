import ProcInspection.Proofs.Connection.Lines
import ProcInspection.Proofs.Ownership

namespace ProcInspection

/-!
The connections behind some descriptors depend on their inodes alone.

Of a list of descriptors only the set of its socket inodes counts, zero left
out.  Order, repetitions and whatever leads to no socket are of no consequence,
neither for the rows nor for the failures.  With a smaller set fewer rows are
kept, and nothing fails that did not fail before: the smaller set reads the
same tables, or none at all.
-/

namespace Descriptor

/-- Some of the descriptors leads to the socket of an inode.  Zero is the inode
of no socket. -/
structure Holds (descriptors : List Descriptor) (inode : UInt64) : Prop where
  nonzero : inode ≠ 0
  held : Exists fun descriptor : Descriptor =>
    descriptor ∈ descriptors ∧ descriptor.inode = some inode

variable {descriptors others : List Descriptor} {inode : UInt64}

theorem mem_inodes_iff_holds : inode ∈ inodes descriptors <-> Holds descriptors inode := by
  rw [mem_inodes_iff]
  exact ⟨fun both => ⟨both.1, both.2⟩, fun holds => ⟨holds.nonzero, holds.held⟩⟩

instance : Decidable (Holds descriptors inode) :=
  decidable_of_iff _ mem_inodes_iff_holds

theorem Holds.mono (holds : Holds descriptors inode)
    (inside : forall descriptor, descriptor ∈ descriptors -> descriptor ∈ others) :
    Holds others inode := by
  rcases holds.held with ⟨descriptor, member, shown⟩
  exact ⟨holds.nonzero, descriptor, inside descriptor member, shown⟩

/-- Lists with the same members hold the same inodes. -/
theorem holds_congr
    (same : forall descriptor, descriptor ∈ descriptors <-> descriptor ∈ others)
    (inode : UInt64) : Holds descriptors inode <-> Holds others inode :=
  ⟨fun holds => holds.mono fun descriptor => (same descriptor).mp,
    fun holds => holds.mono fun descriptor => (same descriptor).mpr⟩

/-- A descriptor that leads to no socket adds no inode. -/
theorem holds_insert_idle {descriptor : Descriptor}
    (idle : descriptor.inode = none ∨ descriptor.inode = some 0) (inode : UInt64) :
    Holds (descriptors ++ descriptor :: others) inode <-> Holds (descriptors ++ others) inode := by
  constructor
  · rintro ⟨nonzero, other, member, shown⟩
    have different : other ≠ descriptor := by
      rintro rfl
      rcases idle with none | zero
      · cases none.symm.trans shown
      · exact nonzero (Option.some.inj (shown.symm.trans zero))
    refine ⟨nonzero, other, ?_, shown⟩
    simp only [List.mem_append, List.mem_cons, different, false_or] at member ⊢
    exact member
  · intro holds
    apply holds.mono
    intro other member
    simp only [List.mem_append, List.mem_cons] at member ⊢
    exact member.imp_right Or.inr

end Descriptor

namespace Ownership

variable {files : FileSystem} {root : ProcRoot} {inodes others : List UInt64}

/-- Both tables pass for empty when nothing is asked for, so the test in front
of them changes nothing. -/
theorem rowsFor_eq (files : FileSystem) (root : ProcRoot) (inodes : List UInt64) :
    rowsFor files root inodes =
      match ConnectionTable.read files root.tcpTable .tcp inodes with
      | .ok streams =>
          match ConnectionTable.read files root.udpTable .udp inodes with
          | .ok datagrams => .ok (streams ++ datagrams)
          | .error failure => .error failure
      | .error failure => .error failure := by
  cases inodes with
  | nil => rfl
  | cons inode inodes => rfl

theorem rowsFor_congr (same : forall inode, inode ∈ inodes <-> inode ∈ others) :
    rowsFor files root inodes = rowsFor files root others := by
  simp only [rowsFor_eq, ConnectionTable.read_congr same]

theorem rowsFor_of_subset (inside : forall inode, inode ∈ inodes -> inode ∈ others)
    {rows : List Connection} (found : rowsFor files root others = .ok rows) :
    rowsFor files root inodes =
      .ok (rows.filter fun connection => decide (connection.inode ∈ inodes)) := by
  rw [rowsFor_eq] at found ⊢
  cases tcp : ConnectionTable.read files root.tcpTable .tcp others with
  | error failure =>
      rw [tcp] at found
      cases found
  | ok streams =>
      cases udp : ConnectionTable.read files root.udpTable .udp others with
      | error failure =>
          rw [tcp, udp] at found
          cases found
      | ok datagrams =>
          rw [tcp, udp] at found
          rw [ConnectionTable.read_of_subset inside tcp, ConnectionTable.read_of_subset inside udp,
            ← Except.ok.inj found, List.filter_append]

theorem correlate_congr_holds {first second : List Descriptor}
    (same : forall inode, Descriptor.Holds first inode <-> Descriptor.Holds second inode) :
    correlate files root first = correlate files root second := by
  unfold correlate
  apply rowsFor_congr
  intro inode
  rw [Descriptor.mem_inodes_iff_holds, Descriptor.mem_inodes_iff_holds, same]

/-- A list of descriptors stands for the set of its inodes.  Lists with one set
have one answer, rows or failure; so the order may change, a descriptor may be
repeated, and one without an inode or with inode zero may be added anywhere.
Of two sets the smaller one has an answer if the larger one has, and this is
the part of the other's rows, in order, that it names. -/
theorem correlate_by_inodes (files : FileSystem) (root : ProcRoot) (first second : List Descriptor) :
    ((forall inode, Descriptor.Holds first inode <-> Descriptor.Holds second inode) ->
      correlate files root first = correlate files root second) ∧
    (first.Perm second -> correlate files root first = correlate files root second) ∧
    (forall descriptor, descriptor ∈ first ++ second ->
      correlate files root (first ++ descriptor :: second) =
        correlate files root (first ++ second)) ∧
    (forall descriptor : Descriptor, descriptor.inode = none ∨ descriptor.inode = some 0 ->
      correlate files root (first ++ descriptor :: second) =
        correlate files root (first ++ second)) ∧
    forall rows, (forall inode, Descriptor.Holds first inode -> Descriptor.Holds second inode) ->
      correlate files root second = .ok rows ->
        correlate files root first =
          .ok (rows.filter fun connection => Descriptor.Holds first connection.inode) := by
  refine ⟨correlate_congr_holds, ?_, ?_, ?_, ?_⟩
  · intro shuffled
    exact correlate_congr_holds (Descriptor.holds_congr fun descriptor => shuffled.mem_iff)
  · intro descriptor again
    apply correlate_congr_holds
    apply Descriptor.holds_congr
    intro other
    simp only [List.mem_append, List.mem_cons] at again ⊢
    constructor
    · rintro (front | rfl | back)
      · exact Or.inl front
      · exact again
      · exact Or.inr back
    · exact Or.imp_right Or.inr
  · intro descriptor idle
    exact correlate_congr_holds (Descriptor.holds_insert_idle idle)
  · intro rows inside found
    have fewer : forall inode, inode ∈ Descriptor.inodes first ->
        inode ∈ Descriptor.inodes second := by
      simpa only [Descriptor.mem_inodes_iff_holds] using inside
    unfold correlate at found ⊢
    simpa only [Descriptor.mem_inodes_iff_holds] using rowsFor_of_subset fewer found

namespace Sample

/-- The tables alone: two rows in the one, and the other one empty. -/
def tables : FileSystem where
  tree := .directory
      [(Utf8.encode "net", .directory
        [(Utf8.encode "tcp", .file (Utf8.encode
            "\n0 0100007F:50 00000000:0 A - - - 0 - 43\n1 0100007F:50 00000000:0 A - - - 0 - 42") false),
          (Utf8.encode "udp", .file [] false)] .free)]
      .free
  working := none

/-- Two links to one socket, and a link to the socket of no inode. -/
def few : List Descriptor :=
  [.ofTarget 3 "socket:[42]", .ofTarget 4 "socket:[0]", .ofTarget 5 "socket:[042]"]

/-- A second socket in front of the first one. -/
def more : List Descriptor :=
  [.ofTarget 6 "socket:[43]", .ofTarget 7 "pipe:[44]", .ofTarget 8 "socket:[42]"]

end Sample

theorem correlate_by_inodes_sample :
    (forall inode, Descriptor.Holds Sample.few inode -> Descriptor.Holds Sample.more inode) ∧
      correlate Sample.tables Sample.mount Sample.more =
        .ok [{ Sample.listener with inode := 43 }, Sample.listener] ∧
      correlate Sample.tables Sample.mount Sample.few = .ok [Sample.listener] := by
  have inside : forall inode, Descriptor.Holds Sample.few inode ->
      Descriptor.Holds Sample.more inode := by
    have first : Descriptor.inodes Sample.few = [42] := by decide
    have second : Descriptor.inodes Sample.more = [42, 43] := by decide
    intro inode held
    rw [← Descriptor.mem_inodes_iff_holds, first, List.mem_singleton] at held
    rw [← Descriptor.mem_inodes_iff_holds, second, held]
    exact List.mem_cons_self
  have found : correlate Sample.tables Sample.mount Sample.more =
      .ok [{ Sample.listener with inode := 43 }, Sample.listener] := by decide +kernel
  have law := correlate_by_inodes Sample.tables Sample.mount Sample.few Sample.more
  exact ⟨inside, found, law.2.2.2.2 _ inside found⟩

end Ownership
end ProcInspection
