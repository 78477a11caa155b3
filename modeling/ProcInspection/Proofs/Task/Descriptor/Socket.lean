import ProcInspection.Proofs.Task.Descriptor

namespace ProcInspection

/-!
Which links are sockets.

The inode of a socket is read from the decoded target of its link.  It is there
for those raw targets that are written as the target of a socket, and for no
others.  A target with a broken byte is shown with a character that no number
has, so that it is never taken for a socket, and a number that is too large is
no inode instead of another one.
-/

namespace DescriptorKind

theorem ofTarget_eq_socket_iff (target : String) :
    ofTarget target = .socket <-> "socket:".toList <+: target.toList := by
  rw [← List.isPrefixOf_iff_prefix]
  unfold ofTarget
  by_cases starts : List.isPrefixOf "socket:".toList target.toList = true
  · exact iff_of_true (if_pos starts) starts
  · apply iff_of_false _ starts
    simp only [if_neg starts]
    split_ifs <;> decide

end DescriptorKind

namespace Descriptor

/-- The target that the system shows for a socket. -/
def socketTarget (inode : UInt64) : Bytes :=
  Utf8.encode "socket:[" ++ Utf8.encode (Decimal.text inode.toNat) ++ Utf8.encode "]"

theorem isSocketTarget_socketTarget (inode : UInt64) : IsSocketTarget (socketTarget inode) inode :=
  ⟨_, rfl, Decimal.denotes_text inode.toNat⟩

theorem kind_of_socketInode? {target : String} {inode : UInt64}
    (read : socketInode? target = some inode) : DescriptorKind.ofTarget target = .socket := by
  rcases (socketInode?_eq_some_iff target inode).mp read with ⟨digits, whole, _⟩
  rw [DescriptorKind.ofTarget_eq_socket_iff, whole]
  exact ⟨'[' :: (digits ++ [']']), rfl⟩

/-- The number in a target is the inode itself, never its rest by the size of a
machine word. -/
theorem inode_eq_some_iff (target : Bytes) (value : Nat) :
    (socketInode? (Utf8.decodeLossy target)).map UInt64.toNat = some value <->
      Exists fun digits : Bytes =>
        target = Utf8.encode "socket:[" ++ digits ++ Utf8.encode "]" ∧
          Decimal.Denotes (digits.map UInt8.toNat) value ∧ value < UInt64.size := by
  rw [Option.map_eq_some_iff]
  constructor
  · rintro ⟨inode, read, rfl⟩
    rcases (socketInode?_decodeLossy_iff target inode).mp read with ⟨digits, whole, denotes⟩
    exact ⟨digits, whole, denotes, inode.toNat_lt⟩
  · rintro ⟨digits, whole, denotes, small⟩
    have same : (UInt64.ofNat value).toNat = value := UInt64.toNat_ofNat_of_lt' small
    rw [← same] at denotes
    exact ⟨_, (socketInode?_decodeLossy_iff target _).mpr ⟨digits, whole, denotes⟩, same⟩

/-- A target that is no text is no socket. -/
theorem socketInode?_of_broken {target : Bytes} (broken : Utf8.decode? target = none) :
    socketInode? (Utf8.decodeLossy target) = none := by
  apply Option.eq_none_iff_forall_ne_some.mpr
  intro inode read
  rcases (socketInode?_decodeLossy_iff target inode).mp read with ⟨bytes, whole, denotes⟩
  rcases (Decimal.denotes_bytes_iff _ _).mp denotes with ⟨digits, written, _⟩
  have text : Utf8.encode (String.ofList ("socket:[".toList ++ digits ++ "]".toList)) = target := by
    rw [whole, written, Utf8.encode, String.toList_ofList, Utf8.encodeChars_append,
      Utf8.encodeChars_append]
    rfl
  rw [← text, Utf8.decode?_eq_some_iff.mpr rfl] at broken
  cases broken

/-- A link is a socket if its raw target is `socket:[`, digits, and `]`, and the
number that these digits are fits.  Decoding makes no socket of a broken target.
Every socket is listed as one, and the target that the system shows for a socket
gives its inode. -/
theorem sockets_exact (number : UInt32) :
    (forall (target : Bytes) (value : Nat),
      (ofTarget number (Utf8.decodeLossy target)).inode.map UInt64.toNat = some value <->
        Exists fun digits : Bytes =>
          target = Utf8.encode "socket:[" ++ digits ++ Utf8.encode "]" ∧
            Decimal.Denotes (digits.map UInt8.toNat) value ∧ value < UInt64.size) ∧
    (forall target : Bytes, Utf8.decode? target = none ->
      (ofTarget number (Utf8.decodeLossy target)).inode = none) ∧
    (forall (target : String) (inode : UInt64),
      (ofTarget number target).inode = some inode -> (ofTarget number target).kind = .socket) ∧
    forall inode : UInt64,
      (ofTarget number (Utf8.decodeLossy (socketTarget inode))).inode = some inode := by
  simp only [ofTarget]
  refine ⟨inode_eq_some_iff, fun _ => socketInode?_of_broken, fun _ _ => kind_of_socketInode?, ?_⟩
  intro inode
  exact (socketInode?_decodeLossy_iff _ inode).mpr (isSocketTarget_socketTarget inode)

namespace Sample

/-- A socket with zeros in front of its number. -/
def padded : Bytes :=
  Utf8.encode "socket:[0042]"

/-- The same with a broken byte among the digits. -/
def broken : Bytes :=
  Utf8.encode "socket:[00" ++ [0xFF] ++ Utf8.encode "42]"

end Sample

theorem sockets_exact_padded :
    (ofTarget 3 (Utf8.decodeLossy Sample.padded)).inode = some 42 ∧
      (ofTarget 3 (Utf8.decodeLossy Sample.padded)).kind = .socket ∧
      (ofTarget 3 (Utf8.decodeLossy Sample.broken)).inode = none := by
  have law := sockets_exact 3
  have digits : Decimal.Denotes ((Utf8.encode "0042").map UInt8.toNat) 42 :=
    ⟨by decide, by decide, by decide⟩
  have written : Sample.padded = Utf8.encode "socket:[" ++ Utf8.encode "0042" ++ Utf8.encode "]" := by
    decide
  have small : 42 < UInt64.size := by decide
  have read := (law.1 Sample.padded 42).mpr ⟨Utf8.encode "0042", written, digits, small⟩
  rcases Option.map_eq_some_iff.mp read with ⟨inode, found, same⟩
  have inodeIs : inode = 42 := UInt64.toNat_inj.mp same
  rw [inodeIs] at found
  have unreadable : Utf8.decode? Sample.broken = none := by decide +kernel
  exact ⟨found, law.2.2.1 _ 42 found, law.2.1 Sample.broken unreadable⟩

end Descriptor
end ProcInspection
