import ProcInspection.Proofs.Connection.Lines
import ProcInspection.Proofs.Text.Number

namespace ProcInspection

/-!
Reading a connection table that was written.

Each part of a row is followed from the number that it shows to the word that
it becomes and back: the columns may be wider than their padding, the address
is turned round, and a row of any numbers stays one line.  A table of rows is
therefore read as the connections that the rows were written for.
-/

namespace Address

theorem toNumber_lt (address : Address) : address.toNumber < 16 ^ 8 := by
  have first := address.first.toNat_lt
  have second := address.second.toNat_lt
  have third := address.third.toNat_lt
  have fourth := address.fourth.toNat_lt
  unfold toNumber
  omega

/-- The four octets are the bytes of the number. -/
theorem ofNumber_toNumber (address : Address) : ofNumber address.toNumber = address := by
  have octet : forall (number : Nat) (byte : UInt8), number % 256 = byte.toNat ->
      UInt8.ofNat number = byte := by
    intro number byte same
    apply UInt8.toNat.inj
    rw [UInt8.toNat_ofNat']
    exact same
  have first := address.first.toNat_lt
  have second := address.second.toNat_lt
  have third := address.third.toNat_lt
  have fourth := address.fourth.toNat_lt
  unfold ofNumber toNumber
  rw [octet _ address.first (by omega), octet _ address.second (by omega),
    octet _ address.third (by omega), octet _ address.fourth (by omega)]

theorem decode?_encode (address : Address) : decode? address.encode = some address := by
  unfold decode? encode
  rw [Hex.value?_upper (by decide) (by decide) address.toNumber_lt, Option.map_some,
    ofNumber_toNumber]

end Address

namespace Hex

/-- The digits that are written are neither blank nor a colon. -/
theorem mem_upper_clean {c : Char} {width value : Nat} (member : c ∈ upper width value) :
    Blank.isBlank c = false ∧ c ≠ ':' := by
  rcases mem_upper member with ⟨digit, shown⟩
  have table : forall digit : Fin 16, Blank.isBlank (upperDigit digit.val) = false ∧
      upperDigit digit.val ≠ ':' := by decide
  rw [shown]
  exact table digit

theorem upper_ne_nil {width value : Nat} (wide : 0 < width) : upper width value ≠ [] := by
  intro empty
  have length := length_upper width value
  rw [empty, List.length_nil] at length
  exact Nat.ne_of_lt wide length

end Hex

namespace Endpoint

/-- A field is split at its first colon. -/
theorem splitAtColon?_of_clean {before : List Char} (clean : ':' ∉ before) (after : List Char) :
    splitAtColon? (before ++ ':' :: after) = some (before, after) := by
  rw [splitAtColon?, dropWhile_before clean, takeWhile_before clean]

/-- An endpoint that was written is read back. -/
theorem decode?_encode (endpoint : Endpoint) : decode? endpoint.encode = some endpoint := by
  have port : endpoint.port.toNat < 16 ^ 4 := endpoint.port.toNat_lt
  have clean : ':' ∉ endpoint.address.encode := fun member => (Hex.mem_upper_clean member).2 rfl
  unfold decode? encode
  rw [splitAtColon?_of_clean clean]
  have digits : Hex.value? 1 4 (Hex.upper 4 endpoint.port.toNat) = some endpoint.port.toNat :=
    Hex.value?_upper (by decide) (by decide) port
  simp only [Address.decode?_encode, digits, UInt16.ofNat_toNat]

theorem encode_ne_nil (endpoint : Endpoint) : endpoint.encode ≠ [] := by
  unfold encode
  exact List.append_ne_nil_of_right_ne_nil _ (List.cons_ne_nil _ _)

theorem mem_encode_clean {c : Char} {endpoint : Endpoint} (member : c ∈ endpoint.encode) :
    Blank.isBlank c = false := by
  rcases List.mem_append.mp member with address | rest
  · exact (Hex.mem_upper_clean address).1
  · rcases List.mem_cons.mp rest with colon | port
    · rw [colon]
      decide
    · exact (Hex.mem_upper_clean port).1

end Endpoint

namespace Connection

theorem slot_clean {c : Char} {slot : Nat} (member : c ∈ Decimal.digits slot ++ [':']) :
    Blank.isBlank c = false := by
  rcases List.mem_append.mp member with digit | colon
  · exact Decimal.mem_digits_clean digit
  · rw [List.mem_singleton.mp colon]
    decide

/-- A row is its cells with one space after each; only the two number columns
may have more in front. -/
theorem row_eq (slot : UInt64) (here there : List Char) (state : UInt8) (owner : UInt32)
    (inode : UInt64) :
    row slot here there state owner inode =
      Column.right 4 (Decimal.digits slot.toNat) ++ ([':'] ++ ' ' :: (here ++ ' ' :: (there ++ ' ' ::
        (Hex.upper 2 state.toNat ++ ' ' :: ("00000000:00000000 00:00000000 00000000".toList ++ ' ' ::
          (Column.right 5 (Decimal.digits owner.toNat) ++ ' ' :: ("       0".toList ++ ' ' ::
            (Decimal.digits inode.toNat ++ ' ' :: "1 0000000000000000 100 0 0 10 0".toList)))))))) := by
  unfold row
  simp only [List.append_assoc, List.cons_append]
  rfl

/-- The words of a row are the parts that it was written from. -/
theorem words_row (slot : UInt64) (here there : Endpoint) (state : UInt8) (owner : UInt32)
    (inode : UInt64) :
    Blank.words (row slot here.encode there.encode state owner inode) =
      (Decimal.digits slot.toNat ++ [':']) :: here.encode :: there.encode
        :: Hex.upper 2 state.toNat :: "00000000:00000000".toList :: "00:00000000".toList
        :: "00000000".toList :: Decimal.digits owner.toNat :: ['0']
        :: Decimal.digits inode.toNat :: Blank.words "1 0000000000000000 100 0 0 10 0".toList := by
  have space : Blank.isBlank ' ' = true := by decide
  have queues : Blank.words "00000000:00000000 00:00000000 00000000".toList =
      ["00000000:00000000".toList, "00:00000000".toList, "00000000".toList] := by decide
  have timeout : Blank.words "       0".toList = [['0']] := by decide
  have number : forall value rest, Blank.words (Decimal.digits value ++ ' ' :: rest) =
      Decimal.digits value :: Blank.words rest := fun value rest =>
    Blank.words_run_append space Nat.toDigits_ne_nil (fun _ => Decimal.mem_digits_clean) rest
  have endpoint : forall (field : Endpoint) rest, Blank.words (field.encode ++ ' ' :: rest) =
      field.encode :: Blank.words rest := fun field rest =>
    Blank.words_run_append space field.encode_ne_nil (fun _ => Endpoint.mem_encode_clean) rest
  rw [row_eq, Blank.words_column, ← List.append_assoc,
    Blank.words_run_append space (List.append_ne_nil_of_right_ne_nil _ (List.cons_ne_nil _ _))
      (fun _ => slot_clean),
    endpoint, endpoint, Blank.words_run_append space (Hex.upper_ne_nil (by decide))
      (fun _ member => (Hex.mem_upper_clean member).1),
    Blank.words_append_blank space, queues, Blank.words_column, number,
    Blank.words_append_blank space, timeout, number]
  rfl

/-- A row that was written is the connection that it was written for. -/
theorem ofRow?_row (protocol : Protocol) (slot : UInt64) (here there : Endpoint) (state : UInt8)
    (owner : UInt32) (inode : UInt64) :
    ofRow? protocol (row slot here.encode there.encode state owner inode) =
      some ⟨protocol, here, there, .ofNumber state.toNat, owner, inode⟩ := by
  have code : Hex.value? 1 2 (Hex.upper 2 state.toNat) = some state.toNat :=
    Hex.value?_upper (by decide) (by decide) state.toNat_lt
  rw [ofRow?, words_row]
  simp only [ofWords?, Endpoint.decode?_encode, code, Decimal.word32?_digits,
    Decimal.word64?_digits]

theorem newline_not_mem_of_clean {text : List Char}
    (clean : forall c, c ∈ text -> Blank.isBlank c = false) : '\n' ∉ text := by
  intro member
  have blank := clean '\n' member
  exact absurd blank (by decide)

theorem newline_not_mem_column {width : Nat} {cell : List Char} (clean : '\n' ∉ cell) :
    '\n' ∉ Column.right width cell := by
  unfold Column.right
  rw [List.mem_append, List.mem_replicate, not_or]
  exact ⟨fun space => absurd space.2 (by decide), clean⟩

/-- A row is one line, whatever numbers it shows. -/
theorem newline_not_mem_row (slot : UInt64) (here there : Endpoint) (state : UInt8)
    (owner : UInt32) (inode : UInt64) :
    '\n' ∉ row slot here.encode there.encode state owner inode := by
  have number : forall value, '\n' ∉ Decimal.digits value := fun _ =>
    newline_not_mem_of_clean fun _ => Decimal.mem_digits_clean
  have endpoint : forall field : Endpoint, '\n' ∉ field.encode := fun _ =>
    newline_not_mem_of_clean fun _ => Endpoint.mem_encode_clean
  have code : '\n' ∉ Hex.upper 2 state.toNat :=
    newline_not_mem_of_clean fun _ member => (Hex.mem_upper_clean member).1
  rw [row_eq]
  simp only [List.mem_append, List.mem_cons, not_or]
  exact ⟨newline_not_mem_column (number _), ⟨by decide, List.not_mem_nil⟩, by decide, endpoint _,
    by decide, endpoint _, by decide, code, by decide, by decide, by decide,
    newline_not_mem_column (number _), by decide, by decide, by decide, number _, by decide,
    by decide⟩

end Connection

namespace ConnectionTable

/-- What a row is written from. -/
structure Record where
  slot : UInt64
  localEnd : Endpoint
  remoteEnd : Endpoint
  state : UInt8
  owner : UInt32
  inode : UInt64

namespace Record

def row (record : Record) : List Char :=
  Connection.row record.slot record.localEnd.encode record.remoteEnd.encode record.state
    record.owner record.inode

/-- The connection that a record stands for in the table of a protocol. -/
def connection (protocol : Protocol) (record : Record) : Connection :=
  ⟨protocol, record.localEnd, record.remoteEnd, .ofNumber record.state.toNat, record.owner,
    record.inode⟩

theorem ofRow?_row (protocol : Protocol) (record : Record) :
    Connection.ofRow? protocol record.row = some (record.connection protocol) := by
  rw [row, Connection.ofRow?_row]
  rfl

theorem newline_not_mem_row (record : Record) : '\n' ∉ record.row := by
  rw [row]
  exact Connection.newline_not_mem_row record.slot record.localEnd record.remoteEnd record.state
    record.owner record.inode

end Record

/-- A table that was written has the heading, the rows and an empty rest. -/
theorem lines_write {rows : List (List Char)} (whole : forall row, row ∈ rows -> '\n' ∉ row) :
    lines (write rows) = heading.toList :: (rows ++ [[]]) :=
  lines_ofLines (List.forall_mem_cons.mpr ⟨by decide, whole⟩)

/-- The records of a table that was written come back in order, as far as they
are asked for. -/
theorem parse_write (protocol : Protocol) (targets : List UInt64) (records : List Record) :
    parse protocol targets (write (records.map Record.row)) =
      (records.filter fun record => record.inode ≠ 0 ∧ record.inode ∈ targets).map
        (Record.connection protocol) := by
  have whole : forall row, row ∈ records.map Record.row -> '\n' ∉ row := by
    intro row member
    rcases List.mem_map.mp member with ⟨record, _, written⟩
    rw [← written]
    exact record.newline_not_mem_row
  have decoded : (records.map Record.row ++ [[]]).filterMap (Connection.ofRow? protocol) =
      records.map (Record.connection protocol) := by
    have read : Connection.ofRow? protocol ∘ Record.row = some ∘ Record.connection protocol := by
      funext record
      rw [Function.comp_apply, Function.comp_apply, Record.ofRow?_row]
    have rest : [[]].filterMap (Connection.ofRow? protocol) = [] := rfl
    rw [List.filterMap_append, List.filterMap_map, read, rest, List.append_nil,
      List.filterMap_eq_map]
  have wanted : isWanted targets ∘ Record.connection protocol =
      fun record => decide (record.inode ≠ 0 ∧ record.inode ∈ targets) := by
    funext record
    rw [Bool.decide_and, ← List.contains_eq_mem]
    rfl
  unfold parse
  cases targets with
  | nil =>
      have empty : records.filter (fun record => record.inode ≠ 0 ∧ record.inode ∈ []) = [] :=
        List.filter_eq_nil_iff.mpr fun _ _ asked => List.not_mem_nil (of_decide_eq_true asked).2
      rw [empty]
      rfl
  | cons target targets =>
      rw [lines_write whole, List.drop_one, List.tail_cons, decoded, List.filter_map, wanted]
      rfl

end ConnectionTable
end ProcInspection
