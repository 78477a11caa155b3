import ProcInspection.Proofs.Report.Document
import ProcInspection.Proofs.Report.Layout

namespace ProcInspection

/-!
The columns of the connection table.

A cell that fits into its column leaves the next one where it belongs, so all
rows are aligned with the heading.  No endpoint is too long for its column: four
octets, three dots, a colon and a port have at most twenty-one characters.  A
cell without a space ends where its padding begins, and so a row gives back all
that it was made from.
-/

namespace Column

theorem length_left {width : Nat} {cell : List Char} (fits : cell.length ≤ width) :
    (left width cell).length = width := by
  rw [left, List.length_append, List.length_replicate, Nat.add_sub_cancel' fits]

/-- A cell without a space is what stands before the padding. -/
theorem takeWhile_left {cell : List Char} (plain : ' ' ∉ cell) (width : Nat) :
    (left width cell).takeWhile (fun c => c ≠ ' ') = cell := by
  rw [left, List.takeWhile_append_of_pos (passes_before plain), List.takeWhile_replicate]
  exact List.append_nil cell

theorem left_inj {cell other : List Char} (plain : ' ' ∉ cell) (also : ' ' ∉ other) {width : Nat} :
    left width cell = left width other <-> cell = other := by
  constructor
  · intro same
    rw [← takeWhile_left plain width, same, takeWhile_left also]
  · rintro rfl
    rfl

end Column

/-! ## Endpoints -/

namespace Address

theorem dotted_injective : Function.Injective dotted := by
  intro address other same
  apply recovers.injective
  exact congrArg (fun dotted => Json.text (String.ofList dotted)) same

theorem length_dotted_le (address : Address) : address.dotted.length ≤ 15 := by
  have octet : forall value : UInt8, (Decimal.digits value.toNat).length ≤ 3 := fun value =>
    Decimal.length_digits_le (by decide) (Nat.lt_trans value.toNat_lt (by decide))
  have first := octet address.first
  have second := octet address.second
  have third := octet address.third
  have fourth := octet address.fourth
  simp only [dotted, List.length_append, List.length_cons]
  omega

/-- A dotted address holds digits and dots. -/
theorem not_mem_dotted {c : Char} (other : c.isDigit = false) (noDot : c ≠ '.') (address : Address) :
    c ∉ address.dotted := by
  simp only [dotted, List.mem_append, List.mem_cons, Decimal.not_mem_digits other, noDot, or_self,
    not_false_eq_true]

end Address

namespace Endpoint

theorem eq_of_parts {endpoint other : Endpoint} (address : endpoint.address = other.address)
    (port : endpoint.port = other.port) : endpoint = other :=
  congr (congrArg Endpoint.mk address) port

theorem length_dotted_le (endpoint : Endpoint) : endpoint.dotted.length ≤ 21 := by
  have address := endpoint.address.length_dotted_le
  have port : (Decimal.digits endpoint.port.toNat).length ≤ 5 :=
    Decimal.length_digits_le (by decide) (Nat.lt_trans endpoint.port.toNat_lt (by decide))
  rw [dotted, List.length_append, List.length_cons]
  omega

theorem space_not_mem_dotted (endpoint : Endpoint) : ' ' ∉ endpoint.dotted := by
  rw [dotted, List.mem_append, List.mem_cons]
  rintro (address | colon | port)
  · exact Address.not_mem_dotted rfl (by decide) _ address
  · exact absurd colon (by decide)
  · exact Decimal.not_mem_digits rfl _ port

theorem dotted_injective : Function.Injective dotted := by
  intro endpoint other same
  have split : forall endpoint : Endpoint, splitAtColon? endpoint.dotted =
      some (endpoint.address.dotted, Decimal.digits endpoint.port.toNat) := fun endpoint =>
    splitAtColon?_of_clean (Address.not_mem_dotted rfl (by decide) _) _
  have parts := split endpoint
  rw [same, split other] at parts
  rcases Prod.mk.inj (Option.some.inj parts) with ⟨addresses, ports⟩
  exact eq_of_parts (Address.dotted_injective addresses.symm)
    (UInt16.toNat.inj (Decimal.digits_injective ports.symm))

end Endpoint

theorem Protocol.text_inj {protocol other : Protocol} :
    protocol.text.toList = other.text.toList <-> protocol = other := by
  cases protocol <;> cases other <;> decide

theorem Protocol.space_not_mem_text (protocol : Protocol) : ' ' ∉ protocol.text.toList := by
  cases protocol <;> decide

theorem Protocol.length_text_le (protocol : Protocol) : protocol.text.toList.length ≤ 5 := by
  cases protocol <;> decide

theorem ConnectionState.text_injective : Function.Injective text := by
  intro state other same
  apply recovers.injective
  exact congrArg Json.text same

namespace Report

/-! ## Rows -/

/-- A cell begins at an offset of a line: a space stands in front of it, and behind
it another one unless the line ends there. -/
def StandsAt (line cell : Line) (offset : Nat) : Prop :=
  Exists fun front : Line => Exists fun rest : Line =>
    line = front ++ ' ' :: (cell ++ rest) ∧ front.length + 1 = offset ∧
      forall c, rest.head? = some c -> c = ' '

/-- The cells of a line of the connection table, each at the offset of its column. -/
structure Aligned (line protocol here there state : Line) : Prop where
  protocol : StandsAt line protocol 2
  here : StandsAt line here 9
  there : StandsAt line there 32
  state : StandsAt line state 55

/-- A line of the table, the heading included. -/
def tableRow (protocol here there state : Line) : Line :=
  gap ++ Column.left 5 protocol ++ gap ++ Column.left 21 here ++ gap ++ Column.left 21 there
    ++ gap ++ state

theorem socketRow_eq (connection : Connection) :
    socketRow connection = tableRow connection.protocol.text.toList connection.localEnd.dotted
      connection.remoteEnd.dotted connection.state.text.toList :=
  rfl

theorem socketHeading_eq :
    socketHeading.toList = tableRow "Proto".toList "Local Address".toList "Remote Address".toList
      "State".toList := by
  decide

theorem standsAt_left {front cell : Line} {offset : Nat} (width : Nat) (rest : Line)
    (before : front.length + 2 = offset) :
    StandsAt (front ++ gap ++ Column.left width cell ++ gap ++ rest) cell offset := by
  refine ⟨front ++ [' '], List.replicate (width - cell.length) ' ' ++ gap ++ rest, ?_, ?_, ?_⟩
  · simp [gap, Column.left]
  · rw [List.length_append, List.length_singleton]
    exact before
  · intro c first
    cases padding : width - cell.length with
    | zero =>
        rw [padding] at first
        exact (Option.some.inj first).symm
    | succ more =>
        rw [padding] at first
        exact (Option.some.inj first).symm

theorem aligned_tableRow {protocol here there : Line} (short : protocol.length ≤ 5)
    (hereFits : here.length ≤ 21) (thereFits : there.length ≤ 21) (state : Line) :
    Aligned (tableRow protocol here there state) protocol here there state where
  protocol := by
    have stands : StandsAt ([] ++ gap ++ Column.left 5 protocol ++ gap ++
        (Column.left 21 here ++ gap ++ Column.left 21 there ++ gap ++ state)) protocol 2 :=
      standsAt_left 5 _ rfl
    simpa [tableRow] using stands
  here := by
    have stands : StandsAt (gap ++ Column.left 5 protocol ++ gap ++ Column.left 21 here ++ gap ++
        (Column.left 21 there ++ gap ++ state)) here 9 := by
      apply standsAt_left
      rw [List.length_append, Column.length_left short]
      rfl
    simpa [tableRow] using stands
  there := by
    apply standsAt_left
    simp only [List.length_append, Column.length_left short, Column.length_left hereFits]
    rfl
  state := by
    refine ⟨gap ++ Column.left 5 protocol ++ gap ++ Column.left 21 here ++ gap
      ++ Column.left 21 there ++ [' '], [], ?_, ?_, ?_⟩
    · simp [tableRow, gap]
    · simp only [List.length_append, Column.length_left short, Column.length_left hereFits,
        Column.length_left thereFits]
      rfl
    · intro c first
      cases first

theorem aligned_socketRow (connection : Connection) :
    Aligned (socketRow connection) connection.protocol.text.toList connection.localEnd.dotted
      connection.remoteEnd.dotted connection.state.text.toList := by
  rw [socketRow_eq]
  apply aligned_tableRow
  · exact connection.protocol.length_text_le
  · exact connection.localEnd.length_dotted_le
  · exact connection.remoteEnd.length_dotted_le

/-- The columns have one width in all rows, so equal rows have equal columns. -/
theorem columns_of_socketRow {first second : Connection}
    (same : socketRow first = socketRow second) :
    Column.left 5 first.protocol.text.toList = Column.left 5 second.protocol.text.toList ∧
      Column.left 21 first.localEnd.dotted = Column.left 21 second.localEnd.dotted ∧
      Column.left 21 first.remoteEnd.dotted = Column.left 21 second.remoteEnd.dotted ∧
      first.state.text.toList = second.state.text.toList := by
  have narrow : forall connection : Connection,
      (Column.left 5 connection.protocol.text.toList).length = 5 :=
    fun connection => Column.length_left connection.protocol.length_text_le
  have wide : forall endpoint : Endpoint, (Column.left 21 endpoint.dotted).length = 21 :=
    fun endpoint => Column.length_left endpoint.length_dotted_le
  unfold socketRow at same
  rcases List.append_inj same (by simp only [List.length_append, narrow, wide]) with ⟨same, states⟩
  rcases List.append_inj' same rfl with ⟨same, _⟩
  rcases List.append_inj' same ((wide _).trans (wide _).symm) with ⟨same, theres⟩
  rcases List.append_inj' same rfl with ⟨same, _⟩
  rcases List.append_inj' same ((wide _).trans (wide _).symm) with ⟨same, heres⟩
  rcases List.append_inj' same rfl with ⟨same, _⟩
  rcases List.append_inj' same ((narrow _).trans (narrow _).symm) with ⟨_, protocols⟩
  exact ⟨protocols, heres, theres, states⟩

/-- What a row shows of a connection: all but its owner and its inode. -/
structure ShownAlike (first second : Connection) : Prop where
  protocol : first.protocol = second.protocol
  localAddress : first.localEnd.address = second.localEnd.address
  localPort : first.localEnd.port = second.localEnd.port
  remoteAddress : first.remoteEnd.address = second.remoteEnd.address
  remotePort : first.remoteEnd.port = second.remoteEnd.port
  state : first.state = second.state

theorem socketRow_eq_iff (first second : Connection) :
    socketRow first = socketRow second <-> ShownAlike first second := by
  have endpoint_inj : forall {endpoint other : Endpoint},
      Column.left 21 endpoint.dotted = Column.left 21 other.dotted <-> endpoint = other :=
    fun {endpoint other} => (Column.left_inj endpoint.space_not_mem_dotted
      other.space_not_mem_dotted).trans Endpoint.dotted_injective.eq_iff
  constructor
  · intro same
    rcases columns_of_socketRow same with ⟨protocols, heres, theres, states⟩
    have here := endpoint_inj.mp heres
    have there := endpoint_inj.mp theres
    have protocol := (Column.left_inj first.protocol.space_not_mem_text
      second.protocol.space_not_mem_text).mp protocols
    exact ⟨Protocol.text_inj.mp protocol, congrArg Endpoint.address here,
      congrArg Endpoint.port here, congrArg Endpoint.address there, congrArg Endpoint.port there,
      ConnectionState.text_injective (String.toList_injective states)⟩
  · intro alike
    have here : first.localEnd = second.localEnd :=
      Endpoint.eq_of_parts alike.localAddress alike.localPort
    have there : first.remoteEnd = second.remoteEnd :=
      Endpoint.eq_of_parts alike.remoteAddress alike.remotePort
    unfold socketRow
    rw [alike.protocol, here, there, alike.state]

/-! ## The table in the report -/

/-- The lines from the count of the connections to the end of a verbose text. -/
def socketTable (sockets : List Connection) : List Line :=
  countLine .sockets sockets.length :: [] :: socketHeading.toList :: socketRule.toList
    :: sockets.map socketRow

/-- A verbose text ends with the table of the connections that were read, on lines
of its own. -/
theorem humanText_ends {report : Report} {sockets : List Connection}
    (read : report.sockets = some sockets) (sound : report.failures.sockets = none)
    (nonempty : sockets ≠ []) :
    Exists fun before : List Char =>
      (before = [] ∨ before.getLast? = some '\n') ∧
        (report.humanText true).toList = before ++ endLines (socketTable sockets) := by
  have block : report.socketBlock true = some (socketTable sockets) := by
    have rows : (sockets.map socketRow).isEmpty = false := by
      rw [List.isEmpty_map]
      exact List.isEmpty_eq_false_iff.mpr nonempty
    have failure : report.failures.get .sockets = none := sound
    simp only [socketBlock, sectionBlock, failure, read, Option.map_some, socketLines, tableLines,
      rows, Bool.not_false, Bool.and_self, if_true, socketTable]
  unfold humanText blocks
  rw [block, String.toList_ofList]
  generalize (if report.showsNetworkOnly then [] else report.processBlocks true) = front
  refine ⟨breakSection (front.foldl addBlock []), breakSection_ended _, ?_⟩
  exact List.foldl_concat addBlock [] (socketTable sockets) front

/-- The table of connections.  Where connections were read, a verbose text ends with
it.  Its heading and all its rows have their cells at the same four offsets, and each
row is one line.  No endpoint fills more than its column, so two connections have
one row if they agree in what the row shows, and only then. -/
theorem socketTable_aligned :
    (forall (report : Report) (sockets : List Connection), report.sockets = some sockets ->
      report.failures.sockets = none -> sockets ≠ [] ->
      Exists fun before : List Char =>
        (before = [] ∨ before.getLast? = some '\n') ∧
          (report.humanText true).toList = before ++ endLines (socketTable sockets)) ∧
    Aligned socketHeading.toList "Proto".toList "Local Address".toList "Remote Address".toList
      "State".toList ∧
    (forall connection : Connection, '\n' ∉ socketRow connection ∧
      Aligned (socketRow connection) connection.protocol.text.toList connection.localEnd.dotted
        connection.remoteEnd.dotted connection.state.text.toList) ∧
    (forall endpoint : Endpoint, endpoint.dotted.length ≤ 21) ∧
    forall first second : Connection,
      socketRow first = socketRow second <-> ShownAlike first second := by
  refine ⟨?_, ?_, ?_, ?_, ?_⟩
  · intro report sockets read sound nonempty
    exact humanText_ends read sound nonempty
  · rw [socketHeading_eq]
    exact aligned_tableRow (by decide) (by decide) (by decide) _
  · intro connection
    exact ⟨newline_not_mem_socketRow connection, aligned_socketRow connection⟩
  · intro endpoint
    exact endpoint.length_dotted_le
  · intro first second
    exact socketRow_eq_iff first second

namespace Sample

/-- A connection whose endpoints fill their columns. -/
def widest : Connection where
  protocol := .tcp
  localEnd := ⟨⟨255, 255, 255, 255⟩, 65535⟩
  remoteEnd := ⟨⟨255, 255, 255, 254⟩, 65534⟩
  state := .established
  owner := 0
  inode := 42

def widestReport : Report where
  pid := ⟨7⟩
  status := Status.empty ⟨7⟩
  descriptors := none
  threads := none
  sockets := some [widest]
  failures := .empty

end Sample

theorem socketTable_aligned_widest :
    Sample.widestReport.sockets = some [Sample.widest] ∧
      Sample.widestReport.failures.sockets = none ∧ [Sample.widest] ≠ [] ∧
      (Exists fun before : List Char =>
        (Sample.widestReport.humanText true).toList =
          before ++ endLines (socketTable [Sample.widest])) ∧
      socketRow Sample.widest =
        "  TCP    255.255.255.255:65535  255.255.255.254:65534  ESTABLISHED".toList ∧
      ¬ ShownAlike Sample.widest { Sample.widest with state := .listen } := by
  have law := socketTable_aligned
  have nonempty : [Sample.widest] ≠ [] := List.cons_ne_nil _ _
  rcases law.1 Sample.widestReport [Sample.widest] rfl rfl nonempty with ⟨before, _, text⟩
  refine ⟨rfl, rfl, nonempty, ⟨before, text⟩, by decide +kernel, ?_⟩
  intro alike
  exact absurd alike.state (by decide)

end Report
end ProcInspection
