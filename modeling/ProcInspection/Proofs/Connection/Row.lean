import ProcInspection.Proofs.Connection.Endpoint

namespace ProcInspection

/-!
Which lines are rows, and what is read off them.

A row is known by five of its words, each with an alphabet, a width and a bound
of its own; the words around them are not looked at.  A line that is a row is
therefore one connection, whatever else it says.
-/

namespace Endpoint

/-- Eight digits, a colon, and one to four digits. -/
structure IsField (address port field : List Char) : Prop where
  written : field = address ++ ':' :: port
  width : address.length = 8
  address : forall c, c ∈ address -> Hex.IsDigit c
  nonempty : port ≠ []
  short : port.length ≤ 4
  port : forall c, c ∈ port -> Hex.IsDigit c

/-- Every such field spells an endpoint: all numbers of these widths are in
range. -/
theorem exists_spells {address port field : List Char} (shaped : IsField address port field) :
    Exists fun endpoint : Endpoint => Spells address port endpoint := by
  have addressDenotes := Hex.denotes_of_digits shaped.address
  have portDenotes := Hex.denotes_of_digits shaped.port
  have addressSmall := addressDenotes.lt
  rw [shaped.width] at addressSmall
  have portSmall : Hex.total 0 port < UInt16.size :=
    Nat.lt_of_lt_of_le portDenotes.lt (Nat.pow_le_pow_right (by decide) shaped.short)
  refine ⟨⟨.ofNumber (Hex.total 0 address), .ofNat (Hex.total 0 port)⟩, ?_, shaped.nonempty,
    shaped.short, ?_⟩
  · apply (Address.spells_iff _ _).mpr
    rw [Address.toNumber_ofNumber addressSmall]
    exact ⟨shaped.width, addressDenotes⟩
  · rw [UInt16.toNat_ofNat_of_lt' portSmall]
    exact portDenotes

theorem Spells.isField {address port : List Char} {endpoint : Endpoint}
    (spells : Spells address port endpoint) : IsField address port (address ++ ':' :: port) := by
  rcases (Address.spells_iff _ _).mp spells.address with ⟨width, denotes⟩
  exact ⟨rfl, width, denotes.each, spells.nonempty, spells.short, spells.port.each⟩

end Endpoint

namespace Connection

/-- The words by which a line is known as a row. -/
structure IsRow (words : List (List Char)) : Prop where
  enough : 10 ≤ words.length
  localEnd : Exists fun address => Exists fun port => Endpoint.IsField address port words[1]
  remoteEnd : Exists fun address => Exists fun port => Endpoint.IsField address port words[2]
  stateWidth : 1 ≤ words[3].length ∧ words[3].length ≤ 2
  state : forall c, c ∈ words[3] -> Hex.IsDigit c
  owner : Exists fun value => Decimal.Denotes (words[7].map Char.toNat) value ∧ value < 2 ^ 32
  inode : Exists fun value => Decimal.Denotes (words[9].map Char.toNat) value ∧ value < 2 ^ 64

/-- The connection that the words of a row describe. -/
structure Describes (protocol : Protocol) (words : List (List Char)) (connection : Connection) :
    Prop where
  enough : 10 ≤ words.length
  protocol : connection.protocol = protocol
  localEnd : Exists fun address => Exists fun port =>
    words[1] = address ++ ':' :: port ∧ Endpoint.Spells address port connection.localEnd
  remoteEnd : Exists fun address => Exists fun port =>
    words[2] = address ++ ':' :: port ∧ Endpoint.Spells address port connection.remoteEnd
  state : Exists fun code =>
    ((1 ≤ words[3].length ∧ words[3].length ≤ 2) ∧ Hex.Denotes words[3] code) ∧
      connection.state = .ofNumber code
  owner : Decimal.Denotes (words[7].map Char.toNat) connection.owner.toNat
  inode : Decimal.Denotes (words[9].map Char.toNat) connection.inode.toNat

variable {protocol : Protocol} {words : List (List Char)} {connection : Connection}

/-- The connection behind five words. -/
def ofParts? (protocol : Protocol) (here there state owner inode : List Char) :
    Option Connection :=
  match Endpoint.decode? here, Endpoint.decode? there, Hex.value? 1 2 state,
      Decimal.word32? owner, Decimal.word64? inode with
  | some here, some there, some state, some owner, some inode =>
      some ⟨protocol, here, there, .ofNumber state, owner, inode⟩
  | _, _, _, _, _ => none

/-- Only five words of a line are looked at. -/
theorem ofWords?_eq (enough : 10 ≤ words.length) :
    ofWords? protocol words = ofParts? protocol words[1] words[2] words[3] words[7] words[9] := by
  have cut : words = words[0] :: words[1] :: words[2] :: words[3] :: words[4] :: words[5]
      :: words[6] :: words[7] :: words[8] :: words[9] :: words.drop 10 := by
    simp only [List.getElem_cons_drop, List.drop_zero]
  conv => lhs; rw [cut]
  rfl

theorem ofWords?_short (short : words.length < 10) : ofWords? protocol words = none := by
  unfold ofWords?
  split
  · simp only [List.length_cons] at short
    omega
  · rfl

theorem ofParts?_eq_some_iff (here there state owner inode : List Char) :
    ofParts? protocol here there state owner inode = some connection <->
      connection.protocol = protocol ∧ Endpoint.decode? here = some connection.localEnd ∧
        Endpoint.decode? there = some connection.remoteEnd ∧
        (Exists fun code => Hex.value? 1 2 state = some code ∧
          connection.state = .ofNumber code) ∧
        Decimal.word32? owner = some connection.owner ∧
        Decimal.word64? inode = some connection.inode := by
  unfold ofParts?
  constructor
  · intro read
    split at read
    · next localEnd remoteEnd code owner inode localRead remoteRead stateRead ownerRead inodeRead =>
        rw [← Option.some.inj read]
        exact ⟨rfl, localRead, remoteRead, ⟨code, stateRead, rfl⟩, ownerRead, inodeRead⟩
    · cases read
  · rcases connection with ⟨kind, localEnd, remoteEnd, reached, user, number⟩
    rintro ⟨rfl, localRead, remoteRead, ⟨code, stateRead, rfl⟩, ownerRead, inodeRead⟩
    simp only [localRead, remoteRead, stateRead, ownerRead, inodeRead]

/-- The words of a line are read exactly as the connection that they describe. -/
theorem ofWords?_eq_some_iff :
    ofWords? protocol words = some connection <-> Describes protocol words connection := by
  rcases Nat.lt_or_ge words.length 10 with short | enough
  · rw [ofWords?_short short]
    exact ⟨nofun, fun describes => absurd describes.enough (Nat.not_le_of_gt short)⟩
  · rw [ofWords?_eq enough, ofParts?_eq_some_iff]
    simp only [Endpoint.decode?_eq_some_iff, Hex.value?_eq_some_iff,
      Decimal.word32?_eq_some_iff, Decimal.word64?_eq_some_iff]
    constructor
    · rintro ⟨protocol, localEnd, remoteEnd, state, owner, inode⟩
      exact ⟨enough, protocol, localEnd, remoteEnd, state, owner, inode⟩
    · rintro ⟨_, protocol, localEnd, remoteEnd, state, owner, inode⟩
      exact ⟨protocol, localEnd, remoteEnd, state, owner, inode⟩

theorem Describes.isRow (describes : Describes protocol words connection) : IsRow words := by
  rcases describes.localEnd with ⟨here, herePort, hereWritten, hereSpells⟩
  rcases describes.remoteEnd with ⟨there, therePort, thereWritten, thereSpells⟩
  rcases describes.state with ⟨code, ⟨width, denotes⟩, _⟩
  refine ⟨describes.enough, ⟨here, herePort, ?_⟩, ⟨there, therePort, ?_⟩, width, denotes.each,
    ⟨_, describes.owner, connection.owner.toNat_lt⟩, ⟨_, describes.inode, connection.inode.toNat_lt⟩⟩
  · rw [hereWritten]
    exact hereSpells.isField
  · rw [thereWritten]
    exact thereSpells.isField

/-- Every row describes a connection. -/
theorem IsRow.exists_describes (row : IsRow words) (protocol : Protocol) :
    Exists fun connection : Connection => Describes protocol words connection := by
  rcases row.localEnd with ⟨here, herePort, hereField⟩
  rcases row.remoteEnd with ⟨there, therePort, thereField⟩
  rcases Endpoint.exists_spells hereField with ⟨localEnd, hereSpells⟩
  rcases Endpoint.exists_spells thereField with ⟨remoteEnd, thereSpells⟩
  have enough := row.enough
  rcases row.owner with ⟨owner, ownerDenotes, ownerSmall⟩
  rcases row.inode with ⟨inode, inodeDenotes, inodeSmall⟩
  refine ⟨⟨protocol, localEnd, remoteEnd, .ofNumber (Hex.total 0 words[3]), .ofNat owner,
    .ofNat inode⟩, enough, rfl, ⟨here, herePort, hereField.written, hereSpells⟩,
    ⟨there, therePort, thereField.written, thereSpells⟩,
    ⟨_, ⟨row.stateWidth, Hex.denotes_of_digits row.state⟩, rfl⟩, ?_, ?_⟩
  · rw [UInt32.toNat_ofNat_of_lt' ownerSmall]
    exact ownerDenotes
  · rw [UInt64.toNat_ofNat_of_lt' inodeSmall]
    exact inodeDenotes

theorem isSome_ofWords?_iff : (ofWords? protocol words).isSome = true <-> IsRow words := by
  rw [Option.isSome_iff_exists]
  simp only [ofWords?_eq_some_iff]
  constructor
  · rintro ⟨connection, describes⟩
    exact describes.isRow
  · intro row
    exact row.exists_describes protocol

/-- Two lines with the same five words are read alike. -/
theorem ofWords?_congr {others : List (List Char)} (enough : 10 ≤ words.length)
    (enoughToo : 10 ≤ others.length)
    (same : forall i, i ∈ [1, 2, 3, 7, 9] -> others[i]? = words[i]?) :
    ofWords? protocol others = ofWords? protocol words := by
  have word : forall i, i ∈ [1, 2, 3, 7, 9] -> forall (inside : i < words.length)
      (insideToo : i < others.length), others[i] = words[i] := by
    intro i member inside insideToo
    have found := same i member
    rw [List.getElem?_eq_getElem inside, List.getElem?_eq_getElem insideToo] at found
    exact Option.some.inj found
  rw [ofWords?_eq enough, ofWords?_eq enoughToo, word 1 (by decide), word 2 (by decide),
    word 3 (by decide), word 7 (by decide), word 9 (by decide)]

/-- A line has one division into words.  It is read exactly if these are the
words of a row, and then as the connection that they describe.  Of two lines
that are long enough, words other than the five may differ. -/
theorem ofRow?_exact (protocol : Protocol) (line : List Char) :
    Exists fun words : List (List Char) =>
      (forall runs, Blank.Runs line runs <-> runs = words) ∧
      ((ofRow? protocol line).isSome = true <-> IsRow words) ∧
      (forall connection, ofRow? protocol line = some connection <->
        Describes protocol words connection) ∧
      forall (other : List Char) (others : List (List Char)), Blank.Runs other others ->
        10 ≤ words.length -> 10 ≤ others.length ->
          (forall i, i ∈ [1, 2, 3, 7, 9] -> others[i]? = words[i]?) ->
            ofRow? protocol other = ofRow? protocol line := by
  refine ⟨Blank.words line, Blank.runs_iff line, isSome_ofWords?_iff,
    fun connection => ofWords?_eq_some_iff, ?_⟩
  intro other others runs enough enoughToo same
  rw [(Blank.runs_iff other others).mp runs] at enoughToo same
  exact ofWords?_congr enough enoughToo same

end Connection
end ProcInspection
