import Mathlib.Data.List.TakeWhile
import ProcInspection.Proofs.Connection.RoundTrip
import ProcInspection.Proofs.Text.Hex

namespace ProcInspection

/-!
The table form of endpoints.

A field is an endpoint exactly if its parts around the colon spell one: eight
digits that are the octets from the last to the first, and one to four digits
that are the port.  Case and zeros in front of the port are the only freedom,
so writing what was read gives the one form that all fields of an endpoint
have in common.
-/

namespace Hex

/-- Two digits that are one octet. -/
structure SpellsOctet (pair : List Char) (octet : UInt8) : Prop where
  width : pair.length = 2
  denotes : Denotes pair octet.toNat

theorem exists_pair {digits : List Char} {width : Nat} (wide : digits.length = width + 2) :
    Exists fun pair : List Char => Exists fun rest : List Char =>
      digits = pair ++ rest ∧ pair.length = 2 ∧ rest.length = width := by
  refine ⟨digits.take 2, digits.drop 2, (List.take_append_drop 2 digits).symm, ?_, ?_⟩
  · rw [List.length_take, wide]
    omega
  · rw [List.length_drop, wide]
    omega

theorem lt_of_denotes_pair {pair : List Char} {value : Nat} (width : pair.length = 2)
    (denotes : Denotes pair value) : value < 256 := by
  have small := denotes.lt
  rw [width] at small
  exact small

/-- Four pairs of digits are the bytes of a number, the highest one first. -/
theorem denotes_pairs_iff {fourth third second first : List Char} (thirdWidth : third.length = 2)
    (secondWidth : second.length = 2) (firstWidth : first.length = 2) (value : Nat) :
    Denotes (fourth ++ (third ++ (second ++ first))) value <->
      Exists fun d : Nat => Exists fun c : Nat => Exists fun b : Nat => Exists fun a : Nat =>
        (Denotes fourth d ∧ Denotes third c ∧ Denotes second b ∧ Denotes first a) ∧
          value = a + 256 * (b + 256 * (c + 256 * d)) := by
  simp only [denotes_append_iff, List.length_append, thirdWidth, secondWidth, firstWidth]
  constructor
  · rintro ⟨d, _, fourth, ⟨c, _, third, ⟨b, a, second, first, rfl⟩, rfl⟩, rfl⟩
    exact ⟨d, c, b, a, ⟨fourth, third, second, first⟩, by omega⟩
  · rintro ⟨d, c, b, a, ⟨fourth, third, second, first⟩, rfl⟩
    exact ⟨d, _, fourth, ⟨c, _, third, ⟨b, a, second, first, rfl⟩, rfl⟩, by omega⟩

end Hex

namespace Address

/-- Eight digits, of which each two are an octet, the last octet first. -/
inductive Spells : List Char -> Address -> Prop where
  | pairs {address : Address} {fourth third second first : List Char}
      (fourthOctet : Hex.SpellsOctet fourth address.fourth)
      (thirdOctet : Hex.SpellsOctet third address.third)
      (secondOctet : Hex.SpellsOctet second address.second)
      (firstOctet : Hex.SpellsOctet first address.first) :
      Spells (fourth ++ (third ++ (second ++ first))) address

theorem toNumber_ofNumber {number : Nat} (small : number < 16 ^ 8) :
    (ofNumber number).toNumber = number := by
  simp only [ofNumber, toNumber, UInt8.toNat_ofNat']
  omega

theorem ofNumber_eq_iff {number : Nat} (small : number < 16 ^ 8) (address : Address) :
    ofNumber number = address <-> number = address.toNumber := by
  constructor
  · rintro rfl
    exact (toNumber_ofNumber small).symm
  · rintro rfl
    exact ofNumber_toNumber address

/-- A number has one decomposition into bytes. -/
theorem octets_of_toNumber {address : Address} {a b c d : Nat} (aSmall : a < 256) (bSmall : b < 256)
    (cSmall : c < 256) (same : address.toNumber = a + 256 * (b + 256 * (c + 256 * d))) :
    a = address.first.toNat ∧ b = address.second.toNat ∧ c = address.third.toNat ∧
      d = address.fourth.toNat := by
  have first := address.first.toNat_lt
  have second := address.second.toNat_lt
  have third := address.third.toNat_lt
  unfold toNumber at same
  omega

/-- The octets of an address are the pairs of digits of its number. -/
theorem spells_iff (digits : List Char) (address : Address) :
    Spells digits address <-> digits.length = 8 ∧ Hex.Denotes digits address.toNumber := by
  constructor
  · rintro ⟨fourth, third, second, first⟩
    constructor
    · simp only [List.length_append, fourth.width, third.width, second.width, first.width]
    · exact (Hex.denotes_pairs_iff third.width second.width first.width _).mpr
        ⟨_, _, _, _, ⟨fourth.denotes, third.denotes, second.denotes, first.denotes⟩, rfl⟩
  · rintro ⟨width, denotes⟩
    rcases Hex.exists_pair width with ⟨fourth, rest, rfl, fourthWidth, width⟩
    rcases Hex.exists_pair width with ⟨third, rest, rfl, thirdWidth, width⟩
    rcases Hex.exists_pair width with ⟨second, first, rfl, secondWidth, firstWidth⟩
    rcases (Hex.denotes_pairs_iff thirdWidth secondWidth firstWidth _).mp denotes with
      ⟨d, c, b, a, ⟨fourthDenotes, thirdDenotes, secondDenotes, firstDenotes⟩, total⟩
    rcases octets_of_toNumber (Hex.lt_of_denotes_pair firstWidth firstDenotes)
      (Hex.lt_of_denotes_pair secondWidth secondDenotes)
      (Hex.lt_of_denotes_pair thirdWidth thirdDenotes) total with ⟨rfl, rfl, rfl, rfl⟩
    exact .pairs ⟨fourthWidth, fourthDenotes⟩ ⟨thirdWidth, thirdDenotes⟩
      ⟨secondWidth, secondDenotes⟩ ⟨firstWidth, firstDenotes⟩

theorem decode?_eq_some_iff (digits : List Char) (address : Address) :
    decode? digits = some address <-> Spells digits address := by
  rw [spells_iff, decode?, Option.map_eq_some_iff]
  simp only [Hex.value?_eq_some_iff]
  constructor
  · rintro ⟨number, ⟨⟨least, most⟩, denotes⟩, same⟩
    have width : digits.length = 8 := Nat.le_antisymm most least
    have small := denotes.lt
    rw [width] at small
    rw [← (ofNumber_eq_iff small address).mp same]
    exact ⟨width, denotes⟩
  · rintro ⟨width, denotes⟩
    exact ⟨address.toNumber, ⟨⟨Nat.le_of_eq width.symm, Nat.le_of_eq width⟩, denotes⟩,
      ofNumber_toNumber address⟩

theorem encode_of_spells {digits : List Char} {address : Address} (spells : Spells digits address) :
    address.encode = digits.map Char.toUpper := by
  rcases (spells_iff digits address).mp spells with ⟨width, denotes⟩
  rw [encode, Hex.upper_of_denotes denotes (Nat.le_of_eq width), width]
  rfl

end Address

namespace Endpoint

theorem splitAtColon?_of_not_mem {field : List Char} (clean : ':' ∉ field) :
    splitAtColon? field = none := by
  have passed : (field.dropWhile fun c => decide (c ≠ ':')) = [] :=
    List.dropWhile_eq_nil_iff.mpr (passes_before clean)
  rw [splitAtColon?, passed]

theorem splitAtColon?_eq_some_iff (field before after : List Char) :
    splitAtColon? field = some (before, after) <-> field = before ++ ':' :: after ∧ ':' ∉ before := by
  constructor
  · intro split
    by_cases member : ':' ∈ field
    · rcases List.eq_append_cons_of_mem member with ⟨front, back, rfl, clean⟩
      rw [splitAtColon?_of_clean clean] at split
      rcases Prod.mk.inj (Option.some.inj split) with ⟨rfl, rfl⟩
      exact ⟨rfl, clean⟩
    · rw [splitAtColon?_of_not_mem member] at split
      cases split
  · rintro ⟨rfl, clean⟩
    exact splitAtColon?_of_clean clean after

/-- What stands on the two sides of the colon, and the endpoint that it spells. -/
structure Spells (address port : List Char) (endpoint : Endpoint) : Prop where
  address : Address.Spells address endpoint.address
  nonempty : port ≠ []
  short : port.length ≤ 4
  port : Hex.Denotes port endpoint.port.toNat

/-- The form that all fields of an endpoint have in common: upper case, and a
port of four digits. -/
def canonical (address port : List Char) : List Char :=
  address.map Char.toUpper ++
    ':' :: (List.replicate (4 - port.length) '0' ++ port.map Char.toUpper)

theorem Spells.colon_not_mem {address port : List Char} {endpoint : Endpoint}
    (spells : Spells address port endpoint) : ':' ∉ address := by
  have noDigit : ¬ ':'.toUpper ∈ Hex.symbols := by decide
  intro member
  exact noDigit (((Address.spells_iff _ _).mp spells.address).2.each ':' member)

/-- Four digits are a port. -/
theorem port_iff (digits : List Char) (port : UInt16) :
    (Hex.value? 1 4 digits).map UInt16.ofNat = some port <->
      digits ≠ [] ∧ digits.length ≤ 4 ∧ Hex.Denotes digits port.toNat := by
  rw [Option.map_eq_some_iff, ← List.length_pos_iff]
  simp only [Hex.value?_eq_some_iff]
  constructor
  · rintro ⟨number, ⟨⟨least, most⟩, denotes⟩, rfl⟩
    have small : number < UInt16.size :=
      Nat.lt_of_lt_of_le denotes.lt (Nat.pow_le_pow_right (by decide) most)
    rw [UInt16.toNat_ofNat_of_lt' small]
    exact ⟨least, most, denotes⟩
  · rintro ⟨least, most, denotes⟩
    exact ⟨port.toNat, ⟨⟨least, most⟩, denotes⟩, UInt16.ofNat_toNat⟩

/-- The two sides of the colon are read on their own. -/
theorem decode?_of_clean {address : List Char} (clean : ':' ∉ address) (port : List Char)
    (endpoint : Endpoint) :
    decode? (address ++ ':' :: port) = some endpoint <-> Spells address port endpoint := by
  rw [decode?, splitAtColon?_of_clean clean]
  constructor
  · intro read
    cases addressRead : Address.decode? address with
    | none => simp only [addressRead, reduceCtorEq] at read
    | some found =>
        cases portRead : Hex.value? 1 4 port with
        | none => simp only [addressRead, portRead, reduceCtorEq] at read
        | some number =>
            simp only [addressRead, portRead, Option.some.injEq] at read
            have ported : (Hex.value? 1 4 port).map UInt16.ofNat = some endpoint.port := by
              rw [portRead, ← read]
              rfl
            rcases (port_iff port endpoint.port).mp ported with ⟨nonempty, short, denotes⟩
            refine ⟨(Address.decode?_eq_some_iff _ _).mp ?_, nonempty, short, denotes⟩
            rw [addressRead, ← read]
  · rintro ⟨addressSpelled, nonempty, short, denotes⟩
    have ported := (port_iff port endpoint.port).mpr ⟨nonempty, short, denotes⟩
    rcases Option.map_eq_some_iff.mp ported with ⟨number, portRead, same⟩
    simp only [(Address.decode?_eq_some_iff _ _).mpr addressSpelled, portRead, same]

/-- A field is read exactly if its parts spell an endpoint, and as that one. -/
theorem decode?_eq_some_iff (field : List Char) (endpoint : Endpoint) :
    decode? field = some endpoint <->
      Exists fun address : List Char => Exists fun port : List Char =>
        field = address ++ ':' :: port ∧ Spells address port endpoint := by
  constructor
  · intro read
    cases split : splitAtColon? field with
    | none => simp only [decode?, split, reduceCtorEq] at read
    | some parts =>
        rcases parts with ⟨address, port⟩
        rcases (splitAtColon?_eq_some_iff _ _ _).mp split with ⟨rfl, clean⟩
        exact ⟨address, port, rfl, (decode?_of_clean clean port endpoint).mp read⟩
  · rintro ⟨address, port, rfl, spells⟩
    exact (decode?_of_clean spells.colon_not_mem port endpoint).mpr spells

theorem encode_of_spells {address port : List Char} {endpoint : Endpoint}
    (spells : Spells address port endpoint) : endpoint.encode = canonical address port := by
  rw [encode, canonical, Address.encode_of_spells spells.address,
    Hex.upper_of_denotes spells.port spells.short]

theorem encode_injective : Function.Injective encode := by
  intro endpoint other same
  have read := congrArg decode? same
  rw [decode?_encode, decode?_encode] at read
  exact Option.some.inj read

/-- Reading and writing of endpoints.  What was written is read back; a field
is read exactly if its parts around the colon spell an endpoint, and then this
endpoint is written as the field in upper case with a port of four digits.  So
two fields are one endpoint exactly if they have this form in common. -/
theorem encode_decode :
    (forall endpoint : Endpoint, decode? endpoint.encode = some endpoint) ∧
      (forall (field : List Char) (endpoint : Endpoint), decode? field = some endpoint <->
        Exists fun address : List Char => Exists fun port : List Char =>
          field = address ++ ':' :: port ∧ Spells address port endpoint) ∧
      (forall (address port : List Char) (endpoint : Endpoint),
        Spells address port endpoint -> endpoint.encode = canonical address port) ∧
      (forall (address port otherAddress otherPort : List Char) (endpoint other : Endpoint),
        Spells address port endpoint -> Spells otherAddress otherPort other ->
          (decode? (address ++ ':' :: port) = decode? (otherAddress ++ ':' :: otherPort) <->
            canonical address port = canonical otherAddress otherPort)) ∧
      Function.Injective encode := by
  refine ⟨decode?_encode, decode?_eq_some_iff, fun _ _ _ => encode_of_spells, ?_,
    encode_injective⟩
  intro address port otherAddress otherPort endpoint other spells spellsToo
  rw [(decode?_of_clean spells.colon_not_mem port endpoint).mpr spells,
    (decode?_of_clean spellsToo.colon_not_mem otherPort other).mpr spellsToo, Option.some.injEq,
    ← encode_of_spells spells, ← encode_of_spells spellsToo]
  exact encode_injective.eq_iff.symm

end Endpoint
end ProcInspection
