import ProcInspection.Proofs.Json.Indented

namespace ProcInspection
namespace Json

/-!
The compact form of a document is one of its texts, and one line.

All control characters are written as escapes, so whatever texts a document
holds, nothing in its compact form ends the line.
-/

/-- A name, a colon and what stands under the name. -/
def compactField (field : String × Json) : List Char :=
  quote field.1 ++ ':' :: compact field.2

/-- The items after the first, each led by a comma. -/
def compactMoreItems (items : List Json) : List Char :=
  items.flatMap fun item => ',' :: compact item

/-- The fields after the first, each led by a comma. -/
def compactMoreFields (fields : List (String × Json)) : List Char :=
  fields.flatMap fun field => ',' :: compactField field

theorem compactMoreItems_cons (item : Json) (items : List Json) :
    compactMoreItems (item :: items) = ',' :: (compact item ++ compactMoreItems items) :=
  rfl

theorem compactMoreFields_cons (field : String × Json) (fields : List (String × Json)) :
    compactMoreFields (field :: fields) =
      ',' :: (compactField field ++ compactMoreFields fields) :=
  rfl

theorem compactItems_cons (item : Json) (items : List Json) :
    compactItems (item :: items) = compact item ++ compactMoreItems items := by
  induction items generalizing item with
  | nil => exact (List.append_nil _).symm
  | cons next items ih =>
      rw [compactItems, ih, compactMoreItems_cons]
      nofun

theorem compactFields_cons (field : String × Json) (fields : List (String × Json)) :
    compactFields (field :: fields) = compactField field ++ compactMoreFields fields := by
  induction fields generalizing field with
  | nil => exact (List.append_nil _).symm
  | cons next fields ih =>
      rcases field with ⟨name, value⟩
      rw [compactFields, ih, compactMoreFields_cons]
      · rfl
      · nofun

/-! ## Reading it -/

theorem endsNumber_moreItems (items : List Json) (rest : List Char) :
    EndsNumber (compactMoreItems items ++ ']' :: rest) := by
  cases items with
  | nil => exact endsNumber_cons rfl _
  | cons item items => exact endsNumber_cons rfl _

theorem endsNumber_moreFields (fields : List (String × Json)) (rest : List Char) :
    EndsNumber (compactMoreFields fields ++ '\x7d' :: rest) := by
  cases fields with
  | nil => exact endsNumber_cons rfl _
  | cons field fields => exact endsNumber_cons rfl _

mutual

theorem reads_compact : (document : Json) -> {rest : List Char} -> EndsNumber rest ->
    Reads .value document (compact document ++ rest) rest
  | .boolean value, rest, _ => reads_truth value rest
  | .number value, _, ends => reads_number value ends
  | .text value, rest, _ => reads_quote value rest
  | .list [], _, _ => .list rfl (.noItems rfl)
  | .list (item :: items), rest, _ => by
      have first := reads_compact item (endsNumber_moreItems items rest)
      have more := reads_compactMoreItems items rest
      simp only [compact, compactItems_cons, List.append_assoc, List.cons_append, List.nil_append]
      exact .list rfl (.firstItem first more)
  | .object [], _, _ => .object rfl (.noFields rfl)
  | .object ((name, value) :: fields), rest, _ => by
      have first := reads_compact value (endsNumber_moreFields fields rest)
      have more := reads_compactMoreFields fields rest
      simp only [compact, compactFields_cons, compactField, List.append_assoc, List.cons_append,
        List.nil_append]
      exact .object rfl (.firstField (reads_field name first) more)

theorem reads_compactMoreItems : (items : List Json) -> (rest : List Char) ->
    Reads .moreItems items (compactMoreItems items ++ ']' :: rest) rest
  | [], _ => .lastItem rfl
  | item :: items, rest => by
      have next := reads_compact item (endsNumber_moreItems items rest)
      have more := reads_compactMoreItems items rest
      simp only [compactMoreItems_cons, List.append_assoc, List.cons_append]
      exact .nextItem rfl next more

theorem reads_compactMoreFields : (fields : List (String × Json)) -> (rest : List Char) ->
    Reads .moreFields fields (compactMoreFields fields ++ '\x7d' :: rest) rest
  | [], _ => .lastField rfl
  | (name, value) :: fields, rest => by
      have next := reads_compact value (endsNumber_moreFields fields rest)
      have more := reads_compactMoreFields fields rest
      simp only [compactMoreFields_cons, compactField, List.append_assoc, List.cons_append]
      exact .nextField rfl (reads_field name next) more

end

/-- The compact form has one reading. -/
theorem reads_compact_iff (document other : Json) (rest : List Char) :
    Reads .value other (compact document) rest <-> other = document ∧ rest = [] := by
  have ends : EndsNumber [] := nofun
  have reads := reads_compact document ends
  rw [List.append_nil] at reads
  constructor
  · intro again
    exact again.unique reads
  · rintro ⟨rfl, rfl⟩
    exact reads

/-! ## One line -/

/-- No control character. -/
def IsPrintable (text : List Char) : Prop :=
  forall c, c ∈ text -> 32 ≤ c.toNat

theorem isPrintable_append {left right : List Char} (first : IsPrintable left)
    (second : IsPrintable right) : IsPrintable (left ++ right) :=
  List.forall_mem_append.mpr ⟨first, second⟩

theorem isPrintable_cons {c : Char} {text : List Char} (first : 32 ≤ c.toNat)
    (more : IsPrintable text) : IsPrintable (c :: text) :=
  List.forall_mem_cons.mpr ⟨first, more⟩

theorem isPrintable_flatMap {α : Type} {items : List α} {write : α -> List Char}
    (each : forall item, item ∈ items -> IsPrintable (write item)) :
    IsPrintable (items.flatMap write) := by
  intro c member
  rcases List.mem_flatMap.mp member with ⟨item, inside, written⟩
  exact each item inside c written

theorem isPrintable_of_all {text : List Char} (each : (text.all fun c => 32 ≤ c.toNat) = true) :
    IsPrintable text :=
  fun c member => of_decide_eq_true (List.all_eq_true.mp each c member)

theorem isPrintable_escape (c : Char) : IsPrintable (escape c) := by
  have numbered : forall code : Fin 32,
      (['\\', 'u', '0', '0', lowerHexDigit (code / 16), lowerHexDigit (code % 16)].all
        fun c => 32 ≤ c.toNat) = true := by decide
  unfold escape
  split_ifs with quote backslash lineFeed carriageReturn tab backspace formFeed control
  · exact isPrintable_of_all rfl
  · exact isPrintable_of_all rfl
  · exact isPrintable_of_all rfl
  · exact isPrintable_of_all rfl
  · exact isPrintable_of_all rfl
  · exact isPrintable_of_all rfl
  · exact isPrintable_of_all rfl
  · exact isPrintable_of_all (numbered ⟨c.toNat, control⟩)
  · exact List.forall_mem_singleton.mpr (Nat.le_of_not_lt control)

theorem isPrintable_quote (value : String) : IsPrintable (quote value) := by
  have letters := isPrintable_flatMap (fun c (_ : c ∈ value.toList) => isPrintable_escape c)
  exact isPrintable_cons (by decide) (isPrintable_append letters (isPrintable_of_all rfl))

theorem isPrintable_truth (value : Bool) : IsPrintable (truth value) := by
  cases value with
  | false => exact isPrintable_of_all rfl
  | true => exact isPrintable_of_all rfl

theorem isPrintable_digits (value : Nat) : IsPrintable (Nat.toDigits 10 value) := by
  intro c member
  have range := Char.isDigit_iff_toNat.mp (Decimal.mem_digits_isDigit member)
  exact Nat.le_trans (by decide) range.1

mutual

theorem isPrintable_compact : (document : Json) -> IsPrintable (compact document)
  | .boolean value => isPrintable_truth value
  | .number value => isPrintable_digits value
  | .text value => isPrintable_quote value
  | .list items =>
      isPrintable_cons (by decide)
        (isPrintable_append (isPrintable_compactItems items) (isPrintable_of_all rfl))
  | .object fields =>
      isPrintable_cons (by decide)
        (isPrintable_append (isPrintable_compactFields fields) (isPrintable_of_all rfl))

theorem isPrintable_compactItems : (items : List Json) -> IsPrintable (compactItems items)
  | [] => nofun
  | [item] => isPrintable_compact item
  | item :: next :: items =>
      isPrintable_append (isPrintable_compact item)
        (isPrintable_cons (by decide) (isPrintable_compactItems (next :: items)))

theorem isPrintable_compactFields : (fields : List (String × Json)) ->
    IsPrintable (compactFields fields)
  | [] => nofun
  | [(name, value)] =>
      isPrintable_append (isPrintable_quote name)
        (isPrintable_cons (by decide) (isPrintable_compact value))
  | (name, value) :: next :: fields => by
      have first := isPrintable_append (isPrintable_quote name)
        (isPrintable_cons (c := ':') (by decide) (isPrintable_compact value))
      have more := isPrintable_cons (c := ',') (by decide) (isPrintable_compactFields (next :: fields))
      exact isPrintable_append first more

end

theorem newline_not_mem_compact (document : Json) : '\n' ∉ compact document := by
  intro member
  exact absurd (isPrintable_compact document '\n' member) (by decide)

end Json
end ProcInspection
