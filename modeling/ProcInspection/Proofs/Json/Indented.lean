import Mathlib.Data.List.Basic
import Mathlib.Tactic.SplitIfs
import ProcInspection.Proofs.Json.Grammar
import ProcInspection.Proofs.Text.Zeros

namespace ProcInspection
namespace Json

/-!
The indented form of a document is one of its texts.

The statements leave room for what follows, as long as no digit follows: a
number does not end before one.
-/

/-- No digit stands in front of a text. -/
def EndsNumber (text : List Char) : Prop :=
  forall c, text.head? = some c -> c.isDigit = false

theorem endsNumber_cons {c : Char} (plain : c.isDigit = false) (text : List Char) :
    EndsNumber (c :: text) := by
  rintro d first
  rw [← Option.some.inj first]
  exact plain

theorem value?_control {code : Nat} (control : code < 32) :
    Hex.value? 4 4 ['0', '0', lowerHexDigit (code / 16), lowerHexDigit (code % 16)] =
      some code := by
  have table : forall code : Fin 32,
      Hex.value? 4 4 ['0', '0', lowerHexDigit (code / 16), lowerHexDigit (code % 16)] =
        some code.val := by decide
  exact table ⟨code, control⟩

/-- Each way of writing a character that is used is one of the grammar. -/
theorem letter_escape (c : Char) (rest : List Char) : Letter c (escape c ++ rest) rest := by
  have named : forall code : Nat, c.toNat = code -> c = Char.ofNat code := by
    intro code same
    rw [← same, Char.ofNat_toNat]
  unfold escape
  split_ifs with quote backslash lineFeed carriageReturn tab backspace formFeed control
  · subst quote; exact .short (by decide)
  · subst backslash; exact .short (by decide)
  · subst lineFeed; exact .short (by decide)
  · subst carriageReturn; exact .short (by decide)
  · subst tab; exact .short (by decide)
  · rw [named 8 backspace]; exact .short (by decide)
  · rw [named 12 formFeed]; exact .short (by decide)
  · exact .number rfl (value?_control control)
  · exact .plain (Nat.le_of_not_lt control) quote backslash

theorem letters_escape (letters rest : List Char) :
    Letters letters (letters.flatMap escape ++ '"' :: rest) rest := by
  induction letters with
  | nil => exact .closed
  | cons c letters ih =>
      rw [List.flatMap_cons, List.append_assoc]
      exact .next (letter_escape c _) ih

/-! ## Blanks -/

theorem afterBlanks_word {c : Char} (plain : isBlank c = false) (text : List Char) :
    afterBlanks (c :: text) = c :: text := by
  simp [afterBlanks, plain]

theorem afterBlanks_newline (depth : Nat) (text : List Char) :
    afterBlanks (newline depth ++ text) = afterBlanks text := by
  have blanks : forall c, c ∈ newline depth -> isBlank c = true := by
    intro c member
    rcases List.mem_cons.mp member with rfl | member
    · rfl
    · rw [List.eq_of_mem_replicate member]
      rfl
  exact List.dropWhile_append_of_pos blanks

/-- Blanks in front of a part do not matter. -/
theorem Reads.of_afterBlanks {part : Part} {content : part.Content} {text other rest : List Char}
    (reads : Reads part content text rest) (same : afterBlanks other = afterBlanks text) :
    Reads part content other rest := by
  induction reads with
  | truth word => exact .truth (same.trans word)
  | number word denotes noLeadingZero whole =>
      exact .number (same.trans word) denotes noLeadingZero whole
  | text opened inside => exact .text (same.trans opened) inside
  | list opened inside => exact .list (same.trans opened) inside
  | object opened inside => exact .object (same.trans opened) inside
  | noItems closed => exact .noItems (same.trans closed)
  | firstItem first more firstIh => exact .firstItem (firstIh same) more
  | lastItem closed => exact .lastItem (same.trans closed)
  | nextItem comma next more => exact .nextItem (same.trans comma) next more
  | field opened name colon value => exact .field (same.trans opened) name colon value
  | noFields closed => exact .noFields (same.trans closed)
  | firstField first more firstIh => exact .firstField (firstIh same) more
  | lastField closed => exact .lastField (same.trans closed)
  | nextField comma next more => exact .nextField (same.trans comma) next more

theorem Reads.on_newline {part : Part} {content : part.Content} {text rest : List Char}
    (reads : Reads part content text rest) (depth : Nat) :
    Reads part content (newline depth ++ text) rest :=
  reads.of_afterBlanks (afterBlanks_newline depth text)

/-! ## Documents -/

theorem reads_truth (value : Bool) (rest : List Char) :
    Reads .value (.boolean value) (Json.truth value ++ rest) rest := by
  apply Reads.truth
  cases value with
  | true => rfl
  | false => rfl

theorem isBlank_digit {c : Char} (digit : c.isDigit = true) : isBlank c = false := by
  have other : forall mark : Char, mark.isDigit = false -> c ≠ mark := by
    rintro mark plain rfl
    rw [plain] at digit
    cases digit
  simp [isBlank, other]

theorem reads_number (value : Nat) {rest : List Char} (ends : EndsNumber rest) :
    Reads .value (.number value) (Nat.toDigits 10 value ++ rest) rest := by
  have denotes : Decimal.value? (Nat.toDigits 10 value) = some value :=
    (Decimal.value?_eq_some_iff _ _).mpr (Decimal.denotes_digits value)
  cases written : Nat.toDigits 10 value with
  | nil => exact (Nat.toDigits_ne_nil written).elim
  | cons first digits =>
      rw [written] at denotes
      have digit := isDigit_of_value? denotes (List.mem_cons_self ..)
      refine .number (afterBlanks_word (isBlank_digit digit) _) denotes ?_ ends
      rintro rfl
      rcases Nat.eq_zero_or_pos value with zero | positive
      · rw [zero] at written
        exact (List.cons.inj written).2.symm
      · exact (Decimal.head?_digits positive (by rw [Decimal.digits, written]; rfl)).elim

theorem quote_append (value : String) (rest : List Char) :
    quote value ++ rest = '"' :: (value.toList.flatMap escape ++ '"' :: rest) := by
  simp [quote]

theorem reads_quote (value : String) (rest : List Char) :
    Reads .value (.text value) (quote value ++ rest) rest := by
  have reads := Reads.text (afterBlanks_word rfl _) (letters_escape value.toList rest)
  rw [String.ofList_toList] at reads
  rw [quote_append]
  exact reads

theorem reads_field (name : String) {value : Json} {after rest : List Char}
    (content : Reads .value value after rest) :
    Reads .field (name, value) (quote name ++ ':' :: after) rest := by
  have reads := Reads.field (afterBlanks_word rfl _) (letters_escape name.toList (':' :: after)) rfl
    content
  rw [String.ofList_toList] at reads
  rw [quote_append]
  exact reads

/-- A blank may stand behind the colon. -/
theorem reads_field_apart (name : String) {value : Json} {after rest : List Char}
    (content : Reads .value value after rest) :
    Reads .field (name, value) (quote name ++ ':' :: ' ' :: after) rest :=
  reads_field name (content.of_afterBlanks rfl)

theorem endsNumber_items (depth outer : Nat) (items : List Json) (rest : List Char) :
    EndsNumber (indentedItems depth items ++ (newline outer ++ ']' :: rest)) := by
  cases items with
  | nil => exact endsNumber_cons rfl _
  | cons item items => exact endsNumber_cons rfl _

theorem endsNumber_fields (depth outer : Nat) (fields : List (String × Json)) (rest : List Char) :
    EndsNumber (indentedFields depth fields ++ (newline outer ++ '\x7d' :: rest)) := by
  cases fields with
  | nil => exact endsNumber_cons rfl _
  | cons field fields => exact endsNumber_cons rfl _

mutual

theorem reads_indented (depth : Nat) : (document : Json) -> {rest : List Char} ->
    EndsNumber rest -> Reads .value document (indented depth document ++ rest) rest
  | .boolean value, rest, _ => reads_truth value rest
  | .number value, _, ends => reads_number value ends
  | .text value, rest, _ => reads_quote value rest
  | .list [], _, _ => .list rfl (.noItems rfl)
  | .list (item :: items), rest, _ => by
      have first := reads_indented (depth + 1) item
        (endsNumber_items (depth + 1) depth items rest)
      have more := reads_indentedItems (depth + 1) depth items rest
      simp only [indented, List.append_assoc, List.cons_append]
      exact .list rfl (.firstItem (first.on_newline (depth + 1)) more)
  | .object [], _, _ => .object rfl (.noFields rfl)
  | .object ((name, value) :: fields), rest, _ => by
      have first := reads_indented (depth + 1) value
        (endsNumber_fields (depth + 1) depth fields rest)
      have more := reads_indentedFields (depth + 1) depth fields rest
      simp only [indented, List.append_assoc, List.cons_append]
      exact .object rfl (.firstField ((reads_field_apart name first).on_newline (depth + 1)) more)

theorem reads_indentedItems (depth outer : Nat) : (items : List Json) -> (rest : List Char) ->
    Reads .moreItems items (indentedItems depth items ++ (newline outer ++ ']' :: rest)) rest
  | [], rest => Reads.on_newline (.lastItem rfl) outer
  | item :: items, rest => by
      have next := reads_indented depth item (endsNumber_items depth outer items rest)
      have more := reads_indentedItems depth outer items rest
      simp only [indentedItems, List.append_assoc, List.cons_append]
      exact .nextItem rfl (next.on_newline depth) more

theorem reads_indentedFields (depth outer : Nat) : (fields : List (String × Json)) ->
    (rest : List Char) ->
    Reads .moreFields fields (indentedFields depth fields ++ (newline outer ++ '\x7d' :: rest)) rest
  | [], rest => Reads.on_newline (.lastField rfl) outer
  | (name, value) :: fields, rest => by
      have next := reads_indented depth value (endsNumber_fields depth outer fields rest)
      have more := reads_indentedFields depth outer fields rest
      simp only [indentedFields, List.append_assoc, List.cons_append]
      exact .nextField rfl ((reads_field_apart name next).on_newline depth) more

end

end Json
end ProcInspection
