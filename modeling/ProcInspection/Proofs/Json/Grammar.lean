import ProcInspection.Json
import ProcInspection.Proofs.Text.Number

namespace ProcInspection
namespace Json

/-!
The grammar of JSON documents.

A rule relates a text to what is left of it once a part has been read from its
front.  Blanks may stand in front of every word, and a character between quotes
may be written in any of its ways, so one document has many texts.  A text has
one document: no two rules read the same front.

The grammar is that of the documents at hand, which have no null and no number
but natural ones.
-/

def isBlank (c : Char) : Bool :=
  c = ' ' || c = '\t' || c = '\n' || c = '\r'

/-- A text without the blanks in front of it. -/
def afterBlanks (text : List Char) : List Char :=
  text.dropWhile isBlank

/-- The letters that stand for a character after a backslash. -/
def shortEscapes : List (Char × Char) :=
  [('"', '"'), ('\\', '\\'), ('/', '/'), ('b', Char.ofNat 8), ('f', Char.ofNat 12),
    ('n', '\n'), ('r', '\r'), ('t', '\t')]

/-- One character between quotes: as it is, by a letter, by its number, or by
the two halves of its number. -/
inductive Letter : Char -> List Char -> List Char -> Prop where
  | plain {c : Char} {rest : List Char} (printable : 32 ≤ c.toNat) (noQuote : c ≠ '"')
      (noBackslash : c ≠ '\\') :
      Letter c (c :: rest) rest
  | short {c mark : Char} {rest : List Char} (known : (mark, c) ∈ shortEscapes) :
      Letter c ('\\' :: mark :: rest) rest
  | number {c : Char} {text digits rest : List Char} (written : text = digits ++ rest)
      (value : Hex.value? 4 4 digits = some c.toNat) :
      Letter c ('\\' :: 'u' :: text) rest
  | halves {c : Char} {high low : Nat} {text highDigits lowDigits rest : List Char}
      (written : text = highDigits ++ '\\' :: 'u' :: (lowDigits ++ rest))
      (highValue : Hex.value? 4 4 highDigits = some (0xD800 + high)) (highSmall : high < 0x400)
      (lowValue : Hex.value? 4 4 lowDigits = some (0xDC00 + low)) (lowSmall : low < 0x400)
      (whole : c.toNat = 0x10000 + high * 0x400 + low) :
      Letter c ('\\' :: 'u' :: text) rest

/-- Characters up to the closing quote. -/
inductive Letters : List Char -> List Char -> List Char -> Prop where
  | closed {rest : List Char} : Letters [] ('"' :: rest) rest
  | next {c : Char} {letters text middle rest : List Char} (letter : Letter c text middle)
      (more : Letters letters middle rest) :
      Letters (c :: letters) text rest

/-- What a rule is about.  Items and fields are read up to the closing bracket,
from behind the opening one or from behind one of them. -/
inductive Part where
  | value
  | items
  | moreItems
  | field
  | fields
  | moreFields

def Part.Content : Part -> Type
  | .value => Json
  | .items => List Json
  | .moreItems => List Json
  | .field => String × Json
  | .fields => List (String × Json)
  | .moreFields => List (String × Json)

inductive Reads : (part : Part) -> part.Content -> List Char -> List Char -> Prop where
  | truth {value : Bool} {text rest : List Char} (word : afterBlanks text = truth value ++ rest) :
      Reads .value (Json.boolean value) text rest
  | number {value : Nat} {first : Char} {text digits rest : List Char}
      (word : afterBlanks text = first :: digits ++ rest)
      (denotes : Decimal.value? (first :: digits) = some value)
      (noLeadingZero : first = '0' -> digits = [])
      (whole : forall c, rest.head? = some c -> c.isDigit = false) :
      Reads .value (Json.number value) text rest
  | text {letters text inner rest : List Char} (opened : afterBlanks text = '"' :: inner)
      (inside : Letters letters inner rest) :
      Reads .value (Json.text (String.ofList letters)) text rest
  | list {items : List Json} {text inner rest : List Char}
      (opened : afterBlanks text = '[' :: inner) (inside : Reads .items items inner rest) :
      Reads .value (Json.list items) text rest
  | object {fields : List (String × Json)} {text inner rest : List Char}
      (opened : afterBlanks text = '\x7b' :: inner) (inside : Reads .fields fields inner rest) :
      Reads .value (Json.object fields) text rest
  | noItems {text rest : List Char} (closed : afterBlanks text = ']' :: rest) :
      Reads .items [] text rest
  | firstItem {item : Json} {items : List Json} {text middle rest : List Char}
      (first : Reads .value item text middle) (more : Reads .moreItems items middle rest) :
      Reads .items (item :: items) text rest
  | lastItem {text rest : List Char} (closed : afterBlanks text = ']' :: rest) :
      Reads .moreItems [] text rest
  | nextItem {item : Json} {items : List Json} {text after middle rest : List Char}
      (comma : afterBlanks text = ',' :: after) (next : Reads .value item after middle)
      (more : Reads .moreItems items middle rest) :
      Reads .moreItems (item :: items) text rest
  | field {letters : List Char} {value : Json} {text inner named after rest : List Char}
      (opened : afterBlanks text = '"' :: inner) (name : Letters letters inner named)
      (colon : afterBlanks named = ':' :: after) (content : Reads .value value after rest) :
      Reads .field (String.ofList letters, value) text rest
  | noFields {text rest : List Char} (closed : afterBlanks text = '\x7d' :: rest) :
      Reads .fields [] text rest
  | firstField {field : String × Json} {fields : List (String × Json)}
      {text middle rest : List Char} (first : Reads .field field text middle)
      (more : Reads .moreFields fields middle rest) :
      Reads .fields (field :: fields) text rest
  | lastField {text rest : List Char} (closed : afterBlanks text = '\x7d' :: rest) :
      Reads .moreFields [] text rest
  | nextField {field : String × Json} {fields : List (String × Json)}
      {text after middle rest : List Char} (comma : afterBlanks text = ',' :: after)
      (next : Reads .field field after middle) (more : Reads .moreFields fields middle rest) :
      Reads .moreFields (field :: fields) text rest

theorem length_of_value? {digits : List Char} {least most value : Nat}
    (read : Hex.value? least most digits = some value) :
    least ≤ digits.length ∧ digits.length ≤ most := by
  unfold Hex.value? at read
  by_cases fits : (decide (least ≤ digits.length) && decide (digits.length ≤ most)) = true
  · simpa using fits
  · rw [if_neg fits] at read
    cases read

/-- Digits of one width and what follows them are told apart. -/
theorem value?_append_inj {width left right : Nat} {digits others rest other : List Char}
    (read : Hex.value? width width digits = some left)
    (reads : Hex.value? width width others = some right) (same : digits ++ rest = others ++ other) :
    left = right ∧ rest = other := by
  have wide := length_of_value? read
  have wides := length_of_value? reads
  rcases List.append_inj same (by omega) with ⟨rfl, rest⟩
  exact ⟨Option.some.inj (read.symm.trans reads), rest⟩

theorem toNat_not_half (c : Char) {half : Nat} (small : half < 0x800) : c.toNat ≠ 0xD800 + half := by
  intro same
  rcases c.valid with low | high
  · have : c.toNat < 0xD800 := low
    omega
  · have : 0xDFFF < c.toNat := high.1
    omega

theorem shortEscapes_unique {mark c d : Char} (left : (mark, c) ∈ shortEscapes)
    (right : (mark, d) ∈ shortEscapes) : c = d := by
  have table : forall entry, entry ∈ shortEscapes -> forall other, other ∈ shortEscapes ->
      entry.1 = other.1 -> entry.2 = other.2 := by decide
  exact table _ left _ right rfl

theorem shortEscapes_no_number {c : Char} : ('u', c) ∉ shortEscapes := by
  simp [shortEscapes]

theorem Letter.unique {c d : Char} {text rest other : List Char} (left : Letter c text rest)
    (right : Letter d text other) : c = d ∧ rest = other := by
  cases left with
  | plain printable noQuote noBackslash =>
      cases right with
      | plain => exact ⟨rfl, rfl⟩
      | short => exact (noBackslash rfl).elim
      | number => exact (noBackslash rfl).elim
      | halves => exact (noBackslash rfl).elim
  | short known =>
      cases right with
      | plain printable noQuote noBackslash => exact (noBackslash rfl).elim
      | short knownToo => exact ⟨shortEscapes_unique known knownToo, rfl⟩
      | number => exact (shortEscapes_no_number known).elim
      | halves => exact (shortEscapes_no_number known).elim
  | number written value =>
      cases right with
      | plain printable noQuote noBackslash => exact (noBackslash rfl).elim
      | short known => exact (shortEscapes_no_number known).elim
      | number writtenToo valueToo =>
          rcases value?_append_inj value valueToo (written.symm.trans writtenToo) with ⟨same, rest⟩
          exact ⟨Char.toNat_inj.mp same, rest⟩
      | halves writtenToo highValue highSmall =>
          have same := (value?_append_inj value highValue (written.symm.trans writtenToo)).1
          exact (toNat_not_half c (by omega) same).elim
  | halves written highValue highSmall lowValue lowSmall whole =>
      cases right with
      | plain printable noQuote noBackslash => exact (noBackslash rfl).elim
      | short known => exact (shortEscapes_no_number known).elim
      | number writtenToo value =>
          have same := (value?_append_inj value highValue (writtenToo.symm.trans written)).1
          exact (toNat_not_half d (by omega) same).elim
      | halves writtenToo highValueToo highSmallToo lowValueToo lowSmallToo wholeToo =>
          rcases value?_append_inj highValue highValueToo (written.symm.trans writtenToo)
            with ⟨highSame, following⟩
          have following := (List.cons.inj (List.cons.inj following).2).2
          rcases value?_append_inj lowValue lowValueToo following with ⟨lowSame, rest⟩
          refine ⟨Char.toNat_inj.mp ?_, rest⟩
          omega

theorem Letters.unique {letters others text rest other : List Char}
    (left : Letters letters text rest) (right : Letters others text other) :
    letters = others ∧ rest = other := by
  induction left generalizing others other with
  | closed =>
      cases right with
      | closed => exact ⟨rfl, rfl⟩
      | next letter => 
        cases letter with
        | plain printable noQuote => exact (noQuote rfl).elim
  | next letter more ih =>
      cases right with
      | closed =>
        cases letter with
        | plain printable noQuote => exact (noQuote rfl).elim
      | next letterToo moreToo =>
          rcases letter.unique letterToo with ⟨rfl, rfl⟩
          rcases ih moreToo with ⟨rfl, rfl⟩
          exact ⟨rfl, rfl⟩

/-- The forms of a value, which its first character tells apart. -/
inductive Form where
  | truth
  | number
  | text
  | list
  | object

def form : Json -> Form
  | .boolean _ => .truth
  | .number _ => .number
  | .text _ => .text
  | .list _ => .list
  | .object _ => .object

def Form.ofFirst (c : Char) : Option Form :=
  if c = 't' ∨ c = 'f' then some .truth
  else if c = '"' then some .text
  else if c = '[' then some .list
  else if c = '\x7b' then some .object
  else if c.isDigit then some .number
  else none

theorem Form.ofFirst_digit {c : Char} (digit : c.isDigit = true) : ofFirst c = some .number := by
  have other : forall mark : Char, mark.isDigit = false -> c ≠ mark := by
    rintro mark plain rfl
    rw [plain] at digit
    cases digit
  simp [ofFirst, other, digit]

theorem isDigit_of_value? {digits : List Char} {value : Nat}
    (denotes : Decimal.value? digits = some value) {c : Char} (member : c ∈ digits) :
    c.isDigit = true :=
  Char.isDigit_iff_toNat.mpr
    (((Decimal.value?_eq_some_iff _ _).mp denotes).digits _ (List.mem_map_of_mem member))

/-- What a value is written with starts with a character of its form. -/
theorem Reads.form {document : Json} {text rest : List Char}
    (reads : Reads .value document text rest) :
    (afterBlanks text).head?.bind Form.ofFirst = some document.form := by
  cases reads with
  | @truth value _ _ word =>
      rw [word]
      cases value with
      | true => rfl
      | false => rfl
  | @number value first _ digits _ word denotes =>
      rw [word]
      exact Form.ofFirst_digit (isDigit_of_value? denotes (List.mem_cons_self ..))
  | text opened => rw [opened]; rfl
  | list opened => rw [opened]; rfl
  | object opened => rw [opened]; rfl

theorem Reads.form_unique {document other : Json} {text rest left : List Char}
    (reads : Reads .value document text rest) (again : Reads .value other text left) :
    document.form = other.form :=
  Option.some.inj (reads.form.symm.trans again.form)

theorem Reads.not_closed {document : Json} {text rest left : List Char}
    (reads : Reads .value document text rest) : afterBlanks text ≠ ']' :: left := by
  intro closed
  have form := reads.form
  rw [closed] at form
  simp [Form.ofFirst] at form

theorem after_unique {c : Char} {text after other : List Char}
    (word : afterBlanks text = c :: after) (again : afterBlanks text = c :: other) :
    after = other :=
  (List.cons.inj (word.symm.trans again)).2

theorem truth_append_inj {value other : Bool} {rest left : List Char}
    (same : truth value ++ rest = truth other ++ left) : value = other ∧ rest = left := by
  cases value <;> cases other <;> simp_all [truth]

/-- A run of digits ends where a character is none. -/
theorem digits_unique {digits others rest left : List Char}
    (run : forall c, c ∈ digits -> c.isDigit = true)
    (runToo : forall c, c ∈ others -> c.isDigit = true)
    (whole : forall c, rest.head? = some c -> c.isDigit = false)
    (wholeToo : forall c, left.head? = some c -> c.isDigit = false)
    (same : digits ++ rest = others ++ left) : digits = others ∧ rest = left := by
  induction digits generalizing others with
  | nil =>
      cases others with
      | nil => exact ⟨rfl, same⟩
      | cons c others =>
          have plain := whole c (by rw [List.nil_append] at same; rw [same]; rfl)
          rw [runToo c (List.mem_cons_self ..)] at plain
          cases plain
  | cons c digits ih =>
      cases others with
      | nil =>
          have plain := wholeToo c (by rw [List.nil_append] at same; rw [← same]; rfl)
          rw [run c (List.mem_cons_self ..)] at plain
          cases plain
      | cons d others =>
          rcases List.cons.inj same with ⟨rfl, following⟩
          rcases ih (fun e member => run e (List.mem_cons_of_mem c member))
            (fun e member => runToo e (List.mem_cons_of_mem c member)) following with ⟨rfl, rfl⟩
          exact ⟨rfl, rfl⟩

/-- A text is read in one way. -/
theorem Reads.unique {part : Part} {content other : part.Content} {text rest left : List Char}
    (reads : Reads part content text rest) (again : Reads part other text left) :
    content = other ∧ rest = left := by
  induction reads generalizing left with
  | truth word =>
      have forms := (Reads.truth word).form_unique again
      cases again with
      | truth wordToo =>
          rcases truth_append_inj (word.symm.trans wordToo) with ⟨rfl, rfl⟩
          exact ⟨rfl, rfl⟩
      | _ => cases forms
  | number word denotes noLeadingZero whole =>
      have forms := (Reads.number word denotes noLeadingZero whole).form_unique again
      cases again with
      | number wordToo denotesToo noLeadingZeroToo wholeToo =>
          have same := word.symm.trans wordToo
          rcases digits_unique (fun _ => isDigit_of_value? denotes)
            (fun _ => isDigit_of_value? denotesToo) whole wholeToo same with ⟨digits, rest⟩
          rw [digits, denotesToo] at denotes
          exact ⟨congrArg Json.number (Option.some.inj denotes).symm, rest⟩
      | _ => cases forms
  | text opened inside =>
      have forms := (Reads.text opened inside).form_unique again
      cases again with
      | text openedToo insideToo =>
          have inner := after_unique opened openedToo
          rcases inside.unique (inner ▸ insideToo) with ⟨rfl, rfl⟩
          exact ⟨rfl, rfl⟩
      | _ => cases forms
  | list opened inside ih =>
      have forms := (Reads.list opened inside).form_unique again
      cases again with
      | list openedToo insideToo =>
          have inner := after_unique opened openedToo
          rcases ih (inner ▸ insideToo) with ⟨rfl, rfl⟩
          exact ⟨rfl, rfl⟩
      | _ => cases forms
  | object opened inside ih =>
      have forms := (Reads.object opened inside).form_unique again
      cases again with
      | object openedToo insideToo =>
          have inner := after_unique opened openedToo
          rcases ih (inner ▸ insideToo) with ⟨rfl, rfl⟩
          exact ⟨rfl, rfl⟩
      | _ => cases forms
  | noItems closed =>
      cases again with
      | noItems closedToo => exact ⟨rfl, after_unique closed closedToo⟩
      | firstItem first => exact (first.not_closed closed).elim
  | firstItem first more firstIh moreIh =>
      cases again with
      | noItems closed => exact (first.not_closed closed).elim
      | firstItem firstToo moreToo =>
          rcases firstIh firstToo with ⟨rfl, rfl⟩
          rcases moreIh moreToo with ⟨rfl, rfl⟩
          exact ⟨rfl, rfl⟩
  | lastItem closed =>
      cases again with
      | lastItem closedToo => exact ⟨rfl, after_unique closed closedToo⟩
      | nextItem comma => cases closed.symm.trans comma
  | nextItem comma next more nextIh moreIh =>
      cases again with
      | lastItem closed => cases closed.symm.trans comma
      | nextItem commaToo nextToo moreToo =>
          have after := after_unique comma commaToo
          rcases nextIh (after ▸ nextToo) with ⟨rfl, rfl⟩
          rcases moreIh moreToo with ⟨rfl, rfl⟩
          exact ⟨rfl, rfl⟩
  | field opened name colon value ih =>
      cases again with
      | field openedToo nameToo colonToo valueToo =>
          have inner := after_unique opened openedToo
          rcases name.unique (inner ▸ nameToo) with ⟨rfl, rfl⟩
          have after := after_unique colon colonToo
          rcases ih (after ▸ valueToo) with ⟨rfl, rfl⟩
          exact ⟨rfl, rfl⟩
  | noFields closed =>
      cases again with
      | noFields closedToo => exact ⟨rfl, after_unique closed closedToo⟩
      | firstField first =>
          cases first with
          | field opened => cases closed.symm.trans opened
  | firstField first more firstIh moreIh =>
      cases again with
      | noFields closed =>
          cases first with
          | field opened => cases closed.symm.trans opened
      | firstField firstToo moreToo =>
          rcases firstIh firstToo with ⟨rfl, rfl⟩
          rcases moreIh moreToo with ⟨rfl, rfl⟩
          exact ⟨rfl, rfl⟩
  | lastField closed =>
      cases again with
      | lastField closedToo => exact ⟨rfl, after_unique closed closedToo⟩
      | nextField comma => cases closed.symm.trans comma
  | nextField comma next more nextIh moreIh =>
      cases again with
      | lastField closed => cases closed.symm.trans comma
      | nextField commaToo nextToo moreToo =>
          have after := after_unique comma commaToo
          rcases nextIh (after ▸ nextToo) with ⟨rfl, rfl⟩
          rcases moreIh moreToo with ⟨rfl, rfl⟩
          exact ⟨rfl, rfl⟩

end Json
end ProcInspection
