import Mathlib.Algebra.Group.Nat.Defs
import ProcInspection.Proofs.Text.Utf8
import ProcInspection.Text.Blank
import ProcInspection.Text.Decimal
import ProcInspection.Text.Hex

namespace ProcInspection

/-!
Numbers in text.

What a reader accepts is said once, on code numbers, so that it covers the
characters of a table row as well as the bytes of a file name.  The readers of
plain decimals accept exactly that, up to their bound, and what a writer
prints is read back, in decimal at any size and in hexadecimal at any width.
-/

namespace Decimal

/-- Code numbers that are a plain number: at least one, each of them that of
an ASCII digit, and together of this value. -/
structure Denotes (codes : List Nat) (value : Nat) : Prop where
  nonempty : codes ≠ []
  digits : forall code, code ∈ codes -> 48 ≤ code ∧ code ≤ 57
  total : codes.foldl (fun before code => before * 10 + (code - 48)) 0 = value

theorem ofDigitChars_eq_foldl (text : List Char) (before : Nat) :
    Nat.ofDigitChars 10 text before =
      (text.map Char.toNat).foldl (fun before code => before * 10 + (code - 48)) before := by
  induction text generalizing before with
  | nil => rfl
  | cons c rest ih =>
      rw [Nat.ofDigitChars_cons, ih, List.map_cons, List.foldl_cons, Nat.mul_comm]
      rfl

theorem all_isDigit_iff (text : List Char) :
    text.all Char.isDigit = true <->
      forall code, code ∈ text.map Char.toNat -> 48 ≤ code ∧ code ≤ 57 := by
  rw [List.all_eq_true, List.forall_mem_map]
  exact forall₂_congr fun c _ => Char.isDigit_iff_toNat

theorem value?_eq_some_iff (text : List Char) (value : Nat) :
    value? text = some value <-> Denotes (text.map Char.toNat) value := by
  have empty : text.map Char.toNat ≠ [] <-> (!text.isEmpty) = true := by
    cases text <;> simp only [List.map_nil, List.map_cons, List.isEmpty, ne_eq, reduceCtorEq,
      not_true_eq_false, not_false_eq_true, Bool.not_true, Bool.not_false, Bool.false_eq_true]
  unfold value?
  rw [ofDigitChars_eq_foldl]
  constructor
  · intro read
    by_cases plain : (!text.isEmpty && text.all Char.isDigit) = true
    · rw [if_pos plain] at read
      have parts := Bool.and_eq_true_iff.mp plain
      exact ⟨empty.mpr parts.1, (all_isDigit_iff text).mp parts.2, Option.some.inj read⟩
    · rw [if_neg plain] at read
      cases read
  · intro denotes
    have plain : (!text.isEmpty && text.all Char.isDigit) = true :=
      Bool.and_eq_true_iff.mpr ⟨empty.mp denotes.nonempty, (all_isDigit_iff text).mpr denotes.digits⟩
    rw [if_pos plain, denotes.total]

theorem below?_eq_some_iff (limit : Nat) (text : List Char) (value : Nat) :
    below? limit text = some value <-> Denotes (text.map Char.toNat) value ∧ value < limit := by
  rw [← value?_eq_some_iff]
  unfold below?
  cases value? text with
  | none => simp only [reduceCtorEq, false_and]
  | some read =>
      simp only [Option.some.injEq]
      by_cases small : read < limit
      · rw [if_pos small]
        constructor
        · intro same
          have same := Option.some.inj same
          exact ⟨same, same ▸ small⟩
        · intro both
          rw [both.1]
      · rw [if_neg small]
        constructor
        · intro impossible
          cases impossible
        · intro both
          exact (small (both.1 ▸ both.2)).elim

theorem word32?_eq_some_iff (text : List Char) (number : UInt32) :
    word32? text = some number <-> Denotes (text.map Char.toNat) number.toNat := by
  unfold word32?
  rw [Option.map_eq_some_iff]
  constructor
  · rintro ⟨value, read, same⟩
    have parts := (below?_eq_some_iff _ _ _).mp read
    rw [← same, UInt32.toNat_ofNat_of_lt' parts.2]
    exact parts.1
  · intro denotes
    exact ⟨number.toNat, (below?_eq_some_iff _ _ _).mpr ⟨denotes, number.toNat_lt⟩,
      UInt32.ofNat_toNat⟩

theorem word64?_eq_some_iff (text : List Char) (number : UInt64) :
    word64? text = some number <-> Denotes (text.map Char.toNat) number.toNat := by
  unfold word64?
  rw [Option.map_eq_some_iff]
  constructor
  · rintro ⟨value, read, same⟩
    have parts := (below?_eq_some_iff _ _ _).mp read
    rw [← same, UInt64.toNat_ofNat_of_lt' parts.2]
    exact parts.1
  · intro denotes
    exact ⟨number.toNat, (below?_eq_some_iff _ _ _).mpr ⟨denotes, number.toNat_lt⟩,
      UInt64.ofNat_toNat⟩

theorem ofName?_eq_some_iff (name : Bytes) (number : UInt32) :
    ofName? name = some number <-> Denotes (name.map UInt8.toNat) number.toNat := by
  unfold ofName?
  rw [word32?_eq_some_iff, List.map_map]
  have same : (Char.toNat ∘ fun byte : UInt8 => Char.ofNat byte.toNat) = UInt8.toNat :=
    funext Utf8.toNat_charOfByte
  rw [same]

/-- A value below the bound is that of a machine word. -/
theorem exists_word32_iff {codes : List Nat} :
    (Exists fun value : Nat => Denotes codes value ∧ value < UInt32.size) <->
      Exists fun number : UInt32 => Denotes codes number.toNat := by
  constructor
  · rintro ⟨value, denotes, small⟩
    refine ⟨UInt32.ofNat value, ?_⟩
    rw [UInt32.toNat_ofNat_of_lt' small]
    exact denotes
  · rintro ⟨number, denotes⟩
    exact ⟨number.toNat, denotes, number.toNat_lt⟩

theorem exists_word64_iff {codes : List Nat} :
    (Exists fun value : Nat => Denotes codes value ∧ value < UInt64.size) <->
      Exists fun number : UInt64 => Denotes codes number.toNat := by
  constructor
  · rintro ⟨value, denotes, small⟩
    refine ⟨UInt64.ofNat value, ?_⟩
    rw [UInt64.toNat_ofNat_of_lt' small]
    exact denotes
  · rintro ⟨number, denotes⟩
    exact ⟨number.toNat, denotes, number.toNat_lt⟩

/-- A file name that is a plain number of 32 bits. -/
def IsNumberName (name : Bytes) : Prop :=
  Exists fun value : Nat => Denotes (name.map UInt8.toNat) value ∧ value < UInt32.size

theorem isNumberName_iff (name : Bytes) :
    IsNumberName name <-> Exists fun number : UInt32 => ofName? name = some number := by
  simp only [ofName?_eq_some_iff]
  exact exists_word32_iff

theorem isSome_ofName?_iff (name : Bytes) : (ofName? name).isSome = true <-> IsNumberName name := by
  rw [Option.isSome_iff_exists, isNumberName_iff]

instance : DecidablePred IsNumberName :=
  fun name => decidable_of_iff _ (isSome_ofName?_iff name)

theorem mem_digits_isDigit {value : Nat} {c : Char} (member : c ∈ digits value) :
    c.isDigit = true :=
  Nat.isDigit_of_mem_toDigits (by decide) (by decide) member

theorem not_mem_digits {c : Char} (other : c.isDigit = false) (value : Nat) : c ∉ digits value := by
  intro member
  rw [mem_digits_isDigit member] at other
  cases other

@[simp]
theorem count_newline_digits (value : Nat) : (digits value).count '\n' = 0 :=
  List.count_eq_zero.mpr (not_mem_digits rfl value)

/-- No digit is blank. -/
theorem mem_digits_clean {c : Char} {value : Nat} (member : c ∈ digits value) :
    Blank.isBlank c = false := by
  have range := Char.isDigit_iff_toNat.mp (mem_digits_isDigit member)
  have low : 48 ≤ c.toNat := range.1
  have high : c.toNat ≤ 57 := range.2
  simp only [Blank.isBlank, Bool.or_eq_false_iff, Bool.and_eq_false_iff, decide_eq_false_iff_not]
  omega

theorem withoutPlus_digits (value : Nat) : withoutPlus (digits value) = digits value := by
  unfold withoutPlus
  split
  · rename_i rest whole
    have plus : '+' ∈ digits value := whole ▸ List.mem_cons_self
    exact (not_mem_digits rfl value plus).elim
  · rfl

/-- Digits are ASCII, so the replacement character is none of them. -/
theorem Denotes.ascii {text : List Char} {value : Nat}
    (denotes : Denotes (text.map Char.toNat) value) : forall c, c ∈ text -> c.toNat < 0x80 := by
  intro c member
  have range := denotes.digits c.toNat (List.mem_map_of_mem member)
  exact Nat.lt_of_le_of_lt range.2 (by decide)

/-- A number in bytes is a number in characters that was written. -/
theorem denotes_bytes_iff (bytes : Bytes) (value : Nat) :
    Denotes (bytes.map UInt8.toNat) value <->
      Exists fun text : List Char => bytes = Utf8.encodeChars text ∧
        Denotes (text.map Char.toNat) value := by
  constructor
  · intro denotes
    have codes : (bytes.map fun byte => Char.ofNat byte.toNat).map Char.toNat =
        bytes.map UInt8.toNat := by
      rw [List.map_map]
      exact List.map_congr_left fun byte _ => Utf8.toNat_charOfByte byte
    have shown := codes.symm ▸ denotes
    refine ⟨bytes.map fun byte => Char.ofNat byte.toNat, ?_, shown⟩
    apply Utf8.map_toNat_injective
    rw [Utf8.map_toNat_encodeChars shown.ascii, codes]
  · rintro ⟨text, written, denotes⟩
    rw [written, Utf8.map_toNat_encodeChars denotes.ascii]
    exact denotes

/-- Printing and reading are inverse: the printed digits denote the number. -/
theorem denotes_digits (value : Nat) : Denotes ((digits value).map Char.toNat) value where
  nonempty := by
    intro empty
    exact Nat.toDigits_ne_nil (List.map_eq_nil_iff.mp empty)
  digits := by
    rw [← all_isDigit_iff, List.all_eq_true]
    exact fun c member => mem_digits_isDigit member
  total := by
    rw [← ofDigitChars_eq_foldl]
    exact Nat.ofDigitChars_ten_toDigits

theorem digits_injective : Function.Injective digits := by
  intro value number same
  have denotes := denotes_digits value
  rw [same] at denotes
  exact denotes.total.symm.trans (denotes_digits number).total

theorem length_digits_le {value width : Nat} (wide : 0 < width) (small : value < 10 ^ width) :
    (digits value).length ≤ width :=
  (Nat.length_toDigits_le_iff (by decide) wide).mpr small

theorem encode_text (value : Nat) : Utf8.encode (text value) = Utf8.encodeChars (digits value) :=
  congrArg Utf8.encodeChars String.toList_ofList

theorem denotes_text (value : Nat) :
    Denotes ((Utf8.encode (text value)).map UInt8.toNat) value :=
  (denotes_bytes_iff _ _).mpr ⟨digits value, encode_text value, denotes_digits value⟩

theorem word32?_digits (number : UInt32) : word32? (digits number.toNat) = some number :=
  (word32?_eq_some_iff _ _).mpr (denotes_digits number.toNat)

theorem word64?_digits (number : UInt64) : word64? (digits number.toNat) = some number :=
  (word64?_eq_some_iff _ _).mpr (denotes_digits number.toNat)

end Decimal

namespace Hex

theorem digit?_upperDigit {value : Nat} (small : value < 16) :
    digit? (upperDigit value) = some value := by
  have table : forall digit : Fin 16, digit? (upperDigit digit.val) = some digit.val := by decide
  exact table ⟨value, small⟩

theorem length_upper (width value : Nat) : (upper width value).length = width := by
  induction width generalizing value with
  | zero => rfl
  | succ width ih => rw [upper, List.length_append, ih, List.length_singleton]

theorem mem_upper {c : Char} {width value : Nat} (member : c ∈ upper width value) :
    Exists fun digit : Fin 16 => c = upperDigit digit.val := by
  induction width generalizing value with
  | zero => cases member
  | succ width ih =>
      rw [upper] at member
      rcases List.mem_append.mp member with before | last
      · exact ih before
      · exact ⟨⟨value % 16, Nat.mod_lt _ (by decide)⟩, List.mem_singleton.mp last⟩

theorem valueFrom?_append (before : Nat) (left right : List Char) :
    valueFrom? before (left ++ right) =
      (valueFrom? before left).bind fun value => valueFrom? value right := by
  induction left generalizing before with
  | nil => rfl
  | cons c rest ih =>
      rw [List.cons_append, valueFrom?, valueFrom?]
      cases digit? c with
      | none => rfl
      | some digit => exact ih _

/-- A run of the given width shows the lowest digits of a number and nothing
else of it. -/
theorem valueFrom?_upper (before width value : Nat) :
    valueFrom? before (upper width value) = some (before * 16 ^ width + value % 16 ^ width) := by
  induction width generalizing value with
  | zero => rw [upper, valueFrom?, Nat.pow_zero, Nat.mul_one, Nat.mod_one, Nat.add_zero]
  | succ width ih =>
      have last : value % 16 < 16 := Nat.mod_lt _ (by decide)
      rw [upper, valueFrom?_append, ih, Option.bind_some, valueFrom?, digit?_upperDigit last]
      simp only [valueFrom?, Option.some.injEq]
      rw [Nat.pow_succ, Nat.mul_comm (16 ^ width) 16, Nat.mod_mul, Nat.add_mul,
        Nat.mul_left_comm before 16]
      omega

theorem value?_upper {least most width value : Nat} (wide : least ≤ width) (narrow : width ≤ most)
    (small : value < 16 ^ width) : value? least most (upper width value) = some value := by
  unfold value?
  rw [length_upper, if_pos (Bool.and_eq_true_iff.mpr ⟨decide_eq_true wide, decide_eq_true narrow⟩),
    valueFrom?_upper, Nat.zero_mul, Nat.zero_add, Nat.mod_eq_of_lt small]

end Hex
end ProcInspection
