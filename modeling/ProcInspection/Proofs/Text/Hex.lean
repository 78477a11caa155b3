import Mathlib.Data.List.Induction
import ProcInspection.Proofs.Text.Number

namespace ProcInspection
namespace Hex

/-!
Hexadecimal numbers in text.

What a reader accepts is said by the place of each digit among the sixteen
upper case ones, so it is indifferent to case by its form.  A number has one
upper case text of each width, and any other text of it is that one but for
case and for zeros in front.
-/

/-- The digits in the order of their values. -/
def symbols : List Char :=
  ['0', '1', '2', '3', '4', '5', '6', '7', '8', '9', 'A', 'B', 'C', 'D', 'E', 'F']

def IsDigit (c : Char) : Prop :=
  c.toUpper ∈ symbols

/-- The value of a digit. -/
def place (c : Char) : Nat :=
  symbols.idxOf c.toUpper

/-- The positional value of digits, behind a value read before. -/
def total (before : Nat) (digits : List Char) : Nat :=
  digits.foldl (fun value c => value * 16 + place c) before

/-- Digits in either case that together have a value. -/
structure Denotes (digits : List Char) (value : Nat) : Prop where
  each : forall c, c ∈ digits -> IsDigit c
  sum : total 0 digits = value

theorem place_lt {c : Char} (digit : IsDigit c) : place c < 16 :=
  List.idxOf_lt_length_of_mem digit

/-- Beyond ASCII there are no digits, and no case to change either. -/
theorem not_isDigit_of_high {c : Char} (high : 128 ≤ c.toNat) : ¬ IsDigit c := by
  have low : (symbols.all fun symbol => symbol.toNat < 128) = true := by decide
  have same : c.toUpper = c := by
    unfold Char.toUpper
    split
    · next range =>
        have : c.toNat ≤ 122 := range.2
        omega
    · rfl
  intro digit
  rw [IsDigit, same] at digit
  exact absurd (of_decide_eq_true (List.all_eq_true.mp low c digit)) (Nat.not_lt_of_ge high)

theorem digit?_eq_some_iff (c : Char) (value : Nat) :
    digit? c = some value <-> IsDigit c ∧ place c = value := by
  rcases Nat.lt_or_ge c.toNat 128 with low | high
  · have table : forall code : Fin 128, digit? (Char.ofNat code) =
        if (Char.ofNat code).toUpper ∈ symbols then some (symbols.idxOf (Char.ofNat code).toUpper)
        else none := by decide
    have entry := table ⟨c.toNat, low⟩
    rw [Char.ofNat_toNat] at entry
    rw [entry, IsDigit, place]
    by_cases digit : c.toUpper ∈ symbols
    · rw [if_pos digit, Option.some.injEq]
      exact ⟨fun same => ⟨digit, same⟩, And.right⟩
    · rw [if_neg digit]
      exact ⟨nofun, fun both => (digit both.1).elim⟩
  · have unread : digit? c = none := by
      simp only [digit?, Bool.and_eq_true, decide_eq_true_eq]
      rw [if_neg (by omega), if_neg (by omega), if_neg (by omega)]
    rw [unread]
    exact ⟨nofun, fun both => (not_isDigit_of_high high both.1).elim⟩

theorem valueFrom?_eq_some_iff (before : Nat) (digits : List Char) (value : Nat) :
    valueFrom? before digits = some value <->
      (forall c, c ∈ digits -> IsDigit c) ∧ total before digits = value := by
  induction digits generalizing before with
  | nil => simp [valueFrom?, total]
  | cons c rest ih =>
      rw [valueFrom?, List.forall_mem_cons, total, List.foldl_cons]
      cases read : digit? c with
      | none =>
          have unread : ¬ IsDigit c := by
            intro digit
            rw [(digit?_eq_some_iff c _).mpr ⟨digit, rfl⟩] at read
            cases read
          constructor
          · intro impossible
            cases impossible
          · intro both
            exact (unread both.1.1).elim
      | some d =>
          rcases (digit?_eq_some_iff c d).mp read with ⟨digit, rfl⟩
          rw [ih, and_assoc]
          exact ⟨fun both => ⟨digit, both⟩, And.right⟩

/-- What a reader of some width accepts, and as what. -/
theorem value?_eq_some_iff (least most : Nat) (digits : List Char) (value : Nat) :
    value? least most digits = some value <->
      (least ≤ digits.length ∧ digits.length ≤ most) ∧ Denotes digits value := by
  have denotes : valueFrom? 0 digits = some value <-> Denotes digits value := by
    rw [valueFrom?_eq_some_iff]
    exact ⟨fun both => ⟨both.1, both.2⟩, fun denotes => ⟨denotes.each, denotes.sum⟩⟩
  simp only [value?, Bool.and_eq_true, decide_eq_true_eq]
  by_cases fits : least ≤ digits.length ∧ digits.length ≤ most
  · rw [if_pos fits, denotes]
    exact ⟨fun read => ⟨fits, read⟩, And.right⟩
  · rw [if_neg fits]
    exact ⟨nofun, fun both => (fits both.1).elim⟩

/-! ## Values of texts -/

theorem total_append (before : Nat) (left right : List Char) :
    total before (left ++ right) = total (total before left) right := by
  rw [total, List.foldl_append]
  rfl

/-- What was read before counts in front of all digits that follow. -/
theorem total_eq_add (before : Nat) (digits : List Char) :
    total before digits = before * 16 ^ digits.length + total 0 digits := by
  have last : forall (value : Nat) (c : Char), total value [c] = value * 16 + place c :=
    fun value c => rfl
  induction digits using List.reverseRecOn with
  | nil => simp [total]
  | append_singleton front c ih =>
      rw [total_append, total_append, last, last, ih, List.length_append, List.length_singleton,
        Nat.pow_succ, Nat.add_mul, Nat.mul_assoc, Nat.add_assoc]

theorem Denotes.unique {digits : List Char} {value other : Nat} (denotes : Denotes digits value)
    (again : Denotes digits other) : value = other :=
  denotes.sum.symm.trans again.sum

theorem denotes_nil : Denotes [] 0 :=
  ⟨nofun, rfl⟩

theorem denotes_singleton {c : Char} (digit : IsDigit c) : Denotes [c] (place c) :=
  ⟨List.forall_mem_singleton.mpr digit, Nat.zero_add _⟩

theorem denotes_of_digits {digits : List Char} (each : forall c, c ∈ digits -> IsDigit c) :
    Denotes digits (total 0 digits) :=
  ⟨each, rfl⟩

/-- The front of a text counts for as many places as follow it. -/
theorem denotes_append_iff (left right : List Char) (value : Nat) :
    Denotes (left ++ right) value <->
      Exists fun high : Nat => Exists fun low : Nat =>
        Denotes left high ∧ Denotes right low ∧ value = high * 16 ^ right.length + low := by
  constructor
  · intro denotes
    rcases List.forall_mem_append.mp denotes.each with ⟨leftEach, rightEach⟩
    refine ⟨_, _, denotes_of_digits leftEach, denotes_of_digits rightEach, ?_⟩
    rw [← denotes.sum, total_append, total_eq_add]
  · rintro ⟨high, low, highDenotes, lowDenotes, rfl⟩
    refine ⟨List.forall_mem_append.mpr ⟨highDenotes.each, lowDenotes.each⟩, ?_⟩
    rw [total_append, total_eq_add, highDenotes.sum, lowDenotes.sum]

theorem denotes_concat_iff (front : List Char) (c : Char) (value : Nat) :
    Denotes (front ++ [c]) value <->
      Exists fun high : Nat => Denotes front high ∧ IsDigit c ∧ value = high * 16 + place c := by
  rw [denotes_append_iff]
  constructor
  · rintro ⟨high, low, highDenotes, lowDenotes, rfl⟩
    have digit := lowDenotes.each c (List.mem_singleton_self c)
    exact ⟨high, highDenotes, digit, by rw [lowDenotes.unique (denotes_singleton digit)]; rfl⟩
  · rintro ⟨high, highDenotes, digit, rfl⟩
    exact ⟨high, _, highDenotes, denotes_singleton digit, rfl⟩

/-- A number takes no more room than its digits give. -/
theorem Denotes.lt {digits : List Char} {value : Nat} (denotes : Denotes digits value) :
    value < 16 ^ digits.length := by
  induction digits using List.reverseRecOn generalizing value with
  | nil =>
      rw [denotes.unique denotes_nil]
      exact Nat.one_pos
  | append_singleton front c ih =>
      rcases (denotes_concat_iff front c value).mp denotes with ⟨high, highDenotes, digit, rfl⟩
      have small := ih highDenotes
      have last := place_lt digit
      rw [List.length_append, List.length_singleton, Nat.pow_succ]
      omega

/-! ## The upper case text -/

theorem upperDigit_place {c : Char} (digit : IsDigit c) : upperDigit (place c) = c.toUpper := by
  have table : (symbols.all fun symbol => upperDigit (symbols.idxOf symbol) = symbol) = true := by
    decide
  exact of_decide_eq_true (List.all_eq_true.mp table c.toUpper digit)

theorem upper_zero (width : Nat) : upper width 0 = List.replicate width '0' := by
  induction width with
  | zero => rfl
  | succ width ih =>
      rw [upper, ih, List.replicate_succ']
      rfl

/-- Writing the number of a text at some width gives back the text in upper
case, behind zeros. -/
theorem upper_of_denotes {width : Nat} {digits : List Char} {value : Nat}
    (denotes : Denotes digits value) (fits : digits.length ≤ width) :
    upper width value =
      List.replicate (width - digits.length) '0' ++ digits.map Char.toUpper := by
  induction digits using List.reverseRecOn generalizing width value with
  | nil =>
      rw [denotes.unique denotes_nil, upper_zero]
      simp
  | append_singleton front c ih =>
      rcases (denotes_concat_iff front c value).mp denotes with ⟨high, highDenotes, digit, rfl⟩
      have last := place_lt digit
      rw [List.length_append, List.length_singleton] at fits ⊢
      cases width with
      | zero => cases fits
      | succ width =>
          have shifted : (high * 16 + place c) / 16 = high := by omega
          have lowest : (high * 16 + place c) % 16 = place c := by omega
          rw [upper, shifted, lowest, ih highDenotes (Nat.le_of_succ_le_succ fits),
            upperDigit_place digit, Nat.add_sub_add_right, List.map_append, List.append_assoc]
          rfl

end Hex
end ProcInspection
