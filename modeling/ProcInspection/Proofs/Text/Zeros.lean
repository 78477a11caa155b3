import Mathlib.Data.List.Basic
import Mathlib.Data.List.Induction
import Mathlib.Data.Nat.Digits.Defs
import ProcInspection.Proofs.Text.Number

namespace ProcInspection
namespace Decimal

/-!
Leading zeros.

A number may be written with any number of zeros in front.  They add nothing to
its value, and they are all that two texts of one number can differ in: without
them a text is the list of the digits of its number.
-/

/-- The value of the digits of a text, most significant first. -/
def valueOf (codes : List Nat) : Nat :=
  codes.foldl (fun before code => before * 10 + (code - 48)) 0

/-- The codes of a number without the zeros in front. -/
def significant (codes : List Nat) : List Nat :=
  codes.dropWhile fun code => code == 48

theorem valueOf_eq_ofDigits (codes : List Nat) :
    valueOf codes = Nat.ofDigits 10 (codes.reverse.map fun code => code - 48) := by
  induction codes using List.reverseRecOn with
  | nil => rfl
  | append_singleton front code ih =>
      have last : valueOf (front ++ [code]) = valueOf front * 10 + (code - 48) := by
        rw [valueOf, List.foldl_append]
        rfl
      rw [last, ih, List.reverse_concat, List.map_cons, Nat.ofDigits_cons]
      exact (Nat.add_comm _ _).trans (congrArg _ (Nat.mul_comm _ _))

theorem valueOf_significant (codes : List Nat) : valueOf (significant codes) = valueOf codes := by
  induction codes with
  | nil => rfl
  | cons code codes ih =>
      by_cases zero : code = 48
      · rw [significant, List.dropWhile_cons, zero]
        exact ih
      · rw [significant, List.dropWhile_cons, beq_false_of_ne zero]
        rfl

/-- Without its leading zeros a text is the list of the digits of its number. -/
theorem Denotes.significant_eq {codes : List Nat} {value : Nat} (denotes : Denotes codes value) :
    significant codes = (Nat.digits 10 value).reverse.map fun digit => digit + 48 := by
  have each : forall code, code ∈ significant codes -> 48 ≤ code ∧ code ≤ 57 :=
    fun code member => denotes.digits code ((List.dropWhile_sublist _).subset member)
  have sum : value = valueOf (significant codes) :=
    denotes.total.symm.trans (valueOf_significant codes).symm
  have digits : Nat.digits 10 value = (significant codes).reverse.map fun code => code - 48 := by
    rw [sum, valueOf_eq_ofDigits]
    apply Nat.digits_ofDigits 10 (by decide)
    · intro digit member
      rcases List.mem_map.mp member with ⟨code, inside, rfl⟩
      have range := each code (List.mem_reverse.mp inside)
      omega
    · -- The first digit that is kept is no zero.
      intro nonempty
      rw [List.getLast_map, List.getLast_reverse]
      have kept : significant codes ≠ [] := by simpa using nonempty
      have head := List.head_dropWhile_not (fun code => code == 48) kept
      have range := each _ (List.head_mem kept)
      have nonzero : (significant codes).head kept ≠ 48 := beq_eq_false_iff_ne.mp head
      omega
  have back : (significant codes).map (fun code => code - 48 + 48) = (significant codes).map id :=
    List.map_congr_left fun code member => Nat.sub_add_cancel (each code member).1
  rw [digits, ← List.map_reverse, List.reverse_reverse, List.map_map]
  exact (back.trans (List.map_id _)).symm

/-- Two texts have one number if they agree without leading zeros. -/
theorem Denotes.value_eq_iff {codes others : List Nat} {value number : Nat}
    (denotes : Denotes codes value) (also : Denotes others number) :
    value = number <-> significant codes = significant others := by
  constructor
  · rintro rfl
    rw [denotes.significant_eq, also.significant_eq]
  · intro same
    rw [← denotes.total, ← also.total]
    change valueOf codes = valueOf others
    rw [← valueOf_significant, same, valueOf_significant]

/-- It does not matter what the codes stand for: they are the same without the
zeros in front. -/
theorem significant_map {α : Type} [BEq α] [LawfulBEq α] {code : α -> Nat}
    (injective : Function.Injective code) {zero : α} (shown : code zero = 48) (text : List α) :
    significant (text.map code) = (text.dropWhile fun item => item == zero).map code := by
  have tests : (fun number : Nat => number == 48) ∘ code = fun item => item == zero := by
    funext item
    apply Bool.eq_iff_iff.mpr
    rw [Function.comp_apply, beq_iff_eq, beq_iff_eq, ← shown]
    exact injective.eq_iff
  rw [significant, List.dropWhile_map, tests]

/-- A text without the zeros in front. -/
def unpadded (text : List Char) : List Char :=
  text.dropWhile fun c => c == '0'

theorem significant_toNat_char (text : List Char) :
    significant (text.map Char.toNat) = (unpadded text).map Char.toNat :=
  significant_map (fun _ _ => Char.toNat_inj.mp) rfl text

/-- Only zero is written with a zero in front. -/
theorem head?_digits {value : Nat} (positive : 0 < value) : (digits value).head? ≠ some '0' := by
  unfold digits
  induction value using Nat.strongRecOn with
  | ind value ih =>
      by_cases small : value < 10
      · have table : forall digit : Fin 10, 0 < digit.val -> Nat.digitChar digit.val ≠ '0' := by
          decide
        rw [Nat.toDigits_of_lt_base small]
        intro zero
        exact table ⟨value, small⟩ positive (Option.some.inj zero)
      · rw [Nat.toDigits_of_base_le (by decide) (by omega),
          List.head?_append_of_ne_nil _ Nat.toDigits_ne_nil]
        exact ih (value / 10) (by omega) (by omega)

/-- A positive number is written without a zero in front. -/
theorem unpadded_digits {value : Nat} (positive : 0 < value) :
    unpadded (digits value) = digits value := by
  have first := head?_digits positive
  unfold unpadded
  cases written : digits value with
  | nil => rfl
  | cons c rest =>
      rw [written] at first
      apply List.dropWhile_cons_of_neg
      intro zero
      exact first (congrArg some (beq_iff_eq.mp zero))

/-- Any text of a positive number is its digits behind some zeros. -/
theorem Denotes.digits_eq {text : List Char} {value : Nat}
    (denotes : Denotes (text.map Char.toNat) value) (positive : 0 < value) :
    Decimal.digits value = unpadded text := by
  have same := ((denotes_digits value).value_eq_iff denotes).mp rfl
  rw [significant_toNat_char, significant_toNat_char, unpadded_digits positive] at same
  exact (List.map_inj_right fun _ _ => Char.toNat_inj.mp).mp same

end Decimal
end ProcInspection
