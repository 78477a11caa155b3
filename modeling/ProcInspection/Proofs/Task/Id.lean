import ProcInspection.Failure
import ProcInspection.Proofs.Path
import ProcInspection.Proofs.Text.Zeros

namespace ProcInspection
namespace ProcessId

/-!
Process numbers in text.

A text names a process if it is a plain positive number of 32 bits, however
many zeros stand in front of it, and no other text does.  The number is shown
without these zeros, so they are all in which two texts of one process differ,
and such texts lead to one directory.
-/

/-- What the text of a process number is: digits and nothing else, of a value
that is positive and has 32 bits. -/
structure Spells (input : String) (number : Nat) : Prop where
  denotes : Decimal.Denotes (input.toList.map Char.toNat) number
  positive : 1 ≤ number
  bounded : number ≤ 4294967295

/-- A text gives its process, or the failure that repeats it. -/
inductive Reading (input : String) : Except Failure ProcessId -> Prop where
  | accepted (pid : ProcessId) (spells : Spells input pid.number.toNat) : Reading input (.ok pid)
  | refused (plain : forall number, ¬ Spells input number) :
      Reading input (.error (.invalidPid input))

theorem parse?_eq_some_iff (input : String) (pid : ProcessId) :
    parse? input = some pid <-> Spells input pid.number.toNat := by
  constructor
  · intro parsed
    unfold parse? at parsed
    cases read : Decimal.word32? input.toList with
    | none =>
        rw [read] at parsed
        cases parsed
    | some number =>
        rw [read] at parsed
        by_cases zero : number = 0
        · simp only [zero, if_true] at parsed
          cases parsed
        · simp only [zero, if_false] at parsed
          rw [← Option.some.inj parsed]
          have positive : number.toNat ≠ 0 := fun same => zero (UInt32.toNat.inj same)
          exact ⟨(Decimal.word32?_eq_some_iff _ _).mp read, Nat.one_le_iff_ne_zero.mpr positive,
            Nat.le_of_lt_succ number.toNat_lt⟩
  · intro spells
    have positive : pid.number ≠ 0 := by
      intro zero
      exact absurd spells.positive (by rw [zero]; decide)
    unfold parse?
    rw [(Decimal.word32?_eq_some_iff _ _).mpr spells.denotes]
    exact if_neg positive

theorem Spells.exists_pid {input : String} {number : Nat} (spells : Spells input number) :
    Exists fun pid : ProcessId => pid.number.toNat = number := by
  have small : number < UInt32.size := Nat.lt_succ_of_le spells.bounded
  exact ⟨⟨UInt32.ofNat number⟩, UInt32.toNat_ofNat_of_lt' small⟩

theorem parse?_eq_none_iff (input : String) :
    parse? input = none <-> forall number, ¬ Spells input number := by
  constructor
  · intro rejected number spells
    rcases spells.exists_pid with ⟨pid, rfl⟩
    rw [(parse?_eq_some_iff input pid).mpr spells] at rejected
    cases rejected
  · intro plain
    apply Option.eq_none_iff_forall_ne_some.mpr
    intro pid parsed
    exact plain _ ((parse?_eq_some_iff input pid).mp parsed)

theorem parse_of_parse? {input : String} {pid : ProcessId} (parsed : parse? input = some pid) :
    parse input = .ok pid := by
  unfold parse
  rw [parsed]

theorem parse_of_rejected {input : String} (rejected : parse? input = none) :
    parse input = .error (.invalidPid input) := by
  unfold parse
  rw [rejected]

theorem reading_parse (input : String) : Reading input (parse input) := by
  cases parsed : parse? input with
  | none =>
      rw [parse_of_rejected parsed]
      exact .refused ((parse?_eq_none_iff input).mp parsed)
  | some pid =>
      rw [parse_of_parse? parsed]
      exact .accepted pid ((parse?_eq_some_iff input pid).mp parsed)

/-- A text has one reading. -/
theorem Reading.eq_parse {input : String} {result : Except Failure ProcessId}
    (reading : Reading input result) : parse input = result := by
  cases reading with
  | accepted pid spells => exact parse_of_parse? ((parse?_eq_some_iff input pid).mpr spells)
  | refused plain => exact parse_of_rejected ((parse?_eq_none_iff input).mpr plain)

theorem spells_text {pid : ProcessId} (positive : 1 ≤ pid.number.toNat) :
    Spells pid.text pid.number.toNat where
  denotes := by
    unfold text Decimal.text
    rw [String.toList_ofList]
    exact Decimal.denotes_digits pid.number.toNat
  positive := positive
  bounded := Nat.le_of_lt_succ pid.number.toNat_lt

theorem Spells.text_eq {input : String} {pid : ProcessId} (spells : Spells input pid.number.toNat) :
    pid.text = String.ofList (Decimal.unpadded input.toList) :=
  congrArg String.ofList (spells.denotes.digits_eq spells.positive)

/-- Two texts that differ in the zeros in front alone. -/
def AgreeBehindZeros (input other : String) : Prop :=
  Decimal.unpadded input.toList = Decimal.unpadded other.toList

instance (input other : String) : Decidable (AgreeBehindZeros input other) :=
  inferInstanceAs (Decidable (_ = _))

theorem Spells.pid_eq_iff {input other : String} {pid process : ProcessId}
    (spells : Spells input pid.number.toNat) (also : Spells other process.number.toNat) :
    pid = process <-> AgreeBehindZeros input other := by
  have values := spells.denotes.value_eq_iff also.denotes
  rw [Decimal.significant_toNat_char, Decimal.significant_toNat_char,
    List.map_inj_right fun _ _ => Char.toNat_inj.mp] at values
  unfold AgreeBehindZeros
  rw [← values]
  constructor
  · rintro rfl
    rfl
  · intro same
    exact congrArg ProcessId.mk (UInt32.toNat.inj same)

/-- Which texts are process numbers, and of which process.  A text is read if it
spells a number, and is repeated in the failure if not.  A number that is shown
is read again, and what was read is shown without the zeros in front.  So two
texts that are read lead to the same process, and to the same places below any
root, if they agree behind these zeros and only then. -/
theorem pid_text_exact (input : String) :
    (forall number : Nat,
      (parse? input).map (fun pid => pid.number.toNat) = some number <-> Spells input number) ∧
    (forall result, parse input = result <-> Reading input result) ∧
    (forall pid : ProcessId, 1 ≤ pid.number.toNat -> parse? pid.text = some pid) ∧
    (forall pid, parse? input = some pid ->
      pid.text = String.ofList (Decimal.unpadded input.toList)) ∧
    forall other pid process, parse? input = some pid -> parse? other = some process ->
      (pid = process <-> AgreeBehindZeros input other) ∧
      forall root : ProcRoot,
        (root.processDir pid = root.processDir process <-> AgreeBehindZeros input other) ∧
        forall file : Path, file.isAbsolute = false ->
          (root.processFile pid file = root.processFile process file <->
            AgreeBehindZeros input other) := by
  refine ⟨?_, ?_, ?_, ?_, ?_⟩
  · intro number
    rw [Option.map_eq_some_iff]
    constructor
    · rintro ⟨pid, parsed, rfl⟩
      exact (parse?_eq_some_iff input pid).mp parsed
    · intro spells
      rcases spells.exists_pid with ⟨pid, rfl⟩
      exact ⟨pid, (parse?_eq_some_iff input pid).mpr spells, rfl⟩
  · intro result
    constructor
    · rintro rfl
      exact reading_parse input
    · exact Reading.eq_parse
  · intro pid positive
    exact (parse?_eq_some_iff pid.text pid).mpr (spells_text positive)
  · intro pid parsed
    exact ((parse?_eq_some_iff input pid).mp parsed).text_eq
  · intro other pid process parsed also
    have alike := ((parse?_eq_some_iff input pid).mp parsed).pid_eq_iff
      ((parse?_eq_some_iff other process).mp also)
    refine ⟨alike, ?_⟩
    intro root
    refine ⟨root.processDir_inj.trans alike, ?_⟩
    intro file relative
    exact (root.processFile_inj relative).trans alike

/-- Zeros in front do not matter, a zero behind does, and the first number past
the bound names no process. -/
theorem pid_text_exact_padded :
    parse? "007" = some ⟨7⟩ ∧ parse? "70" = some ⟨70⟩ ∧ 1 ≤ (ProcessId.mk 7).number.toNat ∧
      parse? (text ⟨7⟩) = some ⟨7⟩ ∧ text ⟨7⟩ = String.ofList (Decimal.unpadded "007".toList) ∧
      ProcRoot.standard.processDir ⟨7⟩ ≠ ProcRoot.standard.processDir ⟨70⟩ ∧
      ProcRoot.standard.processFile ⟨7⟩ (Path.ofText "fd") ≠
        ProcRoot.standard.processFile ⟨70⟩ (Path.ofText "fd") ∧
      parse "4294967296" = .error (.invalidPid "4294967296") := by
  have padded : parse? "007" = some ⟨7⟩ := by decide +kernel
  have other : parse? "70" = some ⟨70⟩ := by decide +kernel
  have past : parse? "4294967296" = none := by decide +kernel
  have different : ¬ AgreeBehindZeros "007" "70" := by decide +kernel
  rcases pid_text_exact "007" with ⟨_, _, displayed, shown, apart⟩
  have places := (apart _ _ _ padded other).2 .standard
  refine ⟨padded, other, by decide, displayed ⟨7⟩ (by decide), shown _ padded, ?_, ?_, ?_⟩
  · intro same
    exact different (places.1.mp same)
  · intro same
    exact different ((places.2 _ rfl).mp same)
  · exact ((pid_text_exact "4294967296").2.1 _).mpr (.refused ((parse?_eq_none_iff _).mp past))

end ProcessId
end ProcInspection
