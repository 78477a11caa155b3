import Mathlib.Data.List.Basic
import ProcInspection.Proofs.Text.Utf8

namespace ProcInspection
namespace Utf8

/-!
Stretches of characters and what is broken between them.

The reader goes from byte to byte and decides by ranges.  What it finds is said
here without it, by the written characters alone.  Where no character stands,
the bytes are broken as far as some character begins like them, and one byte is
broken where none begins that way.  Bytes fall apart like this in one way only,
and it is the reader's.  So a lossy text is the stretches of characters in
their order, with one replacement character for each broken run between them.
-/

/-- Bytes that some character begins with. -/
def Begun (run : Bytes) : Prop :=
  Exists fun c : Char => run <+: String.utf8EncodeChar c

/-- A broken run, and what stands behind it. -/
structure BrokenAt (run rest : Bytes) : Prop where
  unreadable : forall c : Char, ¬ String.utf8EncodeChar c <+: run ++ rest
  nonempty : run ≠ []
  begun : run.length = 1 ∨ Begun run
  longest : forall longer, Begun longer -> longer <+: run ++ rest -> longer.length ≤ run.length

/-- Bytes taken apart into the characters that stand there and broken runs where
none does. -/
inductive Splits : Bytes -> List Piece -> Prop where
  | none : Splits [] []
  | scalar (c : Char) {rest : Bytes} {found : List Piece} (more : Splits rest found) :
      Splits (String.utf8EncodeChar c ++ rest) (.scalar c :: found)
  | broken {run rest : Bytes} {found : List Piece} (broken : BrokenAt run rest)
      (more : Splits rest found) : Splits (run ++ rest) (.broken run :: found)

variable {first second third : UInt8} {run rest more bytes : Bytes} {bits following : Nat}

/-! ## How characters begin -/

theorem char_of_append_eq {c d : Char} {rest other : Bytes}
    (same : String.utf8EncodeChar c ++ rest = String.utf8EncodeChar d ++ other) :
    c = d ∧ rest = other := by
  have read := congrArg pieces same
  rw [pieces_append_of_form (form_encodeChar c), pieces_append_of_form (form_encodeChar d)] at read
  have chars : c = d := Piece.scalar.inj (List.cons.inj read).1
  rw [chars] at same
  exact ⟨chars, List.append_cancel_left same⟩

/-- No character begins with another. -/
theorem eq_of_prefix {c d : Char} (begins : String.utf8EncodeChar c <+: String.utf8EncodeChar d) :
    c = d := by
  rcases begins with ⟨rest, whole⟩
  rw [← List.append_nil (String.utf8EncodeChar d)] at whole
  exact (char_of_append_eq whole).1

theorem Begun.of_append (begun : Begun (run ++ more)) : Begun run := by
  rcases begun with ⟨c, begins⟩
  exact ⟨c, (List.prefix_append run more).trans begins⟩

theorem Opening.following_unique {other otherFollowing : Nat}
    (opening : Opening first second bits following)
    (also : Opening first second other otherFollowing) : following = otherFollowing := by
  cases opening <;> cases also <;> first | rfl | omega

/-- A character of more than one byte is two bytes that open it, and as many
continuations as they announce. -/
theorem opening_of_written {c : Char}
    (written : String.utf8EncodeChar c = first :: second :: more) :
    (Exists fun bits : Nat => Opening first second bits (more.length + 1)) ∧
      forall byte, byte ∈ more -> isContinuation byte = true := by
  have form := form_encodeChar c
  rw [written] at form
  cases form with
  | two opening => exact ⟨⟨_, opening⟩, List.forall_mem_nil _⟩
  | three opening last => exact ⟨⟨_, opening⟩, List.forall_mem_singleton.mpr last⟩
  | four opening next last =>
      exact ⟨⟨_, opening⟩, List.forall_mem_cons.mpr ⟨next, List.forall_mem_singleton.mpr last⟩⟩

theorem exists_written (opening : Opening first second bits (more.length + 1))
    (continued : forall byte, byte ∈ more -> isContinuation byte = true) :
    Exists fun c : Char => String.utf8EncodeChar c = first :: second :: more := by
  match more with
  | [] => exact ⟨_, encodeChar_of_form (.two opening)⟩
  | [third] => exact ⟨_, encodeChar_of_form (.three opening (continued third List.mem_cons_self))⟩
  | [third, fourth] =>
      have parts := List.forall_mem_cons.mp continued
      exact ⟨_, encodeChar_of_form
        (.four opening parts.1 (parts.2 fourth List.mem_cons_self))⟩
  | _ :: _ :: _ :: longer =>
      have few := opening.following_eq
      simp only [List.length_cons] at few
      omega

/-- Two bytes and more are the beginning of a character if the first two open it
and continuations follow, not all of those announced or all of them. -/
theorem begun_iff : Begun (first :: second :: more) <->
    (Exists fun bits : Nat => Exists fun following : Nat =>
      Opening first second bits following ∧ more.length < following) ∧
      forall byte, byte ∈ more -> isContinuation byte = true := by
  constructor
  · rintro ⟨c, missing, whole⟩
    rw [List.cons_append, List.cons_append] at whole
    rcases opening_of_written whole.symm with ⟨⟨bits, opening⟩, continued⟩
    have short : more.length < (more ++ missing).length + 1 := by
      rw [List.length_append]
      omega
    exact ⟨⟨bits, _, opening, short⟩, (List.forall_mem_append.mp continued).1⟩
  · rintro ⟨⟨bits, following, opening, short⟩, continued⟩
    -- Any continuations complete the character; the least one will do.
    have completed : forall byte, byte ∈ more ++ List.replicate (following - 1 - more.length) 0x80 ->
        isContinuation byte = true := by
      refine List.forall_mem_append.mpr ⟨continued, fun byte member => ?_⟩
      rw [List.eq_of_mem_replicate member]
      rfl
    have count : following =
        (more ++ List.replicate (following - 1 - more.length) (0x80 : UInt8)).length + 1 := by
      rw [List.length_append, List.length_replicate]
      omega
    rw [count] at opening
    rcases exists_written opening completed with ⟨c, written⟩
    exact ⟨c, written ▸ List.prefix_append (first :: second :: more) _⟩

/-! ## Broken runs -/

/-- A run is broken if it is no character and the next byte takes it no further. -/
theorem BrokenAt.of_stuck (nonempty : run ≠ []) (begun : run.length = 1 ∨ Begun run)
    (unwritten : forall c : Char, String.utf8EncodeChar c ≠ run)
    (stuck : forall next, rest.head? = some next -> ¬ Begun (run ++ [next])) :
    BrokenAt run rest := by
  have longest : forall longer, Begun longer -> longer <+: run ++ rest ->
      longer.length ≤ run.length := by
    intro longer started stands
    by_contra exceeds
    rcases List.prefix_of_prefix_length_le (List.prefix_append run rest) stands
      (Nat.le_of_lt (Nat.lt_of_not_le exceeds)) with ⟨extra, rfl⟩
    rcases (List.prefix_append_right_inj run).mp stands with ⟨beyond, rfl⟩
    cases extra with
    | nil =>
        rw [List.append_nil] at exceeds
        exact exceeds (Nat.le_refl run.length)
    | cons next extra =>
        rw [List.append_cons] at started
        exact stuck next rfl started.of_append
  refine ⟨?_, nonempty, begun, longest⟩
  intro c stands
  have within : String.utf8EncodeChar c <+: run :=
    List.prefix_of_prefix_length_le stands (List.prefix_append run rest)
      (longest _ ⟨c, List.prefix_rfl⟩ stands)
  rcases begun with single | ⟨d, begins⟩
  · have some := List.length_pos_iff.mpr (String.utf8EncodeChar_ne_nil (c := c))
    exact unwritten c (within.eq_of_length_le (by omega))
  · have same : c = d := eq_of_prefix (within.trans begins)
    rw [← same] at begins
    exact unwritten c (within.eq_of_length_le begins.length_le)

/-- One broken run stands in one place. -/
theorem BrokenAt.unique {other behind : Bytes} (broken : BrokenAt run rest)
    (also : BrokenAt other behind) (same : run ++ rest = other ++ behind) :
    run = other ∧ rest = behind := by
  have least : forall {run rest other behind : Bytes}, BrokenAt run rest -> BrokenAt other behind ->
      run ++ rest = other ++ behind -> run.length ≤ other.length := by
    intro run rest other behind broken also same
    rcases broken.begun with single | begun
    · rw [single]
      exact List.length_pos_iff.mpr also.nonempty
    · exact also.longest run begun (same ▸ List.prefix_append run rest)
  exact List.append_inj same
    (Nat.le_antisymm (least broken also same) (least also broken same.symm))

/-- A byte that is no character is broken by itself if the next one is not
admitted behind it. -/
theorem brokenAt_single (high : ¬ first.toNat < 0x80)
    (stuck : forall lead next, Lead.ofByte? first = some lead -> rest.head? = some next ->
      lead.admits next ≠ true) : BrokenAt [first] rest := by
  apply BrokenAt.of_stuck (List.cons_ne_nil first []) (Or.inl rfl)
  · intro c written
    have form := form_encodeChar c
    rw [written] at form
    cases form with
    | one low => exact high low
  · intro next stands begun
    rcases (begun_iff.mp begun).1 with ⟨bits, following, opening, _⟩
    rcases admits_of_opening opening with ⟨lead, announced, admitted, _⟩
    exact stuck lead next announced stands admitted

/-- A character that has been opened is broken if too few continuations follow. -/
theorem brokenAt_opened (opening : Opening first second bits following)
    (short : more.length + 1 < following)
    (continued : forall byte, byte ∈ more -> isContinuation byte = true)
    (stuck : forall next, rest.head? = some next -> isContinuation next ≠ true) :
    BrokenAt (first :: second :: more) rest := by
  apply BrokenAt.of_stuck (List.cons_ne_nil first (second :: more))
  · exact Or.inr (begun_iff.mpr ⟨⟨bits, following, opening, Nat.lt_of_succ_lt short⟩, continued⟩)
  · intro c written
    rcases (opening_of_written written).1 with ⟨_, complete⟩
    exact Nat.ne_of_lt short (complete.following_unique opening)
  · intro next stands begun
    exact stuck next stands ((begun_iff.mp begun).2 next List.mem_concat_self)

theorem brokenAt_pair (opening : Opening first second bits following) (more : following ≠ 1)
    (stuck : forall next, rest.head? = some next -> isContinuation next ≠ true) :
    BrokenAt [first, second] rest := by
  have known := opening.following_eq
  have short : ([] : Bytes).length + 1 < following := by
    rw [List.length_nil]
    omega
  exact brokenAt_opened opening short (List.forall_mem_nil _) stuck

theorem brokenAt_triple (opening : Opening first second bits following) (more : following ≠ 1)
    (longer : following ≠ 2) (next : isContinuation third = true)
    (stuck : forall next, rest.head? = some next -> isContinuation next ≠ true) :
    BrokenAt [first, second, third] rest := by
  have known := opening.following_eq
  have short : [third].length + 1 < following := by
    rw [List.length_singleton]
    omega
  exact brokenAt_opened opening short (List.forall_mem_singleton.mpr next) stuck

/-! ## The reader -/

theorem Stuck.brokenAt (stuck : Stuck run rest) : BrokenAt run rest := by
  cases stuck with
  | single high stuck => exact brokenAt_single high stuck
  | pair opening more stuck => exact brokenAt_pair opening more stuck
  | triple opening more longer continues stuck =>
      exact brokenAt_triple opening more longer continues stuck

theorem Finds.splits {found : List Piece} (finds : Finds bytes found) : Splits bytes found := by
  induction finds with
  | none => exact .none
  | @scalar c written rest found form more ih =>
      rw [← encodeChar_of_form form]
      exact .scalar c ih
  | broken stuck more ih => exact .broken stuck.brokenAt ih

theorem splits_pieces (bytes : Bytes) : Splits bytes (pieces bytes) :=
  (finds_pieces bytes).splits

theorem Splits.unique {found other : List Piece} (one : Splits bytes found)
    (also : Splits bytes other) : found = other := by
  induction one generalizing other with
  | none =>
      generalize same : ([] : Bytes) = whole at also
      cases also with
      | none => rfl
      | scalar c more =>
          exact absurd (List.append_eq_nil_iff.mp same.symm).1 String.utf8EncodeChar_ne_nil
      | broken broken more => exact absurd (List.append_eq_nil_iff.mp same.symm).1 broken.nonempty
  | @scalar c rest found more ih =>
      generalize same : String.utf8EncodeChar c ++ rest = whole at also
      cases also with
      | none => exact absurd (List.append_eq_nil_iff.mp same).1 String.utf8EncodeChar_ne_nil
      | scalar d further =>
          rcases char_of_append_eq same with ⟨rfl, rfl⟩
          rw [ih further]
      | broken broken further => exact absurd ⟨rest, same⟩ (broken.unreadable c)
  | @broken run rest found broken more ih =>
      generalize same : run ++ rest = whole at also
      cases also with
      | none => exact absurd (List.append_eq_nil_iff.mp same).1 broken.nonempty
      | scalar c further => exact absurd ⟨_, same.symm⟩ (broken.unreadable c)
      | broken alsoBroken further =>
          rcases broken.unique alsoBroken same with ⟨rfl, rfl⟩
          rw [ih further]

/-- The reader takes bytes apart as they fall apart. -/
theorem splits_iff {found : List Piece} : Splits bytes found <-> found = pieces bytes := by
  constructor
  · exact fun splits => splits.unique (splits_pieces bytes)
  · rintro rfl
    exact splits_pieces bytes

/-- Every piece takes at least one byte. -/
theorem Splits.length_le {found : List Piece} (splits : Splits bytes found) :
    found.length ≤ bytes.length := by
  induction splits with
  | none => exact Nat.le_refl 0
  | @scalar c rest found more ih =>
      have some := List.length_pos_iff.mpr (String.utf8EncodeChar_ne_nil (c := c))
      rw [List.length_cons, List.length_append]
      omega
  | @broken run rest found broken more ih =>
      have some := List.length_pos_iff.mpr broken.nonempty
      rw [List.length_cons, List.length_append]
      omega

/-- A lossy text has no more characters than it was read from bytes. -/
theorem length_decodeLossy_le (bytes : Bytes) :
    (decodeLossy bytes).toList.length ≤ bytes.length := by
  rw [toList_decodeLossy, List.length_map]
  exact (splits_pieces bytes).length_le

/-! ## Stretches -/

/-- The stretches of characters in some bytes, as many as there are broken runs
and one.  A stretch ends where no character stands, and it may be empty. -/
inductive Stretches : Bytes -> List (List Char) -> Prop where
  | last (text : List Char) : Stretches (encodeChars text) [text]
  | next (text : List Char) {run rest : Bytes} {more : List (List Char)}
      (broken : BrokenAt run rest) (found : Stretches rest more) :
      Stretches (encodeChars text ++ (run ++ rest)) (text :: more)

theorem Splits.text {found : List Piece} (splits : Splits rest found) (text : List Char) :
    Splits (encodeChars text ++ rest) (text.map .scalar ++ found) := by
  induction text with
  | nil => exact splits
  | cons c text ih =>
      have whole := Splits.scalar c ih
      rw [← List.append_assoc] at whole
      exact whole

theorem Stretches.ne_nil {parts : List (List Char)} (stretches : Stretches bytes parts) :
    parts ≠ [] := by
  cases stretches <;> exact List.cons_ne_nil _ _

/-- A lossy text is the stretches in order, with one replacement character for
each broken run between them. -/
theorem Stretches.shown {parts : List (List Char)} (stretches : Stretches bytes parts) :
    (decodeLossy bytes).toList = [replacement].intercalate parts := by
  have chars : forall text : List Char, (text.map Piece.scalar).map Piece.shown = text := by
    intro text
    rw [List.map_map]
    exact List.map_id text
  have split : Exists fun found : List Piece =>
      Splits bytes found ∧ found.map Piece.shown = [replacement].intercalate parts := by
    induction stretches with
    | last text =>
        have splits := Splits.none.text text
        rw [List.append_nil, List.append_nil] at splits
        exact ⟨_, splits, by rw [chars, List.intercalate_singleton]⟩
    | next text broken further ih =>
        rcases ih with ⟨found, splits, shown⟩
        rcases List.exists_cons_of_ne_nil further.ne_nil with ⟨first, others, rfl⟩
        refine ⟨_, (splits.broken broken).text text, ?_⟩
        rw [List.map_append, chars, List.map_cons, shown, List.intercalate_cons_cons,
          List.append_assoc]
        rfl
  rcases split with ⟨found, splits, shown⟩
  rw [toList_decodeLossy, ← splits_iff.mp splits, shown]

theorem Splits.exists_stretches {found : List Piece} (splits : Splits bytes found) :
    Exists fun parts : List (List Char) => Stretches bytes parts := by
  induction splits with
  | none => exact ⟨[[]], .last []⟩
  | scalar c more ih =>
      rcases ih with ⟨parts, stretches⟩
      cases stretches with
      | last text => exact ⟨[c :: text], .last (c :: text)⟩
      | @next text run rest others broken further =>
          have whole := Stretches.next (c :: text) broken further
          rw [encodeChars, List.flatMap_cons, List.append_assoc] at whole
          exact ⟨(c :: text) :: others, whole⟩
  | broken broken more ih =>
      rcases ih with ⟨parts, stretches⟩
      exact ⟨[] :: parts, .next [] broken stretches⟩

theorem exists_stretches (bytes : Bytes) :
    Exists fun parts : List (List Char) => Stretches bytes parts :=
  (splits_pieces bytes).exists_stretches

end Utf8
end ProcInspection
