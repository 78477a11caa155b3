import Mathlib.Data.List.Induction
import ProcInspection.Text.Blank

namespace ProcInspection
namespace Blank

/-!
Bytes without the blanks at their ends.

Trimming searches for the first and for the last byte that is not blank and
cuts there.  The two searches run from opposite ends and do not know of each
other, except that the second falls back to where the first one stopped.  This
is why their results are always bounds of a slice, also in a string of blanks.
What the slice holds is the one middle part that has blanks around it and none
at its own ends.
-/

/-- No blank stands at either end. -/
structure Bare (bytes : Bytes) : Prop where
  first : forall byte, byte ∈ bytes.head? -> isBlankByte byte = false
  last : forall byte, byte ∈ bytes.getLast? -> isBlankByte byte = false

instance : DecidablePred Bare :=
  fun bytes =>
    let clean (found : Option UInt8) : Bool := found.all fun byte => isBlankByte byte = false
    decidable_of_iff (clean bytes.head? = true ∧ clean bytes.getLast? = true) (by
      simp only [clean, Option.all_eq_true, decide_eq_true_eq]
      exact ⟨fun ends => ⟨ends.1, ends.2⟩, fun bare => ⟨bare.first, bare.last⟩⟩)

/-- What some bytes hold between the blanks at their ends. -/
structure Trims (raw held : Bytes) : Prop where
  around : Exists fun before : Bytes => Exists fun after : Bytes =>
    raw = before ++ (held ++ after) ∧ (forall byte, byte ∈ before -> isBlankByte byte = true) ∧
      forall byte, byte ∈ after -> isBlankByte byte = true
  bare : Bare held

variable {raw held before after : Bytes} {byte : UInt8}

/-! ## One end after the other -/

theorem Bare.trims (bare : Bare raw) : Trims raw raw :=
  ⟨⟨[], [], (List.append_nil raw).symm, List.forall_mem_nil _, List.forall_mem_nil _⟩, bare⟩

/-- Blanks around some bytes are passed over. -/
theorem Trims.pad (blankBefore : forall byte, byte ∈ before -> isBlankByte byte = true)
    (blankAfter : forall byte, byte ∈ after -> isBlankByte byte = true)
    (trims : Trims raw held) : Trims (before ++ (raw ++ after)) held := by
  rcases trims.around with ⟨front, back, rfl, blankFront, blankBack⟩
  refine ⟨⟨before ++ front, back ++ after, ?_, ?_, ?_⟩, trims.bare⟩
  · simp only [List.append_assoc]
  · exact List.forall_mem_append.mpr ⟨blankBefore, blankFront⟩
  · exact List.forall_mem_append.mpr ⟨blankBack, blankAfter⟩

theorem Trims.cons (blank : isBlankByte byte = true) (trims : Trims raw held) :
    Trims (byte :: raw) held := by
  have padded := trims.pad (List.forall_mem_singleton.mpr blank) (List.forall_mem_nil _)
  rw [List.append_nil] at padded
  exact padded

theorem Trims.concat (blank : isBlankByte byte = true) (trims : Trims raw held) :
    Trims (raw ++ [byte]) held :=
  trims.pad (List.forall_mem_nil _) (List.forall_mem_singleton.mpr blank)

/-- The blanks at the right end are taken off down to a byte that stays. -/
theorem exists_trims_of_first (bare : isBlankByte byte = false) (rest : Bytes) :
    Exists fun held : Bytes => Trims (byte :: rest) held := by
  have first : forall (tail : Bytes) (other : UInt8), other ∈ (byte :: tail).head? ->
      isBlankByte other = false := fun _ _ starts => Option.some.inj starts ▸ bare
  induction rest using List.reverseRecOn with
  | nil => exact ⟨[byte], Bare.trims ⟨first [], first []⟩⟩
  | append_singleton rest last ih =>
      by_cases blank : isBlankByte last = true
      · rcases ih with ⟨held, trims⟩
        exact ⟨held, trims.concat blank⟩
      · have ends : forall other, other ∈ ((byte :: rest) ++ [last]).getLast? ->
            isBlankByte other = false := by
          intro other ends
          rw [List.getLast?_concat] at ends
          exact Option.some.inj ends ▸ Bool.eq_false_iff.mpr blank
        exact ⟨byte :: (rest ++ [last]), Bare.trims ⟨first (rest ++ [last]), ends⟩⟩

theorem exists_trims (raw : Bytes) : Exists fun held : Bytes => Trims raw held := by
  induction raw with
  | nil => exact ⟨[], Bare.trims ⟨fun _ => nofun, fun _ => nofun⟩⟩
  | cons byte rest ih =>
      by_cases blank : isBlankByte byte = true
      · rcases ih with ⟨held, trims⟩
        exact ⟨held, trims.cons blank⟩
      · exact exists_trims_of_first (Bool.eq_false_iff.mpr blank) rest

/-! ## Where the blanks end -/

theorem trimStart_of_blank (blank : forall byte, byte ∈ raw -> isBlankByte byte = true) :
    trimStart raw = raw.length := by
  apply List.findIdx_eq_length_of_false
  intro byte member
  rw [blank byte member, Bool.not_true]

theorem trimStart_append (blank : forall byte, byte ∈ before -> isBlankByte byte = true)
    (bare : isBlankByte byte = false) (rest : Bytes) :
    trimStart (before ++ byte :: rest) = before.length := by
  have passed : before.findIdx (fun byte => !isBlankByte byte) = before.length :=
    trimStart_of_blank blank
  unfold trimStart
  rw [List.findIdx_append, passed, if_neg (Nat.lt_irrefl _), List.findIdx_cons, bare, Bool.not_false,
    cond_true, Nat.zero_add]

theorem trimStop_of_blank (blank : forall byte, byte ∈ raw -> isBlankByte byte = true) :
    trimStop raw = trimStart raw := by
  have unfound : (raw.reverse.findIdx? fun byte => !isBlankByte byte) = none := by
    rw [List.findIdx?_eq_none_iff]
    intro byte member
    rw [blank byte (List.mem_reverse.mp member), Bool.not_true]
  rw [trimStop, unfound]

theorem trimStop_append (blank : forall byte, byte ∈ after -> isBlankByte byte = true)
    (bare : isBlankByte byte = false) (front : Bytes) :
    trimStop (front ++ byte :: after) = front.length + 1 := by
  have reversed : (front ++ byte :: after).reverse = after.reverse ++ byte :: front.reverse := by
    rw [List.reverse_append, List.reverse_cons, List.append_assoc, List.singleton_append]
  have found : ((front ++ byte :: after).reverse.findIdx? fun byte => !isBlankByte byte) =
      some after.length := by
    rw [List.findIdx?_eq_some_iff_findIdx_eq, reversed]
    constructor
    · rw [List.length_append, List.length_reverse, List.length_cons]
      omega
    · have blankReversed : forall byte, byte ∈ after.reverse -> isBlankByte byte = true :=
        fun byte member => blank byte (List.mem_reverse.mp member)
      exact (trimStart_append blankReversed bare front.reverse).trans List.length_reverse
  rw [trimStop, found]
  simp only [List.length_append, List.length_cons]
  omega

/-! ## Slices -/

/-- The bytes from one bound up to another.  Bounds that run backwards or past
the end have no slice, instead of a shorter one. -/
def slice? (raw : Bytes) (start stop : Nat) : Option Bytes :=
  if start ≤ stop ∧ stop ≤ raw.length then some ((raw.take stop).drop start) else none

theorem slice?_eq_some_iff {start stop : Nat} :
    slice? raw start stop = some held <->
      (start ≤ stop ∧ stop ≤ raw.length) ∧ (raw.take stop).drop start = held := by
  rw [slice?, Option.ite_none_right_eq_some, Option.some.injEq]

theorem slice?_append (before held after : Bytes) :
    slice? (before ++ (held ++ after)) before.length (before ++ held).length = some held := by
  rw [← List.append_assoc]
  apply slice?_eq_some_iff.mpr
  refine ⟨⟨(List.prefix_append before held).length_le,
    (List.prefix_append (before ++ held) after).length_le⟩, ?_⟩
  rw [List.take_left, List.drop_left]

/-! ## The middle part -/

/-- The searches end at the bounds of the middle part, wherever it lies. -/
theorem Trims.slice?_eq (trims : Trims raw held) :
    slice? raw (trimStart raw) (trimStop raw) = some held := by
  rcases trims.around with ⟨before, after, rfl, blankBefore, blankAfter⟩
  rcases List.eq_nil_or_concat held with rfl | ⟨front, last, whole⟩
  · -- Nothing but blanks: both searches run to the end, and the slice there is empty.
    have blank : forall byte, byte ∈ before ++ after -> isBlankByte byte = true :=
      List.forall_mem_append.mpr ⟨blankBefore, blankAfter⟩
    have atEnd := slice?_append (before ++ after) [] []
    simp only [List.append_nil] at atEnd
    rw [List.nil_append, trimStop_of_blank blank, trimStart_of_blank blank]
    exact atEnd
  · rw [List.concat_eq_append] at whole
    have start : trimStart (before ++ (held ++ after)) = before.length := by
      have some : held ≠ [] := whole ▸ List.concat_ne_nil last front
      rcases List.exists_cons_of_ne_nil some with ⟨first, rest, rfl⟩
      exact trimStart_append blankBefore (trims.bare.first first rfl) (rest ++ after)
    have stop : trimStop (before ++ (held ++ after)) = (before ++ held).length := by
      have ends : isBlankByte last = false :=
        trims.bare.last last (whole ▸ List.getLast?_concat)
      rw [whole, List.append_assoc, List.singleton_append, ← List.append_assoc,
        trimStop_append blankAfter ends, ← List.append_assoc]
      simp only [List.length_append, List.length_singleton]
    rw [start, stop]
    exact slice?_append before held after

theorem Trims.eq_trimBytes (trims : Trims raw held) : held = trimBytes raw :=
  (slice?_eq_some_iff.mp trims.slice?_eq).2.symm

theorem trims_iff : Trims raw held <-> held = trimBytes raw := by
  constructor
  · exact Trims.eq_trimBytes
  · rintro rfl
    rcases exists_trims raw with ⟨held, trims⟩
    rw [← trims.eq_trimBytes]
    exact trims

theorem trims_trimBytes (raw : Bytes) : Trims raw (trimBytes raw) :=
  trims_iff.mpr rfl

theorem Trims.length_le (trims : Trims raw held) : held.length ≤ raw.length := by
  rcases trims.around with ⟨before, after, rfl, _⟩
  simp only [List.length_append]
  omega

theorem trimBytes_of_bare (bare : Bare raw) : trimBytes raw = raw :=
  bare.trims.eq_trimBytes.symm

/-! ## More blanks -/

/-- Blanks around some bytes do not count. -/
theorem trimBytes_around (blankBefore : forall byte, byte ∈ before -> isBlankByte byte = true)
    (blankAfter : forall byte, byte ∈ after -> isBlankByte byte = true) (raw : Bytes) :
    trimBytes (before ++ (raw ++ after)) = trimBytes raw :=
  ((trims_trimBytes raw).pad blankBefore blankAfter).eq_trimBytes.symm

theorem trimBytes_cons (blank : isBlankByte byte = true) (raw : Bytes) :
    trimBytes (byte :: raw) = trimBytes raw :=
  ((trims_trimBytes raw).cons blank).eq_trimBytes.symm

theorem trimBytes_trimBytes (raw : Bytes) : trimBytes (trimBytes raw) = trimBytes raw := by
  rcases (trims_trimBytes raw).around with ⟨before, after, whole, blankBefore, blankAfter⟩
  calc
    trimBytes (trimBytes raw) = trimBytes (before ++ (trimBytes raw ++ after)) :=
      (trimBytes_around blankBefore blankAfter (trimBytes raw)).symm
    _ = trimBytes raw := congrArg trimBytes whole.symm

/-- The searches find bounds in every byte string, and the slice between them is
what trimming leaves.  It is the only part with nothing but blanks around it and
no blank at its own ends.  So blanks that are added at the ends change nothing,
and there is nothing to trim a second time. -/
theorem trimming_safe_and_exact (raw : Bytes) :
    (trimStart raw ≤ trimStop raw ∧ trimStop raw ≤ raw.length) ∧
    slice? raw (trimStart raw) (trimStop raw) = some (trimBytes raw) ∧
    (forall held : Bytes, Trims raw held <-> held = trimBytes raw) ∧
    (forall before after : Bytes, (forall byte, byte ∈ before -> isBlankByte byte = true) ->
      (forall byte, byte ∈ after -> isBlankByte byte = true) ->
        trimBytes (before ++ (raw ++ after)) = trimBytes raw) ∧
    trimBytes (trimBytes raw) = trimBytes raw := by
  have sliced := (trims_trimBytes raw).slice?_eq
  have bounds := (slice?_eq_some_iff.mp sliced).1
  refine ⟨bounds, sliced, fun _ => trims_iff, ?_, trimBytes_trimBytes raw⟩
  intro before after blankBefore blankAfter
  exact trimBytes_around blankBefore blankAfter raw

namespace Sample

/-- A vertical tab, which is not blank among bytes, with blanks around it. -/
def spaced : Bytes :=
  [0x09, 0x0B, 0x20, 0x77, 0x0D]

end Sample

theorem trimming_safe_and_exact_spaced :
    slice? Sample.spaced 1 4 = some [0x0B, 0x20, 0x77] ∧
      Trims Sample.spaced [0x0B, 0x20, 0x77] ∧
      (forall byte, byte ∈ [0x0C] -> isBlankByte byte = true) ∧
      (forall byte, byte ∈ [0x20, 0x0A] -> isBlankByte byte = true) ∧
      trimBytes ([0x0C] ++ (Sample.spaced ++ [0x20, 0x0A])) = [0x0B, 0x20, 0x77] := by
  have law := trimming_safe_and_exact Sample.spaced
  have held : trimBytes Sample.spaced = [0x0B, 0x20, 0x77] := rfl
  have before : forall byte, byte ∈ [0x0C] -> isBlankByte byte = true :=
    List.forall_mem_singleton.mpr rfl
  have after : forall byte, byte ∈ [0x20, 0x0A] -> isBlankByte byte = true :=
    List.forall_mem_cons.mpr ⟨rfl, List.forall_mem_singleton.mpr rfl⟩
  rw [held] at law
  exact ⟨law.2.1, (law.2.2.1 _).mpr rfl, before, after, law.2.2.2.1 _ _ before after⟩

/-! ## Characters -/

theorem dropWhile_clean {run : List Char} (clean : forall c, c ∈ run -> isBlank c = false) :
    run.dropWhile isBlank = run := by
  cases run with
  | nil => rfl
  | cons c rest =>
      rw [List.dropWhile_cons, clean c List.mem_cons_self, if_neg Bool.false_ne_true]

/-- Blanks in front of a run are trimmed away. -/
theorem trim_run {gap run : List Char} (blanks : forall c, c ∈ gap -> isBlank c = true)
    (clean : forall c, c ∈ run -> isBlank c = false) : trim (gap ++ run) = run := by
  have reversed : run.reverse.dropWhile isBlank = run.reverse :=
    dropWhile_clean fun c member => clean c (List.mem_reverse.mp member)
  rw [trim, List.dropWhile_append_of_pos blanks, dropWhile_clean clean, reversed,
    List.reverse_reverse]

end Blank
end ProcInspection
