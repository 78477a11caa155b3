import ProcInspection.Text.Utf8

namespace ProcInspection
namespace Utf8

/-!
Characters inside byte strings.

The reader takes a byte string apart into pieces.  Here the characters are
given a grammar of their own, with one form for each number of bytes, and the
two are compared.  Nothing is lost by reading: the pieces hold the bytes they
were read from.  Every written text is read as its own characters.  A lossy
text without the replacement character therefore comes from one byte string
only, so showing broken bytes cannot make them look like anything else.
-/

theorem toNat_ofNat {code : Nat} (valid : code.isValidChar) : (Char.ofNat code).toNat = code := by
  rw [Char.ofNat, dif_pos valid]
  rfl

/-- A byte is the code number of the character that it is read as. -/
theorem toNat_charOfByte (byte : UInt8) : (Char.ofNat byte.toNat).toNat = byte.toNat :=
  toNat_ofNat (Or.inl (Nat.lt_trans byte.toNat_lt (by decide)))

theorem ofNat_eq (byte : UInt8) {code : Nat} (same : code = byte.toNat) :
    UInt8.ofNat code = byte := by
  rw [same, UInt8.ofNat_toNat]

theorem isContinuation_iff (byte : UInt8) :
    isContinuation byte = true <-> byte.toNat = 0x80 + byte.toNat % 64 := by
  have bound := byte.toNat_lt
  simp only [isContinuation, Bool.and_eq_true, decide_eq_true_eq]
  omega

/-! ## The forms of characters -/

/-- Two bytes that a longer character may begin with, the bits gathered from
them and the number of bytes after the first.  The bounds exclude what a
shorter form can say, the surrogates, and what lies past the last code point. -/
inductive Opening (first second : UInt8) (bits : Nat) : Nat -> Prop where
  | two (low : 0x80 ≤ bits) (high : bits < 0x800)
      (lead : first.toNat = 0xC0 + bits / 64) (next : second.toNat = 0x80 + bits % 64) :
      Opening first second bits 1
  | three (low : 0x20 ≤ bits) (high : bits < 0x400) (whole : bits < 0x360 ∨ 0x380 ≤ bits)
      (lead : first.toNat = 0xE0 + bits / 64) (next : second.toNat = 0x80 + bits % 64) :
      Opening first second bits 2
  | four (low : 0x10 ≤ bits) (high : bits < 0x110)
      (lead : first.toNat = 0xF0 + bits / 64) (next : second.toNat = 0x80 + bits % 64) :
      Opening first second bits 3

theorem Opening.following_eq {first second : UInt8} {bits following : Nat}
    (opening : Opening first second bits following) :
    following = 1 ∨ following = 2 ∨ following = 3 := by
  cases opening with
  | two => exact Or.inl rfl
  | three => exact Or.inr (Or.inl rfl)
  | four => exact Or.inr (Or.inr rfl)

theorem Opening.not_ascii {first second : UInt8} {bits following : Nat}
    (opening : Opening first second bits following) : ¬ first.toNat < 0x80 := by
  cases opening <;> omega

/-- The form of a character in bytes. -/
inductive Form : Char -> Bytes -> Prop where
  | one {first : UInt8} (low : first.toNat < 0x80) : Form (Char.ofNat first.toNat) [first]
  | two {first second : UInt8} {bits : Nat} (opening : Opening first second bits 1) :
      Form (Char.ofNat bits) [first, second]
  | three {first second third : UInt8} {bits : Nat} (opening : Opening first second bits 2)
      (last : isContinuation third = true) :
      Form (Char.ofNat (shiftIn bits third)) [first, second, third]
  | four {first second third fourth : UInt8} {bits : Nat} (opening : Opening first second bits 3)
      (next : isContinuation third = true) (last : isContinuation fourth = true) :
      Form (Char.ofNat (shiftIn (shiftIn bits third) fourth)) [first, second, third, fourth]

/-- A form is what the writer writes. -/
theorem encodeChar_of_form {c : Char} {bytes : Bytes} (form : Form c bytes) :
    String.utf8EncodeChar c = bytes := by
  unfold String.utf8EncodeChar
  cases form with
  | @one first low =>
      have code : (Char.ofNat first.toNat).val.toNat = first.toNat := toNat_charOfByte first
      simp only [code]
      rw [if_pos (by omega), UInt8.ofNat_toNat]
  | @two first second bits opening =>
      cases opening with
      | two low high lead next =>
          have code : (Char.ofNat bits).val.toNat = bits := toNat_ofNat (Or.inl (by omega))
          simp only [code]
          rw [if_neg (by omega), if_pos (by omega), ofNat_eq first (by omega),
            ofNat_eq second (by omega)]
  | @three first second third bits opening last =>
      cases opening with
      | three low high whole lead next =>
          have last := (isContinuation_iff third).mp last
          have value : shiftIn bits third = bits * 64 + third.toNat % 64 := rfl
          have code : (Char.ofNat (shiftIn bits third)).val.toNat = shiftIn bits third :=
            toNat_ofNat (by unfold Nat.isValidChar; omega)
          simp only [code]
          rw [if_neg (by omega), if_neg (by omega), if_pos (by omega),
            ofNat_eq first (by omega), ofNat_eq second (by omega),
            ofNat_eq third (by omega)]
  | @four first second third fourth bits opening next last =>
      cases opening with
      | four low high lead after =>
          have next := (isContinuation_iff third).mp next
          have last := (isContinuation_iff fourth).mp last
          have value : shiftIn (shiftIn bits third) fourth =
              (bits * 64 + third.toNat % 64) * 64 + fourth.toNat % 64 := rfl
          have code : (Char.ofNat (shiftIn (shiftIn bits third) fourth)).val.toNat =
              shiftIn (shiftIn bits third) fourth :=
            toNat_ofNat (by unfold Nat.isValidChar; omega)
          simp only [code]
          rw [if_neg (by omega), if_neg (by omega), if_neg (by omega),
            ofNat_eq first (by omega), ofNat_eq second (by omega),
            ofNat_eq third (by omega), ofNat_eq fourth (by omega)]

/-- Every character is written in one of the forms. -/
theorem form_encodeChar (c : Char) : Form c (String.utf8EncodeChar c) := by
  have valid := c.valid
  simp only [UInt32.isValidChar, Nat.isValidChar] at valid
  have restored : Char.ofNat c.val.toNat = c := Char.ofNat_toNat c
  have byte : forall code, code < 256 -> (UInt8.ofNat code).toNat = code :=
    fun code small => UInt8.toNat_ofNat_of_lt' small
  have tail : forall bits, (UInt8.ofNat (bits % 64 + 0x80)).toNat = 0x80 + bits % 64 := by
    intro bits
    rw [byte _ (by omega), Nat.add_comm]
  have continued : forall bits, isContinuation (UInt8.ofNat (bits % 64 + 0x80)) = true := by
    intro bits
    rw [isContinuation_iff, tail]
    omega
  have gathered : forall bits, shiftIn (bits / 64) (UInt8.ofNat (bits % 64 + 0x80)) = bits := by
    intro bits
    rw [shiftIn, tail]
    omega
  unfold String.utf8EncodeChar
  simp only
  split
  · have low : (UInt8.ofNat c.val.toNat).toNat < 0x80 := by
      rw [byte _ (by omega)]
      omega
    have form := Form.one low
    rwa [byte _ (by omega), restored] at form
  · split
    · have opening : Opening (UInt8.ofNat (c.val.toNat / 64 % 32 + 0xC0))
          (UInt8.ofNat (c.val.toNat % 64 + 0x80)) c.val.toNat 1 :=
        .two (by omega) (by omega) (by rw [byte _ (by omega)]; omega) (tail _)
      have form := Form.two opening
      rwa [restored] at form
    · split
      · have opening : Opening (UInt8.ofNat (c.val.toNat / 4096 % 16 + 0xE0))
            (UInt8.ofNat (c.val.toNat / 64 % 64 + 0x80)) (c.val.toNat / 64) 2 :=
          .three (by omega) (by omega) (by omega) (by rw [byte _ (by omega)]; omega) (tail _)
        have form := Form.three opening (continued c.val.toNat)
        rwa [gathered, restored] at form
      · have opening : Opening (UInt8.ofNat (c.val.toNat / 262144 % 8 + 0xF0))
            (UInt8.ofNat (c.val.toNat / 4096 % 64 + 0x80)) (c.val.toNat / 4096) 3 :=
          .four (by omega) (by omega) (by rw [byte _ (by omega)]; omega) (tail _)
        have form := Form.four opening (continued (c.val.toNat / 64)) (continued c.val.toNat)
        have first : c.val.toNat / 4096 = c.val.toNat / 64 / 64 := by omega
        rw [first, gathered, gathered, restored, ← first] at form
        exact form

/-! ## Reading the forms -/

/-- The reader admits two bytes only if they open a character. -/
theorem opening_of_admits {first second : UInt8} {lead : Lead}
    (announced : Lead.ofByte? first = some lead) (admitted : lead.admits second = true) :
    Opening first second (shiftIn lead.payload second) lead.following := by
  unfold Lead.ofByte? at announced
  simp only at announced
  repeat' split at announced
  all_goals cases announced
  all_goals
    simp only [Lead.admits, Bool.and_eq_true, decide_eq_true_eq] at admitted
    simp only [shiftIn]
  · exact .two (by omega) (by omega) (by omega) (by omega)
  · exact .three (by omega) (by omega) (by omega) (by omega) (by omega)
  · exact .three (by omega) (by omega) (by omega) (by omega) (by omega)
  · exact .three (by omega) (by omega) (by omega) (by omega) (by omega)
  · exact .four (by omega) (by omega) (by omega) (by omega)
  · exact .four (by omega) (by omega) (by omega) (by omega)
  · exact .four (by omega) (by omega) (by omega) (by omega)

/-- And it admits all of these, with the same bits. -/
theorem admits_of_opening {first second : UInt8} {bits following : Nat}
    (opening : Opening first second bits following) :
    Exists fun lead : Lead => Lead.ofByte? first = some lead ∧ lead.admits second = true ∧
      lead.following = following ∧ shiftIn lead.payload second = bits := by
  unfold Lead.ofByte?
  cases opening <;> simp only <;> repeat' split
  all_goals first
    | omega
    | refine ⟨_, rfl, ?_, ?_, ?_⟩
  all_goals
    try simp only [Lead.admits, Bool.and_eq_true, decide_eq_true_eq, shiftIn]
  all_goals omega

theorem pieces_append_of_form {c : Char} {bytes : Bytes} (form : Form c bytes) (rest : Bytes) :
    pieces (bytes ++ rest) = .scalar c :: pieces rest := by
  cases form with
  | one low =>
      rw [List.singleton_append, pieces, if_pos low]
  | two opening =>
      rcases admits_of_opening opening with ⟨lead, announced, admitted, following, bits⟩
      simp only [List.cons_append, List.nil_append]
      rw [pieces, if_neg opening.not_ascii]
      simp only [announced, admitted, if_true, following, bits]
  | three opening last =>
      rcases admits_of_opening opening with ⟨lead, announced, admitted, following, bits⟩
      simp only [List.cons_append, List.nil_append]
      rw [pieces, if_neg opening.not_ascii]
      simp only [announced, admitted, if_true, following, bits, last]
      rfl
  | four opening next last =>
      rcases admits_of_opening opening with ⟨lead, announced, admitted, following, bits⟩
      simp only [List.cons_append, List.nil_append]
      rw [pieces, if_neg opening.not_ascii]
      simp only [announced, admitted, if_true, following, bits, next, last]
      rfl

/-- A written text is read as its own characters. -/
theorem pieces_encodeChars (text : List Char) : pieces (encodeChars text) = text.map .scalar := by
  induction text with
  | nil => rfl
  | cons c rest ih =>
      have head := pieces_append_of_form (form_encodeChar c) (encodeChars rest)
      rw [ih] at head
      exact head

/-! ## What the reader finds -/

/-- Bytes that the reader is stuck behind.  They are as much of a character as
it could take, and the next byte, if there is one, takes it no further. -/
inductive Stuck : Bytes -> Bytes -> Prop where
  | single {first : UInt8} {rest : Bytes} (high : ¬ first.toNat < 0x80)
      (stuck : forall lead next, Lead.ofByte? first = some lead -> rest.head? = some next ->
        lead.admits next ≠ true) :
      Stuck [first] rest
  | pair {first second : UInt8} {bits following : Nat} {rest : Bytes}
      (opening : Opening first second bits following) (more : following ≠ 1)
      (stuck : forall next, rest.head? = some next -> isContinuation next ≠ true) :
      Stuck [first, second] rest
  | triple {first second third : UInt8} {bits following : Nat} {rest : Bytes}
      (opening : Opening first second bits following) (more : following ≠ 1)
      (longer : following ≠ 2) (continues : isContinuation third = true)
      (stuck : forall next, rest.head? = some next -> isContinuation next ≠ true) :
      Stuck [first, second, third] rest

/-- The reader takes one character or one broken run at a time. -/
inductive Finds : Bytes -> List Piece -> Prop where
  | none : Finds [] []
  | scalar {c : Char} {written rest : Bytes} {found : List Piece} (form : Form c written)
      (more : Finds rest found) : Finds (written ++ rest) (.scalar c :: found)
  | broken {run rest : Bytes} {found : List Piece} (stuck : Stuck run rest)
      (more : Finds rest found) : Finds (run ++ rest) (.broken run :: found)

/-- This is all that a step of the reader can do.  What is said of its pieces
follows by induction on the steps, without its nested tests. -/
theorem finds_pieces (bytes : Bytes) : Finds bytes (pieces bytes) := by
  have ended : forall next : UInt8, ([] : Bytes).head? ≠ some next :=
    fun next => (Option.some_ne_none next).symm
  fun_induction pieces bytes with
  | case1 => exact .none
  | case2 first rest low ih => exact .scalar (.one low) ih
  | case3 first rest high unannounced ih =>
      refine .broken (.single high fun lead _ announced _ => ?_) ih
      rw [unannounced] at announced
      cases announced
  | case4 first high lead announced =>
      exact .broken (.single high fun _ next _ stands => absurd stands (ended next)) .none
  | case5 first high lead announced second rest admitted bits following ih =>
      have opening := opening_of_admits announced admitted
      rw [following] at opening
      exact .scalar (.two opening) ih
  | case6 first high lead announced second admitted more =>
      have opening := opening_of_admits announced admitted
      exact .broken (.pair opening more fun next stands => absurd stands (ended next)) .none
  | case7 first high lead announced second admitted two more third rest next three following ih =>
      have opening := opening_of_admits announced admitted
      rw [following] at opening
      exact .scalar (.three opening next) ih
  | case8 first high lead announced second admitted more third continues longer =>
      have opening := opening_of_admits announced admitted
      exact .broken (.triple opening more longer continues
        fun next stands => absurd stands (ended next)) .none
  | case9 first high lead announced second admitted two more third next three longer fourth rest
      last ih =>
      have opening := opening_of_admits announced admitted
      have following : lead.following = 3 :=
        (opening.following_eq.resolve_left more).resolve_left longer
      rw [following] at opening
      exact .scalar (.four opening next last) ih
  | case10 first high lead announced second admitted more third continues longer fourth rest stuck
      ih =>
      have opening := opening_of_admits announced admitted
      refine .broken (.triple opening more longer continues fun _ stands => ?_) ih
      rw [← Option.some.inj stands]
      exact stuck
  | case11 first high lead announced second admitted more third rest stuck ih =>
      have opening := opening_of_admits announced admitted
      refine .broken (.pair opening more fun _ stands => ?_) ih
      rw [← Option.some.inj stands]
      exact stuck
  | case12 first high lead announced second rest refused ih =>
      refine .broken (.single high fun _ _ also stands => ?_) ih
      rw [announced] at also
      rw [← Option.some.inj also, ← Option.some.inj stands]
      exact refused

/-- The bytes that a piece was read from. -/
def Piece.bytes : Piece -> Bytes
  | .scalar value => String.utf8EncodeChar value
  | .broken bytes => bytes

/-- Reading loses nothing.  A piece that is no character keeps its bytes as
they are; one that is a character has a form, and the writer writes it. -/
theorem Finds.flatMap_bytes {bytes : Bytes} {found : List Piece} (finds : Finds bytes found) :
    found.flatMap Piece.bytes = bytes := by
  induction finds with
  | none => rfl
  | scalar form more ih => rw [List.flatMap_cons, ih, Piece.bytes, encodeChar_of_form form]
  | broken stuck more ih => rw [List.flatMap_cons, ih, Piece.bytes]

theorem pieces_bytes (bytes : Bytes) : (pieces bytes).flatMap Piece.bytes = bytes :=
  (finds_pieces bytes).flatMap_bytes

/-! ## Decoded text -/

theorem toList_decodeLossy (bytes : Bytes) :
    (decodeLossy bytes).toList = (pieces bytes).map Piece.shown :=
  String.toList_ofList

theorem eq_map_scalar {found : List Piece}
    (scalars : forall piece, piece ∈ found -> piece.isScalar = true) :
    found = (found.map Piece.shown).map .scalar := by
  induction found with
  | nil => rfl
  | cons piece rest ih =>
      have head : piece = .scalar piece.shown := by
        cases piece with
        | scalar value => rfl
        | broken bytes => cases scalars _ List.mem_cons_self
      have tail := ih fun other member => scalars other (List.mem_cons_of_mem piece member)
      rw [List.map_cons, List.map_cons, ← tail, ← head]

/-- Bytes without a broken run are those that the characters shown are written
with. -/
theorem eq_encodeChars_of_scalars {bytes : Bytes}
    (scalars : forall piece, piece ∈ pieces bytes -> piece.isScalar = true) :
    bytes = encodeChars ((pieces bytes).map Piece.shown) := by
  have whole := pieces_bytes bytes
  rw [eq_map_scalar scalars, List.flatMap_map] at whole
  exact whole.symm

theorem map_shown_encodeChars (text : List Char) :
    (pieces (encodeChars text)).map Piece.shown = text := by
  rw [pieces_encodeChars, List.map_map]
  exact List.map_id text

theorem encodeChars_injective {left right : List Char}
    (same : encodeChars left = encodeChars right) : left = right := by
  rw [← map_shown_encodeChars left, same, map_shown_encodeChars]

/-- Strict decoding takes exactly what was written, and gives it back. -/
theorem decode?_eq_some_iff {bytes : Bytes} {text : String} :
    decode? bytes = some text <-> bytes = encode text := by
  unfold decode?
  constructor
  · intro decoded
    by_cases scalars : (pieces bytes).all Piece.isScalar = true
    · rw [if_pos scalars] at decoded
      rw [← Option.some.inj decoded, encode, toList_decodeLossy]
      exact eq_encodeChars_of_scalars (List.all_eq_true.mp scalars)
    · rw [if_neg scalars] at decoded
      cases decoded
  · intro written
    have scalars : (pieces bytes).all Piece.isScalar = true := by
      rw [written, encode, pieces_encodeChars, List.all_map]
      exact List.all_eq_true.mpr fun _ _ => rfl
    rw [if_pos scalars, Option.some.injEq, String.ext_iff, toList_decodeLossy, written]
    exact map_shown_encodeChars text.toList

theorem decodeLossy_encode (text : String) : decodeLossy (encode text) = text := by
  rw [String.ext_iff, toList_decodeLossy, encode, map_shown_encodeChars]

/-- A lossy text without the replacement character is the text that was
written, and no other bytes are shown that way. -/
theorem toList_decodeLossy_eq_iff {text : List Char} (clean : replacement ∉ text) (bytes : Bytes) :
    (decodeLossy bytes).toList = text <-> bytes = encodeChars text := by
  rw [toList_decodeLossy]
  constructor
  · intro shown
    rw [← shown]
    apply eq_encodeChars_of_scalars
    intro piece member
    cases piece with
    | scalar value => rfl
    | broken run =>
        rw [← shown] at clean
        exact (clean (List.mem_map_of_mem member)).elim
  · intro written
    rw [written]
    exact map_shown_encodeChars text

theorem encodeChars_append (left right : List Char) :
    encodeChars (left ++ right) = encodeChars left ++ encodeChars right :=
  List.flatMap_append

/-! ## ASCII -/

theorem encodeChar_ascii {c : Char} (ascii : c.toNat < 0x80) :
    String.utf8EncodeChar c = [UInt8.ofNat c.toNat] := by
  have code : (UInt8.ofNat c.toNat).toNat = c.toNat :=
    UInt8.toNat_ofNat_of_lt' (Nat.lt_trans ascii (by decide))
  have low : (UInt8.ofNat c.toNat).toNat < 0x80 := by
    rw [code]
    exact ascii
  have form := Form.one low
  rw [code, Char.ofNat_toNat] at form
  exact encodeChar_of_form form

/-- In ASCII the bytes are the code numbers. -/
theorem map_toNat_encodeChars {text : List Char} (ascii : forall c, c ∈ text -> c.toNat < 0x80) :
    (encodeChars text).map UInt8.toNat = text.map Char.toNat := by
  induction text with
  | nil => rfl
  | cons c rest ih =>
      have head := ascii c List.mem_cons_self
      have tail := ih fun other member => ascii other (List.mem_cons_of_mem c member)
      unfold encodeChars at tail ⊢
      rw [List.flatMap_cons, encodeChar_ascii head, List.map_append, tail, List.map_cons,
        List.map_cons, List.map_nil, UInt8.toNat_ofNat_of_lt' (Nat.lt_trans head (by decide)),
        List.singleton_append]

/-- Bytes are determined by their code numbers. -/
theorem map_toNat_injective {left right : Bytes}
    (same : left.map UInt8.toNat = right.map UInt8.toNat) : left = right :=
  (List.map_inj_right fun _ _ => UInt8.toNat.inj).mp same

/-! ## Counting ASCII characters -/

theorem high_of_continuation {byte : UInt8} (continues : isContinuation byte = true) :
    0x80 ≤ byte.toNat := by
  rw [(isContinuation_iff byte).mp continues]
  exact Nat.le_add_right _ _

theorem Opening.high {first second : UInt8} {bits following : Nat}
    (opening : Opening first second bits following) : 0x80 ≤ first.toNat ∧ 0x80 ≤ second.toNat := by
  cases opening <;> omega

/-- Outside ASCII a character is written without ASCII bytes. -/
theorem Form.high {c : Char} {bytes : Bytes} (form : Form c bytes) (high : 0x80 ≤ c.toNat) :
    forall byte, byte ∈ bytes -> 0x80 ≤ byte.toNat := by
  cases form with
  | @one first low =>
      rw [toNat_charOfByte] at high
      exact absurd low (Nat.not_lt.mpr high)
  | two opening =>
      simp only [List.forall_mem_cons]
      exact ⟨opening.high.1, opening.high.2, List.forall_mem_nil _⟩
  | three opening last =>
      simp only [List.forall_mem_cons]
      exact ⟨opening.high.1, opening.high.2, high_of_continuation last, List.forall_mem_nil _⟩
  | four opening next last =>
      simp only [List.forall_mem_cons]
      exact ⟨opening.high.1, opening.high.2, high_of_continuation next, high_of_continuation last,
        List.forall_mem_nil _⟩

theorem Stuck.high {run rest : Bytes} (stuck : Stuck run rest) :
    forall byte, byte ∈ run -> 0x80 ≤ byte.toNat := by
  cases stuck with
  | single high => exact List.forall_mem_singleton.mpr (Nat.not_lt.mp high)
  | pair opening =>
      simp only [List.forall_mem_cons]
      exact ⟨opening.high.1, opening.high.2, List.forall_mem_nil _⟩
  | triple opening more longer continues =>
      simp only [List.forall_mem_cons]
      exact ⟨opening.high.1, opening.high.2, high_of_continuation continues, List.forall_mem_nil _⟩

/-- What is broken holds no ASCII byte, so an ASCII byte is always a character. -/
def Piece.SparesAscii : Piece -> Prop
  | .scalar _ => True
  | .broken run => forall byte, byte ∈ run -> 0x80 ≤ byte.toNat

theorem Finds.sparesAscii {bytes : Bytes} {found : List Piece} (finds : Finds bytes found) :
    forall piece, piece ∈ found -> piece.SparesAscii := by
  induction finds with
  | none => exact List.forall_mem_nil _
  | scalar form more ih => exact List.forall_mem_cons.mpr ⟨trivial, ih⟩
  | broken stuck more ih => exact List.forall_mem_cons.mpr ⟨stuck.high, ih⟩

theorem count_of_high {c : Char} (ascii : c.toNat < 0x80) {bytes : Bytes}
    (high : forall byte, byte ∈ bytes -> 0x80 ≤ byte.toNat) :
    bytes.count (UInt8.ofNat c.toNat) = 0 := by
  rw [List.count_eq_zero]
  intro member
  have bound := high _ member
  rw [UInt8.toNat_ofNat_of_lt' (Nat.lt_trans ascii (by decide))] at bound
  exact absurd ascii (Nat.not_lt.mpr bound)

theorem count_piece {c : Char} (ascii : c.toNat < 0x80) {piece : Piece}
    (spared : piece.SparesAscii) :
    piece.bytes.count (UInt8.ofNat c.toNat) = [piece.shown].count c := by
  cases piece with
  | broken run =>
      have other : replacement ≠ c := by
        intro same
        rw [← same] at ascii
        exact absurd ascii (by decide)
      rw [Piece.bytes, Piece.shown, count_of_high ascii spared,
        List.count_eq_zero.mpr fun member => other (List.mem_singleton.mp member).symm]
  | scalar value =>
      rw [Piece.bytes, Piece.shown]
      by_cases low : value.toNat < 0x80
      · rw [encodeChar_ascii low, List.count_singleton, List.count_singleton]
        have bytes : UInt8.ofNat value.toNat = UInt8.ofNat c.toNat <-> value = c := by
          constructor
          · intro same
            have codes := congrArg UInt8.toNat same
            rw [UInt8.toNat_ofNat_of_lt' (Nat.lt_trans ascii (by decide)),
              UInt8.toNat_ofNat_of_lt' (Nat.lt_trans low (by decide))] at codes
            exact Char.toNat_inj.mp codes
          · intro same
            rw [same]
        simp only [beq_iff_eq, bytes]
      · have other : value ≠ c := fun same => low (same ▸ ascii)
        rw [count_of_high ascii ((form_encodeChar value).high (Nat.not_lt.mp low)),
          List.count_eq_zero.mpr fun member => other (List.mem_singleton.mp member).symm]

/-- Decoding keeps every ASCII character and makes none. -/
theorem count_decodeLossy {c : Char} (ascii : c.toNat < 0x80) (bytes : Bytes) :
    (decodeLossy bytes).toList.count c = bytes.count (UInt8.ofNat c.toNat) := by
  have found : forall read : List Piece, (forall piece, piece ∈ read -> piece.SparesAscii) ->
      (read.flatMap Piece.bytes).count (UInt8.ofNat c.toNat) = (read.map Piece.shown).count c := by
    intro read spared
    induction read with
    | nil => rfl
    | cons piece rest ih =>
        have parts := List.forall_mem_cons.mp spared
        rw [List.flatMap_cons, List.count_append, count_piece ascii parts.1, ih parts.2,
          List.map_cons, ← List.count_append, List.singleton_append]
  rw [toList_decodeLossy, ← found (pieces bytes) (finds_pieces bytes).sparesAscii, pieces_bytes]

/-- The same of the byte that an ASCII character is written with. -/
theorem count_byte_decodeLossy {byte : UInt8} (ascii : byte.toNat < 0x80) (bytes : Bytes) :
    (decodeLossy bytes).toList.count (Char.ofNat byte.toNat) = bytes.count byte := by
  have code := toNat_charOfByte byte
  rw [count_decodeLossy (code.symm ▸ ascii), code, UInt8.ofNat_toNat]

end Utf8
end ProcInspection
