import ProcInspection.Json
import ProcInspection.Text.Choice

namespace ProcInspection
namespace Json

/-!
Readers of documents.

A reader recovers what a writer made into a document when it gives each value
back.  Numbers, texts and choices are read here, lists of what a reader reads,
and fields, which are looked up by name and may be missing.
-/

variable {α : Type}

def truth? : Json -> Option Bool
  | .boolean value => some value
  | _ => none

def number? : Json -> Option Nat
  | .number value => some value
  | _ => none

/-- A number below a bound, as a word of that size. -/
def word? (limit : Nat) (ofNat : Nat -> α) (document : Json) : Option α :=
  document.number?.bind fun value => if value < limit then some (ofNat value) else none

def word16? : Json -> Option UInt16 :=
  word? UInt16.size UInt16.ofNat

def word32? : Json -> Option UInt32 :=
  word? UInt32.size UInt32.ofNat

def word64? : Json -> Option UInt64 :=
  word? UInt64.size UInt64.ofNat

def text? : Json -> Option String
  | .text value => some value
  | _ => none

def choice? (nameOf : α -> String) (choices : List α) (document : Json) : Option α :=
  document.text?.bind (Choice.named? nameOf choices false)

def list? (item? : Json -> Option α) : Json -> Option (List α)
  | .list items => items.mapM item?
  | _ => none

/-- What an object holds under a name. -/
def find? (name : String) : Json -> Option Json
  | .object fields => fields.lookup name
  | _ => none

def field? (name : String) (read? : Json -> Option α) (document : Json) : Option α :=
  (document.find? name).bind read?

/-- A field that may be missing.  One that is there has to be readable. -/
def optional? (name : String) (read? : Json -> Option α) (document : Json) :
    Option (Option α) :=
  match document.find? name with
  | some value => (read? value).map some
  | none => some none

/-- Each value is read back from what is written of it. -/
def Recovers (write : α -> Json) (read? : Json -> Option α) : Prop :=
  forall value : α, read? (write value) = some value

/-- What is read back from a document is written in one way. -/
theorem Recovers.injective {write : α -> Json} {read? : Json -> Option α}
    (recovers : Recovers write read?) : Function.Injective write := by
  intro value other same
  have read := recovers value
  rw [same, recovers other] at read
  exact (Option.some.inj read).symm

@[simp]
theorem truth?_boolean (value : Bool) : truth? (.boolean value) = some value :=
  rfl

@[simp]
theorem number?_number (value : Nat) : number? (.number value) = some value :=
  rfl

@[simp]
theorem text?_text (value : String) : text? (.text value) = some value :=
  rfl

@[simp]
theorem word16?_number (value : UInt16) : word16? (.number value.toNat) = some value := by
  simp [word16?, word?, value.toNat_lt]

@[simp]
theorem word32?_number (value : UInt32) : word32? (.number value.toNat) = some value := by
  simp [word32?, word?, value.toNat_lt]

@[simp]
theorem word64?_number (value : UInt64) : word64? (.number value.toNat) = some value := by
  simp [word64?, word?, value.toNat_lt]

theorem word64?_recovers : Recovers (fun value : UInt64 => .number value.toNat) word64? :=
  word64?_number

@[simp]
theorem find?_object (name : String) (fields : List (String × Json)) :
    find? name (.object fields) = fields.lookup name :=
  rfl

/-- Choices of different names are recovered from their names. -/
theorem choice?_recovers {nameOf : α -> String} {choices : List α}
    (distinct : (choices.map nameOf).Nodup) (every : forall choice, choice ∈ choices) :
    Recovers (fun choice => .text (nameOf choice)) (choice? nameOf choices) := by
  intro choice
  have member := every choice
  simp only [choice?, text?_text, Option.bind_some, Choice.named?]
  clear every
  induction choices with
  | nil => cases member
  | cons first rest ih =>
      rw [List.map_cons, List.nodup_cons] at distinct
      rcases List.mem_cons.mp member with rfl | later
      · exact List.find?_cons_of_pos (by simp)
      · have other : nameOf first ≠ nameOf choice := by
          intro same
          exact distinct.1 (same ▸ List.mem_map_of_mem later)
        rw [List.find?_cons_of_neg (by simp [other])]
        exact ih distinct.2 later

theorem Recovers.list {write : α -> Json} {read? : Json -> Option α}
    (recovers : Recovers write read?) :
    Recovers (fun values => .list (values.map write)) (list? read?) := by
  intro values
  induction values with
  | nil => rfl
  | cons value values ih =>
      simp only [list?] at ih ⊢
      rw [List.map_cons, List.mapM_cons, recovers value, ih]
      rfl

theorem lookup_optionalField (name other : String) (value : Option Json) :
    (optionalField name value).lookup other = if other = name then value else none := by
  cases value with
  | none => simp [optionalField]
  | some value =>
      by_cases same : other = name
      · simp [optionalField, same]
      · simp [optionalField, List.lookup_cons, same, beq_eq_false_iff_ne.mpr same]

/-- A field that is written only when it has a value is recovered with it. -/
theorem optional?_recovers {write : α -> Json} {read? : Json -> Option α}
    (recovers : Recovers write read?) {name : String} {document : Json} {value : Option α}
    (found : document.find? name = value.map write) : optional? name read? document = some value := by
  cases value with
  | none => simp [optional?, found]
  | some value => simp [optional?, found, recovers value]

end Json
end ProcInspection
