import MailSync.Json.Value
import MailSync.Text.Hex

/-!
# JSON forms of values

How values of a type are written as JSON and read from it. Octets are written in hexadecimal;
a value that may be absent is null or left out.
-/
namespace MailSync.Json

class Encode (α : Type) where
  encode : α → Json

class Decode (α : Type) where
  decode? : Json → Option α

export Encode (encode)
export Decode (decode?)

instance : Encode Json := ⟨id⟩
instance : Encode Bool := ⟨bool⟩
instance : Encode String := ⟨string⟩
instance : Encode Nat := ⟨fun n => integer n⟩
instance : Encode UInt8 := ⟨fun n => integer n.toNat⟩
instance : Encode UInt16 := ⟨fun n => integer n.toNat⟩
instance : Encode UInt32 := ⟨fun n => integer n.toNat⟩
instance : Encode UInt64 := ⟨fun n => integer n.toNat⟩
instance : Encode Float := ⟨float⟩
instance : Encode Unit := ⟨fun _ => null⟩
instance {α : Type} [Encode α] : Encode (Option α) := ⟨fun a => (a.map encode).getD null⟩
instance {α : Type} [Encode α] : Encode (List α) := ⟨fun as => array (as.map encode)⟩
instance (priority := high) : Encode Bytes := ⟨fun bs => string (Text.hex bs)⟩

def natural? : Json → Option Nat
  | integer n => if 0 ≤ n then some n.toNat else none
  | _ => none

instance : Decode Json := ⟨some⟩
instance : Decode Bool := ⟨fun j => match j with | bool b => some b | _ => none⟩
instance : Decode String := ⟨fun j => match j with | string s => some s | _ => none⟩
instance : Decode Nat := ⟨natural?⟩
instance : Decode UInt8 := ⟨fun j => (natural? j).map UInt8.ofNat⟩
instance : Decode UInt16 := ⟨fun j => (natural? j).map UInt16.ofNat⟩
instance : Decode UInt32 := ⟨fun j => (natural? j).map UInt32.ofNat⟩
instance : Decode UInt64 := ⟨fun j => (natural? j).map UInt64.ofNat⟩
instance : Decode Float :=
  ⟨fun j =>
    match j with
    | float x => some x
    | integer n => some (Float.ofInt n)
    | _ => none⟩
instance {α : Type} [Decode α] : Decode (List α) :=
  ⟨fun j => match j with | array items => items.mapM decode? | _ => none⟩
instance (priority := high) : Decode Bytes :=
  ⟨fun j => match j with | string s => Text.unhex? s | _ => none⟩

section Reading
variable {α : Type} [Decode α]

/-- The value of a field that must be there. -/
def get? (j : Json) (name : String) : Option α := (j.field? name).bind decode?

/-- The value of a field that may be absent. None if it is there and cannot be read. -/
def optional? (j : Json) (name : String) : Option (Option α) :=
  match j.field? name with
  | none => some none
  | some v => (decode? v).map some

/-- The value of a field that has a default. -/
def getD? (j : Json) (name : String) (default : α) : Option α :=
  (j.optional? name).map (·.getD default)

end Reading

section Writing
variable {α : Type} [Encode α]

def field (name : String) (a : α) : String × Json := (name, encode a)

/-- A field that is left out where there is no value. -/
def fieldIfSome (name : String) (a : Option α) : List (String × Json) := (a.map (field name)).toList

/-- A field that is left out where the list is empty. -/
def fieldIfAny (name : String) (as : List α) : List (String × Json) :=
  if as.isEmpty then [] else [field name as]

end Writing

end MailSync.Json
