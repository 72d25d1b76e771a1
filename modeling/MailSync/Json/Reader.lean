import MailSync.Json.Number
import MailSync.Json.Quoted

/-!
# Reading JSON

A text is read for a shape, from left to right, and the first disappointment ends the reading:
a value of the wrong kind is noticed before a fault that comes later in the text. Objects of
any shape get their fields in the order of their names, the last of a name winning.
-/
namespace MailSync.Json

/-- How many arrays and objects may enclose a value of any shape. -/
def depthLimit : Nat := 127

def skipBlank : List Char → List Char :=
  List.dropWhile fun c => c = ' ' || c = '\n' || c = '\t' || c = '\r'

/-- The rest of a word. -/
def word : List Char → List Char → Except Fault (List Char)
  | [], cs => .ok cs
  | _ :: _, [] => .error .unfinished
  | w :: ws, c :: cs => if c = w then word ws cs else .error .grammar

/-- Whether a list of items goes on, behind blanks. -/
inductive Turn where
  | stop (rest : List Char)
  | item (rest : List Char)

/-- Looks for the next item, which needs a comma unless it is the first. -/
def turn (close : Char) (isFirst : Bool) (cs : List Char) : Except Fault Turn :=
  match skipBlank cs with
  | [] => .error .unfinished
  | c :: cs =>
    if c = close then .ok (.stop cs)
    else if isFirst then .ok (.item (c :: cs))
    else if c = ',' then
      match skipBlank cs with
      | [] => .error .unfinished
      | d :: cs => if d = close then .error .grammar else .ok (.item (d :: cs))
    else .error .grammar

/-- A field's name, which begins here, and the colon behind it. -/
def fieldName (kept : Bool) : List Char → Except Fault (String × List Char)
  | '"' :: cs => readString kept cs
  | _ => .error .grammar

def colon (cs : List Char) : Except Fault (List Char) :=
  match skipBlank cs with
  | [] => .error .unfinished
  | c :: cs => if c = ':' then .ok cs else .error .grammar

/-- Names, numbers and strings. Where they are read over, the value of a number does not matter,
and one that ends too soon is no JSON. -/
def scalar (kept : Bool) (c : Char) (cs : List Char) : Except Fault (Json × List Char) :=
  if c = 'n' then (fun cs => (null, cs)) <$> word ['u', 'l', 'l'] cs
  else if c = 't' then (fun cs => (bool true, cs)) <$> word ['r', 'u', 'e'] cs
  else if c = 'f' then (fun cs => (bool false, cs)) <$> word ['a', 'l', 's', 'e'] cs
  else if c = '"' then (fun (s, cs) => (string s, cs)) <$> readString kept cs
  else if c = '-' ∨ c.isDigit then
    if kept then readNumber (c :: cs)
    else
      match overNumber? (c :: cs) with
      | some cs => .ok (null, cs)
      | none => .error .grammar
  else .error .grammar

mutual

/-- A value of any shape inside so many more arrays and objects. The fuel bounds the number of
items. -/
def anyValue (kept : Bool) : Nat → Nat → List Char → Except Fault (Json × List Char)
  | 0, _, _ => .error .grammar
  | fuel + 1, depth, cs =>
    match skipBlank cs with
    | [] => .error .unfinished
    | c :: cs =>
      if c = '[' then
        if depth = 0 then .error .grammar else anyItems kept fuel (depth - 1) true [] cs
      else if c = '\x7b' then
        if depth = 0 then .error .grammar else anyFields kept fuel (depth - 1) true [] cs
      else scalar kept c cs

/-- The items of an array behind those already read, given backwards. -/
def anyItems (kept : Bool) : Nat → Nat → Bool → List Json → List Char →
    Except Fault (Json × List Char)
  | 0, _, _, _, _ => .error .grammar
  | fuel + 1, depth, isFirst, read, cs => do
    match ← turn ']' isFirst cs with
    | .stop cs => .ok (array read.reverse, cs)
    | .item cs =>
      let (j, cs) ← anyValue kept fuel depth cs
      anyItems kept fuel depth false (j :: read) cs

/-- The fields of an object beside those already read. -/
def anyFields (kept : Bool) : Nat → Nat → Bool → List (String × Json) → List Char →
    Except Fault (Json × List Char)
  | 0, _, _, _, _ => .error .grammar
  | fuel + 1, depth, isFirst, read, cs => do
    match ← turn '\x7d' isFirst cs with
    | .stop cs => .ok (object read, cs)
    | .item cs =>
      let (name, cs) ← fieldName kept cs
      let (j, cs) ← anyValue kept fuel depth (← colon cs)
      anyFields kept fuel depth false (insertField name j read) cs

end

/-- Fails for a value that begins here and is not of the expected kind. A scalar is read
before it is refused. -/
def refuse {α : Type} (c : Char) (cs : List Char) : Except Fault α :=
  if c = '[' ∨ c = '\x7b' then .error .mismatch
  else
    match scalar true c cs with
    | .ok _ => .error .mismatch
    | .error f => .error f

/-- The value of a number, if it is of the expected kind. -/
def numberFor (shape : Shape) (j : Json) : Except Fault Json :=
  match shape, j with
  | .natural limit, integer n => if 0 ≤ n ∧ n < limit then .ok j else .error .mismatch
  | .float, integer n => .ok (float (Float.ofInt n))
  | .float, float _ => .ok j
  | _, _ => .error .mismatch

def choose (names : List String) (s : String) : Except Fault Json :=
  if s ∈ names then .ok (string s) else .error .mismatch

/-- One of some names: a string, or an object of one field with a null. -/
def choice (names : List String) (c : Char) (cs : List Char) :
    Except Fault (Json × List Char) := do
  if c = '"' then
    let (s, cs) ← readString true cs
    .ok (← choose names s, cs)
  else if c = '\x7b' then
    match skipBlank cs with
    | [] => .error .unfinished
    | c :: cs =>
      if c = '"' then
        let (s, cs) ← readString true cs
        let j ← choose names s
        match skipBlank (← colon cs) with
        | [] => .error .unfinished
        | c :: cs =>
          if c = 'n' then
            match skipBlank (← word ['u', 'l', 'l'] cs) with
            | [] => .error .unfinished
            | c :: cs => if c = '\x7d' then .ok (j, cs) else .error .grammar
          else refuse c cs
      else .error .grammar
  else .error .grammar

abbrev Fields := List (String × Bool × Shape)

/-- Fails if a field is missing that must be there. -/
def requireNone (missing : Fields) : Except Fault Unit :=
  if missing.any (·.2.1) then .error .mismatch else .ok ()

def isIn (name : String) (read : List (String × Json)) : Bool := read.any (·.1 = name)

mutual

/-- A value of a shape. The fuel bounds the number of items. -/
def value : Nat → Shape → List Char → Except Fault (Json × List Char)
  | 0, _, _ => .error .grammar
  | fuel + 1, shape, cs =>
    match shape with
    | .any => anyValue true fuel depthLimit cs
    | .skipped => anyValue false fuel fuel cs
    | _ =>
      match skipBlank cs with
      | [] => .error .unfinished
      | c :: cs =>
        match shape with
        | .optional shape =>
          if c = 'n' then scalar true c cs else value fuel shape (c :: cs)
        | .string =>
          if c = '"' then scalar true c cs else refuse c cs
        | .bool =>
          if c = 't' ∨ c = 'f' then scalar true c cs else refuse c cs
        | .choice names => choice names c cs
        | .record fields =>
          if c = '\x7b' then recordFields fuel fields true [] cs
          else if c = '[' then recordItems fuel fields true [] cs
          else refuse c cs
        | shape =>
          if c = '-' ∨ c.isDigit then do
            let (j, cs) ← readNumber (c :: cs)
            .ok (← numberFor shape j, cs)
          else refuse c cs

/-- The fields of a record beside those already read. -/
def recordFields : Nat → Fields → Bool → List (String × Json) → List Char →
    Except Fault (Json × List Char)
  | 0, _, _, _, _ => .error .grammar
  | fuel + 1, fields, isFirst, read, cs => do
    match ← turn '\x7d' isFirst cs with
    | .stop cs =>
      requireNone (fields.filter fun f => !isIn f.1 read)
      .ok (object read, cs)
    | .item cs =>
      let (name, cs) ← fieldName true cs
      match fields.lookup name with
      | none =>
        let (_, cs) ← value fuel .skipped (← colon cs)
        recordFields fuel fields false read cs
      | some (_, shape) =>
        if isIn name read then .error .mismatch
        else
          let (j, cs) ← value fuel shape (← colon cs)
          recordFields fuel fields false (insertField name j read) cs

/-- The values of a record's fields in order, beside those already read. -/
def recordItems : Nat → Fields → Bool → List (String × Json) → List Char →
    Except Fault (Json × List Char)
  | 0, _, _, _, _ => .error .grammar
  | _ + 1, [], _, read, cs =>
    match skipBlank cs with
    | [] => .error .unfinished
    | c :: cs => if c = ']' then .ok (object read, cs) else .error .grammar
  | fuel + 1, (name, needed, shape) :: fields, isFirst, read, cs => do
    match ← turn ']' isFirst cs with
    | .stop cs =>
      requireNone ((name, needed, shape) :: fields)
      .ok (object read, cs)
    | .item cs =>
      let (j, cs) ← value fuel shape cs
      recordItems fuel fields false (insertField name j read) cs

end

/-- The end of a text, behind blanks. -/
def ending (cs : List Char) : Except Fault Unit :=
  if skipBlank cs = [] then .ok () else .error .grammar

/-- Reads a whole text for a shape. -/
def read (shape : Shape) (text : String) : Except Fault Json := do
  let cs := text.toList
  let (j, cs) ← value (2 * cs.length + 2) shape cs
  ending cs
  .ok j

/-- Reads a whole text of any shape, however deep. -/
def readDeep (text : String) : Except Fault Json := do
  let cs := text.toList
  let (j, cs) ← anyValue true (2 * cs.length + 2) cs.length cs
  ending cs
  .ok j

end MailSync.Json
