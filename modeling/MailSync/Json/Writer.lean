import MailSync.Json.Value
import MailSync.Number.Shortest
import MailSync.Text.Numeral

/-!
# Writing JSON

Either on one line without blanks, or one item a line with two blanks for each level, where
empty arrays and objects stay on their line. Only quotes, backslashes and control characters
are escaped. A floating-point number always shows a point or an exponent.
-/
namespace MailSync.Json

/-- Places of the point for which a number is written without an exponent: from the sixth
before the first digit to the sixteenth behind it. -/
def isPositional (place : Int) : Bool := -5 < place && place ≤ 16

/-- Lays out digits times a power of ten. -/
def layOut (digits : String) (exponent : Int) : String :=
  let place := (digits.length : Int) + exponent
  if isPositional place then
    if 0 ≤ exponent then digits ++ "".pushn '0' exponent.toNat ++ ".0"
    else if 0 < place then
      let cs := digits.toList
      String.ofList (cs.take place.toNat) ++ "." ++ String.ofList (cs.drop place.toNat)
    else "0." ++ "".pushn '0' (-place).toNat ++ digits
  else
    let mantissa := match digits.toList with
      | [] => ""
      | [d] => String.singleton d
      | d :: ds => String.singleton d ++ "." ++ String.ofList ds
    mantissa ++ (if 0 < place then "e+" else "e") ++ toString (place - 1)

/-- A floating-point number. One that is not finite has no form and is written as null. -/
def floatText (x : Float) : String :=
  let bits := x.toBits.toNat
  let sign := if bits >>> 63 = 1 then "-" else ""
  let magnitude := bits % 0x8000000000000000
  if 0x7FF0000000000000 ≤ magnitude then "null"
  else if magnitude = 0 then sign ++ "0.0"
  else
    let (digits, exponent) := (Number.Interval.ofBits magnitude).shortest
    sign ++ layOut (toString digits) exponent

def escapeChar (c : Char) : String :=
  if c = '"' then "\\\""
  else if c = '\\' then "\\\\"
  else if c = '\n' then "\\n"
  else if c = '\r' then "\\r"
  else if c = '\t' then "\\t"
  else if c = Char.ofNat 8 then "\\b"
  else if c = Char.ofNat 12 then "\\f"
  else if c.toNat < 0x20 then "\\u00" ++ Text.hexByte (UInt8.ofNat c.toNat)
  else String.singleton c

def quoted (s : String) : String :=
  (s.toList.foldl (fun out c => out ++ escapeChar c) "\"") ++ "\""

mutual

/-- Writes a value behind what is written already. -/
def appendTo (out : String) : Json → String
  | null => out ++ "null"
  | bool b => out ++ (if b then "true" else "false")
  | integer n => out ++ toString n
  | float x => out ++ floatText x
  | string s => out ++ quoted s
  | array items => appendItems (out ++ "[") true items ++ "]"
  | object fields => appendFields (out ++ "\x7b") true fields ++ "\x7d"

def appendItems (out : String) (isFirst : Bool) : List Json → String
  | [] => out
  | j :: rest => appendItems (appendTo (if isFirst then out else out ++ ",") j) false rest

def appendFields (out : String) (isFirst : Bool) : List (String × Json) → String
  | [] => out
  | (name, j) :: rest =>
    let out := (if isFirst then out else out ++ ",") ++ quoted name ++ ":"
    appendFields (appendTo out j) false rest

end

/-- One line without blanks. -/
def compact (j : Json) : String := appendTo "" j

def newLine (level : Nat) : String := "\n" ++ "".pushn ' ' (2 * level)

mutual

def appendIndented (level : Nat) (out : String) : Json → String
  | array (j :: rest) =>
    indentItems (level + 1) (out ++ "[") true (j :: rest) ++ newLine level ++ "]"
  | object (f :: rest) =>
    indentFields (level + 1) (out ++ "\x7b") true (f :: rest) ++ newLine level ++ "\x7d"
  | array [] => out ++ "[]"
  | object [] => out ++ "\x7b\x7d"
  | null => out ++ "null"
  | bool b => out ++ (if b then "true" else "false")
  | integer n => out ++ toString n
  | float x => out ++ floatText x
  | string s => out ++ quoted s

def indentItems (level : Nat) (out : String) (isFirst : Bool) : List Json → String
  | [] => out
  | j :: rest =>
    let out := (if isFirst then out else out ++ ",") ++ newLine level
    indentItems level (appendIndented level out j) false rest

def indentFields (level : Nat) (out : String) (isFirst : Bool) : List (String × Json) → String
  | [] => out
  | (name, j) :: rest =>
    let out := (if isFirst then out else out ++ ",") ++ newLine level ++ quoted name ++ ": "
    indentFields level (appendIndented level out j) false rest

end

/-- One item a line. -/
def pretty (j : Json) : String := appendIndented 0 "" j

end MailSync.Json
