import MailSync.Url.Domain
import MailSync.Url.Ipv4
import MailSync.Url.Ipv6
import MailSync.Url.Percent

/-!
# Addresses on the web

The parts of an address of a web server, as browsers read them: tabs and line ends count for
nothing, backslashes are slashes, the host is brought into one form, and the port is left out
where it is the scheme's own.
-/
namespace MailSync

structure Url where
  scheme : String
  /-- What stands before the host and its at sign, escaped. -/
  userinfo : String
  host : String
  port : Option Nat
  /-- The segments behind the first slash. -/
  path : List String
  query : Option String
  fragment : Option String
deriving Repr, DecidableEq

namespace Url

inductive Fault where
  | emptyHost | badDomain | badPort | badIpv4 | badIpv6
deriving Repr, DecidableEq

def Fault.message : Fault → String
  | emptyHost => "empty host"
  | badDomain => "invalid international domain name"
  | badPort => "invalid port number"
  | badIpv4 => "invalid IPv4 address"
  | badIpv6 => "invalid IPv6 address"

def isSlash (c : Char) : Bool := c = '/' || c = '\\'

/-- Whether a character ends what stands in front of the path. -/
def endsAuthority (c : Char) : Bool := isSlash c || c = '?' || c = '#'

/-- User name and password. The colon is left out where there is no password. -/
def userinfoText (cs : List Char) : String :=
  let user := cs.takeWhile (· ≠ ':')
  let password := (cs.dropWhile (· ≠ ':')).drop 1
  String.ofList (escape inUserinfo user ++
    (if password = [] then [] else ':' :: escape inUserinfo password))

/-- Splits user information off, up to the last at sign. -/
def splitUserinfo (authority : List Char) : Option (List Char) × List Char :=
  if '@' ∈ authority then
    let host := (authority.reverse.takeWhile (· ≠ '@')).reverse
    (some (authority.take (authority.length - host.length - 1)), host)
  else (none, authority)

/-- The host and what follows it. Colons between brackets belong to the host. -/
def splitHost : Bool → List Char → List Char × List Char
  | _, [] => ([], [])
  | inside, c :: cs =>
    if c = ':' ∧ ¬inside then ([], c :: cs)
    else
      let inside := if c = '[' then true else if c = ']' then false else inside
      let (host, rest) := splitHost inside cs
      (c :: host, rest)

def readHost (cs : List Char) : Except Fault String :=
  match cs with
  | [] => .error .emptyHost
  | '[' :: rest =>
    if rest.getLast? = some ']' then
      match Ipv6.read? rest.dropLast with
      | some pieces => .ok ("[" ++ Ipv6.text pieces ++ "]")
      | none => .error .badIpv6
    else .error .badIpv6
  | cs =>
    match Domain.ofBytes? (unescape (Text.toBytes (String.ofList cs))) with
    | none => .error .badDomain
    | some domain =>
      if domain = "" then .error .emptyHost
      else if Ipv4.isMeant domain then
        match Ipv4.address? domain with
        | some address => .ok (Ipv4.text address)
        | none => .error .badIpv4
      else .ok domain

/-- The port behind a host; none for the scheme's own and for an empty one. -/
def readPort (defaultPort : Nat) : List Char → Except Fault (Option Nat)
  | ':' :: digits =>
    if digits = [] then .ok none
    else match Text.digitsValue? digits with
      | some n =>
        if n < UInt16.size then .ok ((some n).filter (· ≠ defaultPort)) else .error .badPort
      | none => .error .badPort
  | _ => .ok none

/-- The pieces between slashes. -/
def segments : List Char → List (List Char)
  | [] => [[]]
  | c :: cs =>
    if isSlash c then [] :: segments cs
    else match segments cs with
      | [] => [[c]]
      | s :: rest => (c :: s) :: rest

/-- How many dots a segment is, if nothing else. A dot may be escaped. -/
def dots : List Char → Option Nat
  | [] => some 0
  | '.' :: cs => (dots cs).map (· + 1)
  | '%' :: '2' :: 'e' :: cs => (dots cs).map (· + 1)
  | '%' :: '2' :: 'E' :: cs => (dots cs).map (· + 1)
  | _ => none

/-- Adds segments to a path, given backwards. One dot stays in place and two go up. -/
def walk : List String → List (List Char) → List String
  | path, [] => path.reverse
  | path, s :: rest =>
    let up := dots s = some 2
    let path := if up then path.tail else path
    if up ∨ dots s = some 1 then walk (if rest = [] then "" :: path else path) rest
    else walk (String.ofList s :: path) rest

def readPath (cs : List Char) : List String :=
  let cs := match cs with
    | c :: rest => if isSlash c then rest else c :: rest
    | [] => []
  walk [] (segments (escape inPath cs))

/-- Splits at the first character of its kind, which is dropped. -/
def cut (c : Char) (cs : List Char) : List Char × Option (List Char) :=
  match cs.dropWhile (· ≠ c) with
  | [] => (cs, none)
  | _ :: rest => (cs.takeWhile (· ≠ c), some rest)

/-- Reads what follows a scheme and its colon. -/
def read (scheme : String) (defaultPort : Nat) (text : List Char) : Except Fault Url := do
  let text := text.filter fun c => c ≠ '\t' && c ≠ '\n' && c ≠ '\r'
  let text := text.dropWhile isSlash
  let authority := text.takeWhile fun c => !endsAuthority c
  let (userinfo, server) := splitUserinfo authority
  let (host, port) := splitHost false server
  let host ← readHost host
  let port ← readPort defaultPort port
  let (text, fragment) := cut '#' (text.drop authority.length)
  let (path, query) := cut '?' text
  .ok {
    scheme, host, port
    userinfo := (userinfo.map userinfoText).getD ""
    path := readPath path
    query := query.map fun cs => String.ofList (escape inQuery cs)
    fragment := fragment.map fun cs => String.ofList (escape inFragment cs) }

/-- Adds pairs of names and values to the query. -/
def addQuery (u : Url) (pairs : List (String × String)) : Url :=
  let before := match u.query with
    | none | some "" => ""
    | some q => q ++ "&"
  { u with query := some (before ++ form pairs) }

/-- The path with its query, as requests name it. -/
def target (u : Url) : String :=
  "/" ++ "/".intercalate u.path ++ ((u.query.map ("?" ++ ·)).getD "")

def text (u : Url) : String :=
  u.scheme ++ "://" ++ (if u.userinfo = "" then "" else u.userinfo ++ "@") ++ u.host ++
    ((u.port.map fun n => ":" ++ toString n).getD "") ++ u.target ++
    ((u.fragment.map ("#" ++ ·)).getD "")

theorem segments_ne_nil (cs : List Char) : segments cs ≠ [] := by
  cases cs with
  | nil => simp [segments]
  | cons c cs =>
    unfold segments
    split
    · simp
    · split <;> simp

end Url
end MailSync
