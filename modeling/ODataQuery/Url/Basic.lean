import ODataQuery.Url.Host

/-! Addresses of the web in their parts, how they are read without a base, and how they are written.
The known schemes http, https, ws, wss, ftp and file have a host and a path of segments. -/
namespace ODataQuery

open Url (Host AddressError)

/-- Segments behind slashes, or text that is not taken apart. -/
inductive Url.Path
  | segments (items : List String)
  | unstructured (text : String)
  deriving DecidableEq

structure Url where
  scheme : String
  user : String := ""
  password : String := ""
  host : Option Host := none
  port : Option Nat := none
  path : Url.Path
  query : Option String := none
  fragment : Option String := none
  deriving DecidableEq

namespace Url

def isSpecial (scheme : String) : Bool :=
  ["http", "https", "ws", "wss", "ftp", "file"].contains scheme

def defaultPort? (scheme : String) : Option Nat :=
  match scheme with
  | "http" | "ws" => some 80
  | "https" | "wss" => some 443
  | "ftp" => some 21
  | _ => none

def pathText : Path → String
  | .segments items => String.join (items.map ("/" ++ ·))
  | .unstructured text => text

def credentialsText (u : Url) : String :=
  if u.user.isEmpty && u.password.isEmpty then ""
  else u.user ++ (if u.password.isEmpty then "" else ":" ++ u.password) ++ "@"

/-- Everything between the scheme and the path. A path that would be taken for a host has a point
segment put in front of it. -/
def authorityText (u : Url) : String :=
  match u.host with
  | some host =>
    "//" ++ u.credentialsText ++ String.ofList host.text ++
      (match u.port with
      | some port => ":" ++ String.ofList (digitsOf port)
      | none => "")
  | none =>
    if u.scheme = "file" then "//"
    else
      match u.path with
      | .segments ("" :: _ :: _) => "/."
      | _ => ""

def partText (mark : String) : Option String → String
  | some s => mark ++ s
  | none => ""

def text (u : Url) : String :=
  u.scheme ++ ":" ++ u.authorityText ++ pathText u.path ++ partText "?" u.query ++
    partText "#" u.fragment

def splitScheme? (cs : List Char) : Option (String × List Char) :=
  let isSchemeChar (c : Char) : Bool := c.isAlphanum || c = '+' || c = '-' || c = '.'
  match cs with
  | c :: _ =>
    match cs.dropWhile isSchemeChar with
    | ':' :: rest =>
      if c.isAlpha then
        some (String.ofList ((cs.takeWhile isSchemeChar).map Char.toLower), rest)
      else none
    | _ => none
  | [] => none

def endsAuthority (special : Bool) (c : Char) : Bool :=
  c = '/' || c = '?' || c = '#' || (special && c = '\\')

def splitLastAt? (cs : List Char) : Option (List Char × List Char) :=
  let host := (cs.reverse.takeWhile (· ≠ '@')).reverse
  if cs.contains '@' then some (cs.take (cs.length - host.length - 1), host) else none

/-- User and password of an authority, and its host and port. -/
def splitUser (authority : List Char) : Except AddressError (String × String × List Char) :=
  match splitLastAt? authority with
  | none => .ok ("", "", authority)
  | some (info, host) =>
    if host.isEmpty then .error .emptyHost
    else
      let encode (cs : List Char) := String.ofList (percentEncode isUserSafe cs)
      .ok (encode (info.takeWhile (· ≠ ':')), encode ((info.dropWhile (· ≠ ':')).drop 1), host)

/-- Splits the port off a host; colons in brackets belong to the host. -/
def splitPort (inBrackets : Bool) : List Char → List Char × Option (List Char)
  | [] => ([], none)
  | c :: rest =>
    if c = ':' ∧ !inBrackets then ([], some rest)
    else
      let (host, port) := splitPort (if c = '[' then true else if c = ']' then false else inBrackets)
        rest
      (c :: host, port)

/-- A port up to 65535. No digits, or the port of the scheme, is no port. -/
def portOf (scheme : String) (digits : List Char) : Except AddressError (Option Nat) :=
  if digits.isEmpty then .ok none
  else
    match natOfDigits? digits with
    | some n =>
      if 65535 < n then .error .badPort
      else if defaultPort? scheme = some n then .ok none
      else .ok (some n)
    | none => .error .badPort

/-- Pops the last segment; a drive letter at the front of a file path stays. -/
def shorten (file : Bool) (segments : List String) : List String :=
  match file, segments with
  | true, [drive] =>
    match drive.toList with
    | [c, ':'] => if c.isAlpha then segments else []
    | _ => []
  | _, _ => segments.dropLast

def isSingleDot (s : List Char) : Bool :=
  let lower := s.map Char.toLower
  lower = ['.'] || lower = "%2e".toList

def isDoubleDot (s : List Char) : Bool :=
  let lower := s.map Char.toLower
  lower = "..".toList || lower = ".%2e".toList || lower = "%2e.".toList || lower = "%2e%2e".toList

/-- A drive letter with its colon, or the segment as it is. -/
def driveForm (s : List Char) : List Char :=
  match s with
  | [c, '|'] => if c.isAlpha then [c, ':'] else s
  | _ => s

/-- Adds the parts of a path to the segments before it. A single point adds nothing and a double
point takes the last segment away; at the end of the path both leave an empty segment. -/
def addSegments (file : Bool) (done : List String) : List (List Char) → List String
  | [] => done
  | part :: rest =>
    let shorter := shorten file done
    if isDoubleDot part then addSegments file (if rest.isEmpty then shorter ++ [""] else shorter) rest
    else if isSingleDot part then addSegments file (if rest.isEmpty then done ++ [""] else done) rest
    else
      let part := if file ∧ done.isEmpty then driveForm part else part
      addSegments file (done ++ [String.ofList (percentEncode isPathSafe part)]) rest

/-- The segments of a path; one slash at its front is the mark of a path. -/
def segmentsOf (special file : Bool) (cs : List Char) : List String :=
  let isSlash (c : Char) : Bool := c = '/' || (special && c = '\\')
  let body := match cs with
    | c :: rest => if isSlash c then rest else cs
    | [] => []
  let segments := addSegments file [] (Text.splitChars isSlash body)
  if file then
    match segments.dropWhile (·.isEmpty) with
    | [] => [""]
    | kept => kept
  else segments

def splitParts (cs : List Char) : List Char × Option (List Char) × Option (List Char) :=
  let front := cs.takeWhile (· ≠ '#')
  let fragment := match cs.dropWhile (· ≠ '#') with
    | _ :: rest => some rest
    | [] => none
  let query := match front.dropWhile (· ≠ '?') with
    | _ :: rest => some rest
    | [] => none
  (front.takeWhile (· ≠ '?'), query, fragment)

def withParts (u : Url) (query fragment : Option (List Char)) : Url :=
  { u with
    query := query.map fun q => String.ofList (percentEncode (isQuerySafe (isSpecial u.scheme)) q)
    fragment := fragment.map fun f => String.ofList (percentEncode isFragmentSafe f) }

def ofAuthority (domains : Domains) (scheme : String) (cs : List Char) : Except AddressError Url := do
  let special := isSpecial scheme
  let authority := cs.takeWhile fun c => !endsAuthority special c
  let (user, password, hostAndPort) ← splitUser authority
  let (hostText, portText) := splitPort false hostAndPort
  let known := special && scheme ≠ "file"
  if hostText.isEmpty && known then throw .emptyHost
  let host ← if special then Host.ofSpecial domains hostText else Host.ofAny hostText
  if hostText.isEmpty && portText.isSome then throw .emptyHost
  if hostText.isEmpty && (!user.isEmpty || !password.isEmpty) then throw .emptyHost
  let port ← portOf scheme (portText.getD [])
  let (path, query, fragment) := splitParts (cs.dropWhile fun c => !endsAuthority special c)
  let segments := if !special && path.isEmpty then [] else segmentsOf special false path
  return withParts
    { scheme, user, password, host := some host, port, path := .segments segments } query fragment

/-- A file address; a local host is no host. -/
def ofFile (domains : Domains) (cs : List Char) : Except AddressError Url := do
  let isSlash (c : Char) : Bool := c = '/' || c = '\\'
  match cs with
  | a :: b :: rest =>
    if isSlash a && isSlash b then
      let hostText := rest.takeWhile fun c => !endsAuthority true c
      let isDrive := match hostText with
        | [c, d] => c.isAlpha && (d = ':' || d = '|')
        | _ => false
      let pathAndMore := if isDrive then rest else rest.dropWhile fun c => !endsAuthority true c
      let host ←
        if isDrive || hostText.isEmpty then pure none
        else do
          let host ← Host.ofSpecial domains hostText
          pure (if host = .domain "localhost" then none else some host)
      let (path, query, fragment) := splitParts pathAndMore
      return withParts
        { scheme := "file", host, path := .segments (segmentsOf true true path) } query fragment
    else fromPath (a :: b :: rest)
  | _ => fromPath cs
where
  fromPath (cs : List Char) : Except AddressError Url :=
    let (path, query, fragment) := splitParts cs
    .ok (withParts { scheme := "file", path := .segments (segmentsOf true true path) } query fragment)

def ofUnknown (domains : Domains) (scheme : String) (cs : List Char) : Except AddressError Url :=
  match cs with
  | '/' :: '/' :: rest => ofAuthority domains scheme rest
  | _ =>
    let (path, query, fragment) := splitParts cs
    let path : Path := match path with
      | '/' :: _ => .segments (segmentsOf false false path)
      | _ => .unstructured (String.ofList (percentEncode isPlainSafe path))
    .ok (withParts { scheme, path } query fragment)

def isControlOrSpace (c : Char) : Bool := c.toNat ≤ 32

/-- Reads an address that stands alone. Control characters and blanks around it do not count, nor do
tabs and line ends anywhere. -/
def parse (domains : Domains) (s : String) : Except AddressError Url :=
  let trimmed := Text.dropEndWhile isControlOrSpace (s.toList.dropWhile isControlOrSpace)
  let cs := trimmed.filter fun c => !(c = '\t' || c = '\n' || c = '\r')
  match splitScheme? cs with
  | none => .error .noScheme
  | some (scheme, rest) =>
    if scheme = "file" then ofFile domains rest
    else if isSpecial scheme then
      ofAuthority domains scheme (rest.dropWhile fun c => c = '/' || c = '\\')
    else ofUnknown domains scheme rest

/-- The address with another query. Without query and fragment an unstructured path has no blanks at
its end. -/
def withQuery (u : Url) (query : Option String) : Url :=
  match query, u.fragment, u.path with
  | none, none, .unstructured path =>
    { u with
      query := none
      path := .unstructured (String.ofList (Text.dropEndWhile (· = ' ') path.toList)) }
  | _, _, _ => { u with query }

end Url

end ODataQuery
