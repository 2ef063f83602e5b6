import PageHarvest.Failure
import PageHarvest.Text.Case
import PageHarvest.Text.Quoted

/-!
Addresses and their parts, and addresses relative to others. Joining follows the rules for relative
references; schemes without such rules are left alone.
-/
namespace PageHarvest

structure Url where
  scheme : String := ""
  authority : List Char := []
  path : List Char := []
  params : List Char := []
  query : List Char := []
  fragment : List Char := []
  deriving Repr, DecidableEq

namespace Url

/-- Schemes under which an address can be relative. -/
def relativeSchemes : List String := [
  "", "ftp", "http", "gopher", "nntp", "imap", "wais", "file", "https", "shttp", "mms", "prospero",
  "rtsp", "rtsps", "rtspu", "sftp", "svn", "svn+ssh", "ws", "wss"]

/-- Schemes with an authority. -/
def authoritySchemes : List String := [
  "", "ftp", "http", "gopher", "nntp", "telnet", "imap", "wais", "file", "mms", "https", "shttp",
  "snews", "prospero", "rtsp", "rtsps", "rtspu", "rsync", "svn", "svn+ssh", "sftp", "nfs", "git",
  "git+ssh", "ws", "wss"]

/-- Schemes whose last path segment can have parameters. -/
def paramSchemes : List String := [
  "", "ftp", "hdl", "prospero", "http", "imap", "https", "shttp", "rtsp", "rtsps", "rtspu", "sip",
  "sips", "mms", "sftp", "tel"]

/-- Splits at the first character of a class; the character belongs to neither part. `none` when
there is no such character. -/
def cut? (p : Char → Bool) (cs : List Char) : Option (List Char × List Char) :=
  match cs.dropWhile fun c => !p c with
  | [] => none
  | _ :: rest => some (cs.takeWhile (fun c => !p c), rest)

/-- Splits at the first character of a class, or takes everything for the first part. -/
def cut (p : Char → Bool) (cs : List Char) : List Char × List Char :=
  (cut? p cs).getD (cs, [])

def segments : List Char → List (List Char)
  | [] => [[]]
  | '/' :: rest => [] :: segments rest
  | c :: rest =>
    match segments rest with
    | s :: ss => (c :: s) :: ss
    | [] => [[c]]

def ofSegments (ss : List (List Char)) : List Char :=
  ['/'].intercalate ss

/-- The scheme before the first colon, if what stands there can be one. -/
def scheme? (cs : List Char) : Option (String × List Char) := do
  let (name, rest) ← cut? (· == ':') cs
  let first ← name.head?
  if first.isAlpha && name.all fun c => c.isAlphanum || c == '+' || c == '-' || c == '.' then
    return (Text.asciiLower (String.ofList name), rest)
  else none

/-- Splits off the parameters of the last segment. -/
def cutParams (path : List Char) : List Char × List Char :=
  let ss := segments path
  let (name, params) := cut (· == ';') (ss.getLastD [])
  (ofSegments (ss.dropLast ++ [name]), params)

/-- A group of an address in brackets: up to four hexadecimal digits. -/
def isGroup (cs : List Char) : Bool :=
  !cs.isEmpty && cs.length ≤ 4 && cs.all fun c =>
    c.isDigit || ('a' ≤ c && c ≤ 'f') || ('A' ≤ c && c ≤ 'F')

/-- Groups between colons. -/
def groups (cs : List Char) : List (List Char) :=
  segments (cs.map fun c => if c == ':' then '/' else if c == '/' then ' ' else c)

/-- Whether text is a number below 256 without a needless zero. -/
def isOctet (cs : List Char) : Bool :=
  !cs.isEmpty && cs.length ≤ 3 && cs.all Char.isDigit && (cs.length == 1 || cs.head? != some '0') &&
    cs.foldl (fun n c => n * 10 + (c.toNat - 48)) 0 ≤ 255

/-- Whether text is an address of four numbers. -/
def isAddress4 (cs : List Char) : Bool :=
  let os := segments (cs.map fun c => if c == '.' then '/' else if c == '/' then ' ' else c)
  os.length == 4 && os.all isOctet

/-- Whether text is an address of eight groups, some of which may be left out together once; an address
of four numbers can stand for the last two. -/
def isAddress6 (cs : List Char) : Bool :=
  let gs := groups cs
  let last := gs.getLastD []
  let all := if isAddress4 last then gs.dropLast ++ [['0'], ['0']] else gs
  let inner := all.drop 1 |>.dropLast
  match inner.idxOf? [] with
  | none => all.length == 8 && all.all isGroup
  | some n =>
    let kept (part : List (List Char)) := if part == [[]] then [] else part
    let present := kept (all.take (n + 1)) ++ kept (all.drop (n + 2))
    3 ≤ gs.length && all.length ≤ 9 && present.length ≤ 7 && present.all isGroup

/-- Whether text is an address of eight groups, with or without the name of a zone. -/
def isZoned (cs : List Char) : Bool :=
  match cut? (· == '%') cs with
  | none => isAddress6 cs
  | some (address, zone) => !zone.isEmpty && !zone.contains '%' && isAddress6 address

/-- Whether text is an address of a later kind: `v`, its version, a dot and something more. -/
def isFuture (cs : List Char) : Bool :=
  match cut? (· == '.') (cs.drop 1) with
  | some (version, rest) =>
    !version.isEmpty && version.all (fun c => isGroup [c]) && !rest.isEmpty && !rest.contains '\n'
  | none => false

/-- Signs that look like a mark between the parts of an address. -/
def markLike : List Nat := [
  0x2047, 0x2048, 0x2049, 0x2100, 0x2101, 0x2105, 0x2106, 0x2a74, 0xfe13, 0xfe16, 0xfe55, 0xfe56,
  0xfe5f, 0xfe6b, 0xff03, 0xff0f, 0xff1a, 0xff1f, 0xff20]

/-- What is wrong with the host between brackets. -/
def hostFault? (host : List Char) : Option String :=
  if host.head? == some 'v' then
    if isFuture host then none else some "IPvFuture address is invalid"
  else if isAddress4 host then some "An IPv4 address cannot be in brackets"
  else if isZoned host then none
  else some (Text.quoted (String.ofList host) ++ " does not appear to be an IPv4 or IPv6 address")

/-- What is wrong with an authority: its brackets, what they hold, or a sign that only looks like a
mark. -/
def authorityFault? (authority : List Char) : Option String :=
  let opened := authority.contains '['
  let closed := authority.contains ']'
  let bracketFault? :=
    if opened != closed then some "Invalid IPv6 URL"
    else if opened then hostFault? (cut (· == ']') (cut (· == '[') authority).2).1
    else none
  bracketFault?.or
    (if authority.any fun c => markLike.contains c.toNat then
      some ("netloc '" ++ String.ofList authority ++
        "' contains invalid characters under NFKC normalization")
    else none)

/-- What counts of an address: not the blanks and controls before it, nor tabs and line ends. -/
def cleaned (text : List Char) : List Char :=
  (text.dropWhile fun c => c.toNat ≤ 32).filter fun c => !(c == '\t' || c == '\r' || c == '\n')

/-- Splits off the authority, which two slashes announce. -/
def cutAuthority : List Char → List Char × List Char
  | '/' :: '/' :: rest =>
    let ends (c : Char) := c == '/' || c == '?' || c == '#'
    (rest.takeWhile fun c => !ends c, rest.dropWhile fun c => !ends c)
  | cs => ([], cs)

/-- The parts of an address; `scheme` is the one it has when it names none. -/
def read (text : List Char) (scheme : String) : Except Failure Url :=
  let cs := cleaned text
  let (scheme, cs) := (scheme? cs).getD (scheme, cs)
  let (authority, cs) := cutAuthority cs
  match authorityFault? authority with
  | some fault => .error (Cause.badValue fault)
  | none =>
    let (cs, fragment) := cut (· == '#') cs
    let (path, query) := cut (· == '?') cs
    let (path, params) := if paramSchemes.contains scheme then cutParams path else (path, [])
    .ok { scheme, authority, path, params, query, fragment }

/-- A part after its mark, or nothing for an empty part. -/
def marked (mark : Char) (part : List Char) : List Char :=
  if part.isEmpty then [] else mark :: part

def text (u : Url) : String :=
  let path := u.path ++ marked ';' u.params
  let bare := (!u.scheme.isEmpty && authoritySchemes.contains u.scheme) || ['/', '/'].isPrefixOf path
  let path :=
    if !u.authority.isEmpty || bare then
      '/' :: '/' :: u.authority ++ (if path.isEmpty || path.head? == some '/' then path else '/' :: path)
    else path
  let scheme := if u.scheme.isEmpty then [] else u.scheme.toList ++ [':']
  String.ofList (scheme ++ path ++ marked '?' u.query ++ marked '#' u.fragment)

/-- Resolves the segments for "here" and "up"; `done` is what stands so far, last segment first. -/
def resolved (done : List (List Char)) : List (List Char) → List (List Char)
  | [] => done.reverse
  | ['.', '.'] :: rest => resolved (done.drop 1) rest
  | ['.'] :: rest => resolved done rest
  | s :: rest => resolved (s :: done) rest

/-- Segments without the empty ones between the first and the last. -/
def compact : List (List Char) → List (List Char)
  | [] => []
  | s :: rest => s :: (rest.dropLast.filter fun s => !s.isEmpty) ++ rest.drop (rest.length - 1)

/-- The path that a relative path names beside a base path. -/
def joinPath (base path : List Char) : List Char :=
  let parts := segments base
  let parts := if (parts.getLastD []).isEmpty then parts else parts.dropLast
  let all := if path.head? == some '/' then segments path else compact (parts ++ segments path)
  let last := all.getLastD []
  let done := resolved [] all ++ (if last == ['.'] || last == ['.', '.'] then [[]] else [])
  let joined := ofSegments done
  if joined.isEmpty then ['/'] else joined

/-- The address that `u`, written as `reference`, names on a page at `b`. -/
def resolve (b u : Url) (reference : String) : String :=
  if u.scheme != b.scheme || !relativeSchemes.contains u.scheme then reference
  else if authoritySchemes.contains u.scheme && !u.authority.isEmpty then u.text
  else
    let u := if authoritySchemes.contains u.scheme then { u with authority := b.authority } else u
    if u.path.isEmpty && u.params.isEmpty then
      { u with
        path := b.path, params := b.params
        query := if u.query.isEmpty then b.query else u.query }.text
    else { u with path := joinPath b.path u.path }.text

/-- The address that `reference` names on a page at `base`. -/
def join (base reference : String) : Except Failure String :=
  if base.isEmpty then .ok reference
  else if reference.isEmpty then .ok base
  else do
    let b ← read base.toList ""
    let u ← read reference.toList b.scheme
    return resolve b u reference

/-- Attributes of elements whose values are addresses. -/
def attrNames : List String := ["href", "src", "action"]

end Url
end PageHarvest
