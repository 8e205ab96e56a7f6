import SaleorWebhook.Records
import Mathlib.Algebra.Group.Nat.Basic

namespace SaleorWebhook

-- urllib.parse of CPython 3.9 on code points; NFKC and str.lower are the nfkc and lower of the World.

def partition (sep : Char) (text : List Char) : List Char × Bool × List Char :=
  match text.span (· ≠ sep) with
  | (before, _ :: after) => (before, true, after)
  | (before, []) => (before, false, [])

def rpartition (sep : Char) (text : List Char) : List Char × Bool × List Char :=
  match partition sep text.reverse with
  | (after, true, before) => (before.reverse, true, after.reverse)
  | _ => ([], false, text)

def asciiLower (text : String) : String := String.mk (text.toList.map Char.toLower)

-- _WHATWG_C0_CONTROL_OR_SPACE, _UNSAFE_URL_BYTES_TO_REMOVE and scheme_chars.
def c0ControlOrSpace (c : Char) : Bool := c.toNat ≤ 32
def unsafeUrlByte (c : Char) : Bool := c = '\t' || c = '\r' || c = '\n'
def schemeChar (c : Char) : Bool := c.isAlphanum || c = '+' || c = '-' || c = '.'

structure SplitResult where
  scheme : String
  netloc : String
  path : String
  query : String
  fragment : String
  deriving DecidableEq, Repr

structure ParseResult where
  scheme : String
  netloc : String
  path : String
  params : String
  query : String
  fragment : String
  deriving DecidableEq, Repr

def splitScheme (url : List Char) : List Char × List Char :=
  match partition ':' url with
  | (head@(first :: _), true, rest) =>
    if first.isAlpha && head.all schemeChar then (head.map Char.toLower, rest) else ([], url)
  | _ => ([], url)

-- _checknetloc: a non-ASCII netloc must not gain one of / ? # @ : under NFKC.
def checkNetloc (nfkc : String → String) (netloc : List Char) : Except Exn Unit :=
  if netloc.isEmpty || netloc.all (·.toNat < 128) then .ok ()
  else
    let n := String.mk (netloc.filter fun c => c ≠ '@' && c ≠ ':' && c ≠ '#' && c ≠ '?')
    let netloc2 := nfkc n
    if n = netloc2 then .ok ()
    else if netloc2.toList.any fun c => c = '/' || c = '?' || c = '#' || c = '@' || c = ':' then
      .error (.valueError ("netloc \x27" ++ String.mk netloc ++
        "\x27 contains invalid characters under NFKC normalization"))
    else .ok ()

def urlsplit (nfkc : String → String) (url : String) : Except Exn SplitResult := do
  let url := (url.toList.dropWhile c0ControlOrSpace).filter (!unsafeUrlByte ·)
  let (scheme, url) := splitScheme url
  let (netloc, url) := match url with
    | '/' :: '/' :: rest => rest.span fun c => c ≠ '/' && c ≠ '?' && c ≠ '#'
    | _ => ([], url)
  if (netloc.contains '[' && !netloc.contains ']') || (netloc.contains ']' && !netloc.contains '[') then
    throw (.valueError "Invalid IPv6 URL")
  let (url, _, fragment) := partition '#' url
  let (path, _, query) := partition '?' url
  checkNetloc nfkc netloc
  return ⟨String.mk scheme,String.mk netloc,String.mk path,String.mk query,String.mk fragment⟩

def usesParams : List String :=
  ["", "ftp", "hdl", "prospero", "http", "imap", "https", "shttp", "rtsp", "rtspu", "sip", "sips", "mms",
    "sftp", "tel"]

-- _splitparams: the parameters of the last path segment, after its first semicolon.
def splitParams (path : List Char) : List Char × List Char :=
  match rpartition '/' path with
  | (dir, true, segment) =>
    match partition ';' segment with
    | (before, true, params) => (dir ++ '/' :: before, params)
    | _ => (path, [])
  | _ =>
    let (before, _, params) := partition ';' path
    (before, params)

def urlparse (nfkc : String → String) (url : String) : Except Exn ParseResult := do
  let split ← urlsplit nfkc url
  let (path, params) :=
    if split.scheme ∈ usesParams && split.path.toList.contains ';' then splitParams split.path.toList
    else (split.path.toList, [])
  return ⟨split.scheme,split.netloc,String.mk path,String.mk params,split.query,split.fragment⟩

-- _hostinfo: the host and port after the last @, a bracketed host kept whole.
def ParseResult.hostinfo (parts : ParseResult) : List Char × List Char :=
  let (_, _, hostinfo) := rpartition '@' parts.netloc.toList
  match partition '[' hostinfo with
  | (_, true, bracketed) =>
    let (hostname, _, port) := partition ']' bracketed
    (hostname, (partition ':' port).2.2)
  | _ =>
    let (hostname, _, port) := partition ':' hostinfo
    (hostname, port)

-- hostname: None when empty; lower-cased up to a scope zone, which keeps its case.
def ParseResult.hostname (lower : String → String) (parts : ParseResult) : Option String :=
  match parts.hostinfo.1 with
  | [] => none
  | hostname =>
    match partition '%' hostname with
    | (host, true, zone) => some (lower (String.mk host) ++ "%" ++ String.mk zone)
    | (host, false, _) => some (lower (String.mk host))

-- _userinfo: user name and password before the last @; no password without a colon.
def ParseResult.userinfo (parts : ParseResult) : Option String × Option String :=
  match rpartition '@' parts.netloc.toList with
  | (userinfo, true, _) =>
    match partition ':' userinfo with
    | (username, true, password) => (some (String.mk username), some (String.mk password))
    | (username, false, _) => (some (String.mk username), none)
  | _ => (none, none)

def usesNetloc : List String :=
  ["", "ftp", "http", "gopher", "nntp", "telnet", "imap", "wais", "file", "mms", "https", "shttp", "snews",
    "prospero", "rtsp", "rtspu", "rsync", "svn", "svn+ssh", "sftp", "nfs", "git", "git+ssh", "ws", "wss"]

def urlunsplit (scheme netloc url query fragment : String) : String :=
  let url :=
    if !netloc.isEmpty || (!scheme.isEmpty && scheme ∈ usesNetloc && url.take 2 ≠ "//") then
      "//" ++ netloc ++ (if !url.isEmpty && url.take 1 ≠ "/" then "/" ++ url else url)
    else url
  let url := if scheme.isEmpty then url else scheme ++ ":" ++ url
  let url := if query.isEmpty then url else url ++ "?" ++ query
  if fragment.isEmpty then url else url ++ "#" ++ fragment

def urlunparse (scheme netloc url params query fragment : String) : String :=
  urlunsplit scheme netloc (if params.isEmpty then url else url ++ ";" ++ params) query fragment

-- bytes.decode("utf-8", "replace"), with the lead bytes of RFC 3629 §4.
def utf8Lead (b : Nat) : Option (Nat × Nat × Nat) :=
  if b ≤ 0x7F then some (0, 0x80, 0xBF)
  else if 0xC2 ≤ b ∧ b ≤ 0xDF then some (1, 0x80, 0xBF)
  else if b = 0xE0 then some (2, 0xA0, 0xBF)
  else if 0xE1 ≤ b ∧ b ≤ 0xEC then some (2, 0x80, 0xBF)
  else if b = 0xED then some (2, 0x80, 0x9F)
  else if 0xEE ≤ b ∧ b ≤ 0xEF then some (2, 0x80, 0xBF)
  else if b = 0xF0 then some (3, 0x90, 0xBF)
  else if 0xF1 ≤ b ∧ b ≤ 0xF3 then some (3, 0x80, 0xBF)
  else if b = 0xF4 then some (3, 0x80, 0x8F)
  else none

def replacementChar : Char := Char.ofNat 0xFFFD

structure Utf8Pending where
  bits : Nat
  owed : Nat
  low : Nat
  high : Nat
  deriving DecidableEq, Repr

def utf8Begin (b : Nat) : List Char × Option Utf8Pending :=
  match utf8Lead b with
  | none => ([replacementChar], none)
  | some (0, _, _) => ([Char.ofNat b], none)
  | some (owed, low, high) => ([], some ⟨b % 2 ^ (6 - owed),owed,low,high⟩)

def utf8Continue (pending : Utf8Pending) (b : Nat) : List Char × Option Utf8Pending :=
  if pending.low ≤ b ∧ b ≤ pending.high then
    if pending.owed = 1 then ([Char.ofNat (pending.bits * 64 + b % 64)], none)
    else ([], some ⟨pending.bits * 64 + b % 64,pending.owed - 1,0x80,0xBF⟩)
  else
    let (out, next) := utf8Begin b
    (replacementChar :: out, next)

def utf8DecodeFrom : Option Utf8Pending → List Nat → List Char
  | none, [] => []
  | some _, [] => [replacementChar]
  | none, b :: bytes =>
    let (out, next) := utf8Begin b
    out ++ utf8DecodeFrom next bytes
  | some pending, b :: bytes =>
    let (out, next) := utf8Continue pending b
    out ++ utf8DecodeFrom next bytes

def utf8Decode (bytes : List Nat) : List Char := utf8DecodeFrom none bytes

def hexDigit? (c : Char) : Option Nat :=
  if '0' ≤ c ∧ c ≤ '9' then some (c.toNat - '0'.toNat)
  else if 'a' ≤ c ∧ c ≤ 'f' then some (c.toNat - 'a'.toNat + 10)
  else if 'A' ≤ c ∧ c ≤ 'F' then some (c.toNat - 'A'.toNat + 10)
  else none

-- unquote_to_bytes on an ASCII run: a % followed by two hexadecimal digits is their byte; any other % stays.
def unquoteToBytes : List Char → List Nat
  | c :: a :: b :: after =>
    match c == '%', hexDigit? a, hexDigit? b with
    | true, some high, some low => (high * 16 + low) :: unquoteToBytes after
    | _, _, _ => c.toNat :: unquoteToBytes (a :: b :: after)
  | c :: rest => c.toNat :: unquoteToBytes rest
  | [] => []

-- unquote: each maximal ASCII run (run, reversed) is unquoted to bytes and decoded; other code points stay.
def unquoteRuns (run : List Char) : List Char → List Char
  | [] => utf8Decode (unquoteToBytes run.reverse)
  | c :: rest =>
    if c.toNat < 128 then unquoteRuns (c :: run) rest
    else utf8Decode (unquoteToBytes run.reverse) ++ c :: unquoteRuns [] rest

def unquote (text : String) : String :=
  if text.toList.contains '%' then String.mk (unquoteRuns [] text.toList) else text

end SaleorWebhook
