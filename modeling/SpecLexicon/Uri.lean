import SpecLexicon.Text.Quoted
import SpecLexicon.Uri.Host

/-!
# URIs

A URI is split into scheme, authority, path and query; a fragment is dropped. Splitting is lenient
about characters but refuses authorities with broken brackets, with brackets around anything but an
address, or with characters that turn into delimiters when they are normalized. Joining puts the
parts together again and adds the slashes that the parts need.

The rules for URIs have changed over time, and those here are the ones before joining wrote an empty
authority in front of a path of two slashes: such a path is read as an authority again. The brackets
are held to the later rule that looks at the whole authority, where nothing may stand between them
and the user in front or the port behind.
-/

set_option autoImplicit false

namespace SpecLexicon

/-- The parts of a URI. An absent part is empty, and the scheme is in lower case. -/
structure Uri where
  scheme : List Char
  authority : List Char
  path : List Char
  query : List Char
deriving DecidableEq, Repr

namespace Uri

open Text

/-- Why a text is refused. -/
inductive Fault where
  | brackets
  | laterVersion
  | version4
  | notAddress (host : List Char)
  | delimiterLookalike (authority : List Char)
deriving DecidableEq, Repr

def Fault.message : Fault → String
  | brackets => "Invalid IPv6 URL"
  | laterVersion => "IPvFuture address is invalid"
  | version4 => "An IPv4 address cannot be in brackets"
  | notAddress host =>
    quoted (String.ofList host) ++ " does not appear to be an IPv4 or IPv6 address"
  | delimiterLookalike authority =>
    "netloc '" ++ String.ofList authority ++
      "' contains invalid characters under NFKC normalization"

def isSchemePart (c : Char) : Bool :=
  c.isAlphanum || c == '+' || c == '.' || c == '-'

/-- Split off the scheme in front of the first colon. It starts with a letter. -/
def takeScheme (text : List Char) : List Char × List Char :=
  match cutAtMark ':' text with
  | (first :: name, some rest) =>
    if first.isAlpha && name.all isSchemePart then ((first :: name).map Char.toLower, rest)
    else ([], text)
  | _ => ([], text)

def endsAuthority (c : Char) : Bool :=
  c == '/' || c == '?' || c == '#'

def takeAuthority (text : List Char) : List Char × List Char :=
  match text with
  | '/' :: '/' :: rest => (rest.takeWhile (!endsAuthority ·), rest.dropWhile (!endsAuthority ·))
  | _ => ([], text)

def checkHost (host : List Char) : Except Fault Unit :=
  if host.head? = some 'v' then
    if isLaterVersion host then .ok () else .error .laterVersion
  else if isVersion4 host then .error .version4
  else if isVersion6 host then .ok ()
  else .error (.notAddress host)

/-- The host of an authority that has brackets. Behind them stands nothing, or a colon
and what follows it. -/
def bracketedHost (authority : List Char) : Except Fault (List Char) :=
  match cutAtMark '[' (behindLastMark '@' authority) with
  | (host, none) => .ok (cutAtMark ':' host).1
  | (_ :: _, some _) => .error .brackets
  | ([], some inner) =>
    match cutAtMark ']' inner with
    | (host, none) => .ok host
    | (host, some []) => .ok host
    | (host, some (c :: _)) => if c = ':' then .ok host else .error .brackets

def checkBrackets (authority : List Char) : Except Fault Unit :=
  match authority.contains '[', authority.contains ']' with
  | false, false => .ok ()
  | true, true => (bracketedHost authority).bind checkHost
  | _, _ => .error .brackets

/-- The characters that turn into a delimiter of an authority when they are normalized. -/
def delimiterLookalikes : List Nat :=
  [0x2047, 0x2048, 0x2049, 0x2100, 0x2101, 0x2105, 0x2106, 0x2A74, 0xFE13, 0xFE16, 0xFE55, 0xFE56,
    0xFE5F, 0xFE6B, 0xFF03, 0xFF0F, 0xFF1A, 0xFF1F, 0xFF20]

/-- No character of an authority turns into a delimiter. -/
def checkLookalikes (authority : List Char) : Except Fault Unit :=
  if authority.any fun c => delimiterLookalikes.contains c.toNat then
    .error (.delimiterLookalike authority)
  else .ok ()

/-- The text without leading control characters and spaces, and without tabs and line breaks. -/
def clean (text : List Char) : List Char :=
  (text.dropWhile fun c => c.toNat ≤ 0x20).filter fun c => c != '\t' && c != '\r' && c != '\n'

def split (text : List Char) : Except Fault Uri :=
  let (scheme, hierarchy) := takeScheme (clean text)
  let (authority, rest) := takeAuthority hierarchy
  let (path, query) := cutAtMark '?' (cutAtMark '#' rest).1
  do
    checkBrackets authority
    checkLookalikes authority
    pure { scheme, authority, path, query := query.getD [] }

/-- The schemes whose URIs are written with an authority even if it is empty. -/
def authoritySchemes : List String :=
  ["ftp", "http", "gopher", "nntp", "telnet", "imap", "wais", "file", "mms", "https", "shttp",
    "snews", "prospero", "rtsp", "rtspu", "rsync", "svn", "svn+ssh", "sftp", "nfs", "git",
    "git+ssh", "ws", "wss"]

/-- Whether a URI is written with two slashes and an authority. An empty authority is left out in
front of a path that starts with two slashes itself. -/
def writesAuthority (uri : Uri) : Bool :=
  !uri.authority.isEmpty ||
    (authoritySchemes.contains (String.ofList uri.scheme) && uri.path.take 2 != ['/', '/'])

def hierarchy (uri : Uri) : List Char :=
  if uri.writesAuthority then
    let slash := if uri.path ≠ [] ∧ uri.path.head? ≠ some '/' then ['/'] else []
    '/' :: '/' :: (uri.authority ++ slash ++ uri.path)
  else uri.path

def join (uri : Uri) : List Char :=
  let scheme := if uri.scheme = [] then [] else uri.scheme ++ [':']
  let query := if uri.query = [] then [] else '?' :: uri.query
  scheme ++ uri.hierarchy ++ query

/-- The identity of the source behind a URI: the URI without its query. -/
def source (uri : Uri) : List Char :=
  { uri with query := [] }.join

end Uri

/-- What a document URI says: the identity of the source, the authority, and the query if there is
one. -/
structure DocumentUri where
  source : String
  authority : String
  query : Option String
deriving DecidableEq, Repr

def DocumentUri.parse (text : String) : Except Uri.Fault DocumentUri :=
  (Uri.split text.toList).map fun uri =>
    { source := String.ofList uri.source
      authority := String.ofList uri.authority
      query := if uri.query = [] then none else some (String.ofList uri.query) }

/-- The URI with another query; no query at all if it is empty or absent. -/
def Uri.withQuery (text : String) (query : Option String) : Except Uri.Fault String :=
  (Uri.split text.toList).map fun uri =>
    String.ofList { uri with query := (query.getD "").toList }.join

end SpecLexicon
