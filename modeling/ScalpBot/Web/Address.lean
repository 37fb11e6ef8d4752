import ScalpBot.Web.Domain
import ScalpBot.Web.Percent
import ScalpBot.Text.Digits

/-!
# Web addresses

A `WebAddress` is a URL taken apart into a scheme, who is addressed there, a path, a query and a fragment.
`WebAddress.parse` reads one as browsers do: it forgives stray blanks and backslashes, brings the host into
its normal form and escapes what may not stand in a path or a query. `toText` writes an address.
-/

namespace ScalpBot

/-- Why a text is no address. -/
inductive AddressError where
  | noScheme
  | emptyHost
  | invalidPort
  | invalidIPv4
  | invalidIPv6
  | invalidDomainName
  | invalidHostCharacter
deriving DecidableEq, Repr

/-- The wording of the cause. -/
def AddressError.message : AddressError → String
  | noScheme => "relative URL without a base"
  | emptyHost => "empty host"
  | invalidPort => "invalid port number"
  | invalidIPv4 => "invalid IPv4 address"
  | invalidIPv6 => "invalid IPv6 address"
  | invalidDomainName => "invalid international domain name"
  | invalidHostCharacter => "invalid domain character"

/-- Who is addressed. -/
inductive WebHost where
  /-- A name, as it is looked up. -/
  | name (text : String)
  /-- Four numbers below 256 as one number. -/
  | ipv4 (address : Nat)
  /-- Eight numbers of 16 bits. -/
  | ipv6 (pieces : List Nat)
deriving DecidableEq, Repr

/-- How schemes differ. -/
inductive SchemeKind where
  /-- A scheme whose addresses always have a host. -/
  | special
  /-- The scheme of local files. -/
  | file
  /-- Any other scheme. -/
  | other
deriving DecidableEq, Repr

/-- What follows the host. -/
inductive WebPath where
  /-- A path that is not taken apart. -/
  | flat (text : String)
  /-- The parts of a path, each after a slash. -/
  | segments (parts : List String)
deriving DecidableEq, Repr

/-- An address. -/
structure WebAddress where
  scheme : String
  username : String := ""
  password : String := ""
  host : Option WebHost := none
  /-- The port, where it is not the scheme's own. -/
  port : Option Nat := none
  path : WebPath
  query : Option String := none
  fragment : Option String := none
deriving DecidableEq, Repr

namespace WebAddress

/-! ## Schemes -/

/-- The kind of a scheme. -/
def schemeKind (scheme : String) : SchemeKind :=
  if scheme ∈ ["http", "https", "ws", "wss", "ftp"] then .special
  else if scheme = "file" then .file
  else .other

/-- The port that goes without saying. -/
def defaultPort? (scheme : String) : Option Nat :=
  [("http", 80), ("https", 443), ("ws", 80), ("wss", 443), ("ftp", 21)].lookup scheme

/-- The scheme in lower case, and what follows its colon. -/
def takeScheme (cs : List Char) : Option (String × List Char) :=
  let isPart (c : Char) : Bool := c.isAlphanum || c = '+' || c = '-' || c = '.'
  match cs with
  | c :: _ =>
    if c.isAlpha then
      match cs.dropWhile isPart with
      | ':' :: rest => some (String.ofList ((cs.takeWhile isPart).map Char.toLower), rest)
      | _ => none
    else none
  | [] => none

/-! ## Escaping -/

/-- Escapes controls, characters beyond ASCII, and those of a set. -/
def escapeSet (set : List Char) (cs : List Char) : List Char :=
  cs.flatMap fun c =>
    if c.toNat < 0x20 || 0x7E < c.toNat || c ∈ set then
      (String.utf8EncodeChar c).flatMap Percent.encodeByte
    else [c]

/-- What is escaped in a fragment. -/
def fragmentSet : List Char := [' ', '"', '<', '>', (Char.ofNat 0x60)]

/-- What is escaped in a path. -/
def pathSet : List Char := fragmentSet ++ ['#', '?', '\x7b', '\x7d']

/-- What is escaped in a name or a password. -/
def userSet : List Char := pathSet ++ ['/', ':', ';', '=', '@', '[', '\\', ']', '^', '|']

/-- What is escaped in a query. -/
def querySet (kind : SchemeKind) : List Char :=
  [' ', '"', '#', '<', '>'] ++ (if kind = .other then [] else ['\''])

/-! ## Hosts -/

/-- A number of an address in four numbers: decimal, octal after `0`, hexadecimal after `0x`. -/
def ipv4Number? (cs : List Char) : Option Nat :=
  let value (base : Nat) (digits : List Char) : Option Nat :=
    let ds := digits.map hexValue?
    (ds.mapM id).bind fun ds =>
      if ds.all (· < base) then some (ds.foldl (fun n d => n * base + d) 0) else none
  match cs with
  | [] => none
  | '0' :: 'x' :: rest | '0' :: 'X' :: rest => value 16 rest
  | '0' :: c :: rest => value 8 (c :: rest)
  | cs => value 10 cs

/-- The parts between the points; a point at the end adds none. -/
def pointParts (cs : List Char) : List (List Char) :=
  let parts := cs.splitOn '.'
  if parts.length ≤ 1 || parts.getLast? ≠ some [] then parts else parts.dropLast

/-- Whether the last part is a number, so that the host must be an address in four numbers. -/
def endsInNumber (cs : List Char) : Bool :=
  match (pointParts cs).getLast? with
  | some last => (!last.isEmpty && last.all Char.isDigit) || (ipv4Number? last).isSome
  | none => false

/-- Reads an address in at most four numbers; the last fills all bytes that are left. -/
def parseIPv4 (cs : List Char) : Except AddressError WebHost :=
  let parts := pointParts cs
  match parts.mapM ipv4Number? with
  | none => .error .invalidIPv4
  | some numbers =>
    let first := numbers.dropLast
    let last := numbers.getLastD 0
    if 4 < numbers.length || first.any (255 < ·) || 256 ^ (4 - first.length) ≤ last then
      .error .invalidIPv4
    else
      let high := first.foldl (fun n d => n * 256 + d) 0 * 256 ^ (4 - first.length)
      .ok (.ipv4 (high + last))

/-- The four numbers at the end of an address in eight, as two of its numbers. -/
def ipv4Tail? (cs : List Char) : Option (List Nat) :=
  let number? (digits : List Char) : Option Nat :=
    if digits.isEmpty || !digits.all Char.isDigit || 3 < digits.length then none
    else if 1 < digits.length && digits.head? = some '0' then none
    else if 255 < digitsValue digits then none
    else some (digitsValue digits)
  match (cs.splitOn '.').mapM number? with
  | some [a, b, c, d] => some [a * 256 + b, c * 256 + d]
  | _ => none

/-- Reads the numbers of an address in eight. `read` holds those before, in reverse, and `gap` the
place of the double colon, for which at least one zero stands. -/
def ipv6Pieces : (fuel : Nat) → (read : List Nat) → (gap : Option Nat) → List Char →
    Option (List Nat × Option Nat)
  | _, read, gap, [] => some (read.reverse, gap)
  | 0, _, _, _ => none
  | fuel + 1, read, gap, c :: rest =>
    if read.length = 8 then none
    else if c = ':' then
      if gap.isSome then none
      else ipv6Pieces fuel (0 :: read) (some (read.length + 1)) rest
    else
      let cs := c :: rest
      let digits := (cs.take 4).takeWhile fun c => (hexValue? c).isSome
      let value := digits.foldl (fun n d => n * 16 + (hexValue? d).getD 0) 0
      match cs.drop digits.length with
      | [] => some ((value :: read).reverse, gap)
      | '.' :: _ =>
        if digits.isEmpty || 6 < read.length then none
        else (ipv4Tail? cs).map fun tail => (read.reverse ++ tail, gap)
      | ':' :: rest => if rest.isEmpty then none else ipv6Pieces fuel (value :: read) gap rest
      | _ => none

/-- Reads an address in eight numbers, without its brackets. -/
def parseIPv6 (cs : List Char) : Except AddressError WebHost :=
  let start := match cs with
    | ':' :: ':' :: rest => some ([0], some 1, rest)
    | ':' :: _ => none
    | _ => if cs.length < 2 then none else some ([], none, cs)
  match start with
  | none => .error .invalidIPv6
  | some (read, gap, rest) =>
    match ipv6Pieces (cs.length + 1) read gap rest with
    | some (pieces, some gap) =>
      if 8 < pieces.length then .error .invalidIPv6
      else
        .ok (.ipv6 (pieces.take gap ++ List.replicate (8 - pieces.length) 0 ++ pieces.drop gap))
    | some (pieces, none) =>
      if pieces.length = 8 then .ok (.ipv6 pieces) else .error .invalidIPv6
    | none => .error .invalidIPv6

/-- Reads the host of a special scheme. -/
def parseHost (cs : List Char) : Except AddressError WebHost :=
  match cs with
  | '[' :: rest => if cs.getLast? = some ']' then parseIPv6 rest.dropLast else .error .invalidIPv6
  | _ =>
    match String.fromUTF8? ⟨(Percent.decode cs).toArray⟩ with
    | none => .error .invalidDomainName
    | some text =>
      match Domain.toAscii? text.toList with
      | none => .error .invalidDomainName
      | some [] => .error .emptyHost
      | some name =>
        if endsInNumber name then parseIPv4 name else .ok (.name (String.ofList name))

/-- Reads the host of any other scheme, which is taken as it is. -/
def parseFlatHost (cs : List Char) : Except AddressError WebHost :=
  match cs with
  | '[' :: rest => if cs.getLast? = some ']' then parseIPv6 rest.dropLast else .error .invalidIPv6
  | _ =>
    if cs.any (· ∈ "\x00\t\n\r #/:<>?@[\\]^|".toList) then .error .invalidHostCharacter
    else .ok (.name (String.ofList (escapeSet [] cs)))

/-! ## Authorities -/

/-- Whether a character ends the part of an address that names the host. -/
def endsAuthority (kind : SchemeKind) (c : Char) : Bool :=
  c = '/' || c = '?' || c = '#' || (c = '\\' && kind ≠ .other)

/-- The name and the password before the last `@`, and what follows it. -/
def takeUser (kind : SchemeKind) (cs : List Char) :
    Except AddressError (Option (List Char × List Char) × List Char) :=
  let authority := cs.takeWhile (!endsAuthority kind ·)
  let tail := (authority.reverse.takeWhile (· ≠ '@')).reverse
  if tail.length = authority.length then .ok (none, cs)
  else
    let user := authority.take (authority.length - tail.length - 1)
    let rest := cs.drop (authority.length - tail.length)
    if user.isEmpty && tail.isEmpty && !rest.isEmpty then .error .emptyHost
    else .ok (some (user.takeWhile (· ≠ ':'), (user.dropWhile (· ≠ ':')).drop 1), rest)

/-- The text of the host: up to a colon that stands in no brackets. -/
def hostText (kind : SchemeKind) : (inBrackets : Bool) → List Char → List Char
  | _, [] => []
  | inBrackets, c :: rest =>
    if endsAuthority kind c || (c = ':' && !inBrackets) then []
    else c :: hostText kind (if c = '[' then true else if c = ']' then false else inBrackets) rest

/-- The port after its colon, where it is not the scheme's own, and what follows it. -/
def takePort (scheme : String) (cs : List Char) : Except AddressError (Option Nat × List Char) :=
  let digits := cs.takeWhile Char.isDigit
  let rest := cs.dropWhile Char.isDigit
  let endsHere := match rest with
    | c :: _ => c = '/' || c = '\\' || c = '?' || c = '#'
    | [] => true
  let port := digitsValue digits
  if 65535 < port || !endsHere then .error .invalidPort
  else if digits.isEmpty || defaultPort? scheme = some port then .ok (none, rest)
  else .ok (some port, rest)

/-- Reads the host and the port, and gives what follows them. -/
def takeHost (scheme : String) (kind : SchemeKind) (cs : List Char) :
    Except AddressError (Option WebHost × Option Nat × List Char) := do
  let text := hostText kind false cs
  let rest := cs.drop text.length
  if text.isEmpty && (kind ≠ .other || rest.head? = some ':') then .error .emptyHost
  let host ← if text.isEmpty then pure none
    else some <$> if kind = .other then parseFlatHost text else parseHost text
  match rest with
  | ':' :: rest => do
    let (port, rest) ← takePort scheme rest
    return (host, port, rest)
  | _ => return (host, none, rest)

/-! ## Paths -/

/-- A part that stands for the part itself. -/
def isSingleDot (part : List Char) : Bool :=
  part.map Char.toLower ∈ [".", "%2e"].map String.toList

/-- A part that stands for the part above. -/
def isDoubleDot (part : List Char) : Bool :=
  part.map Char.toLower ∈ ["..", ".%2e", "%2e.", "%2e%2e"].map String.toList

/-- The name of a drive, such as `C:`. -/
def isDrive (part : List Char) : Bool :=
  match part with
  | [letter, mark] => letter.isAlpha && (mark = ':' || mark = '|')
  | _ => false

/-- The path without its last part; a drive in front stays. -/
def shorten (kind : SchemeKind) (parts : List (List Char)) : List (List Char) :=
  match kind, parts with
  | .file, [part] => if isDrive part && part.getLast? = some ':' then [part] else []
  | _, parts => parts.dropLast

/-- A path under construction, and whether it begins with a drive. -/
structure PathDraft where
  parts : List (List Char) := []
  hasDrive : Bool := false

/-- Adds the parts of a path one by one. -/
def addParts (kind : SchemeKind) (d : PathDraft) : List (List Char) → PathDraft
  | [] => d
  | part :: rest =>
    let isLast := rest.isEmpty
    let close (parts : List (List Char)) : List (List Char) :=
      if isLast then parts ++ [[]] else parts
    if isDoubleDot part then
      addParts kind { d with parts := close (shorten kind d.parts) } rest
    else if isSingleDot part then addParts kind { d with parts := close d.parts } rest
    else if kind = .file && d.parts.isEmpty && isDrive part then
      addParts kind ⟨[part.take 1 ++ [':']], true⟩ rest
    else addParts kind { d with parts := d.parts ++ [escapeSet pathSet part] } rest

/-- The parts between slashes; backslashes are slashes but in other schemes. -/
def splitPath (kind : SchemeKind) (cs : List Char) : List (List Char) :=
  (cs.map fun c => if c = '\\' && kind ≠ .other then '/' else c).splitOn '/'

/-- Reads a path that follows a host or a scheme. -/
def readPath (kind : SchemeKind) (cs : List Char) : PathDraft :=
  let isSlash (c : Char) : Bool := c = '/' || (c = '\\' && kind ≠ .other)
  match cs with
  | [] => if kind = .other then {} else addParts kind {} [[]]
  | c :: rest => addParts kind {} (splitPath kind (if isSlash c then rest else c :: rest))

/-! ## Reading -/

/-- The part before a query or a fragment. -/
def beforeQuery (cs : List Char) : List Char := cs.takeWhile fun c => c ≠ '?' && c ≠ '#'

/-- The query and the fragment of what follows a path. -/
def takeQuery (kind : SchemeKind) (cs : List Char) : Option String × Option String :=
  let fragment? := match cs.dropWhile (· ≠ '#') with
    | '#' :: rest => some (String.ofList (escapeSet fragmentSet rest))
    | _ => none
  match cs with
  | '?' :: rest =>
    let query := rest.takeWhile (· ≠ '#')
    (some (String.ofList (escapeSet (querySet kind) query)), fragment?)
  | _ => (none, fragment?)

/-- The address with the path and all that follows it. -/
def finish (a : WebAddress) (kind : SchemeKind) (cs : List Char) : WebAddress :=
  let path := readPath kind (beforeQuery cs)
  let (query, fragment) := takeQuery kind (cs.drop (beforeQuery cs).length)
  { a with
    host := if kind = .file && path.hasDrive then none else a.host
    path := .segments (path.parts.map String.ofList), query := query, fragment := fragment }

/-- Reads what follows the double slash. -/
def afterSlashes (scheme : String) (kind : SchemeKind) (cs : List Char) :
    Except AddressError WebAddress := do
  let (user?, rest) ← takeUser kind cs
  let (username, password) := user?.getD ([], [])
  let (host, port, rest) ← takeHost scheme kind rest
  if host.isNone && !(username.isEmpty && password.isEmpty) then .error .emptyHost
  let text (cs : List Char) : String := String.ofList (escapeSet userSet cs)
  let address : WebAddress :=
    { scheme := scheme, username := text username, password := text password, host := host,
      port := port, path := .segments [] }
  return finish address kind rest

/-- Reads what follows `file:`. -/
def afterFile (cs : List Char) : Except AddressError WebAddress := do
  let isSlash (c : Char) : Bool := c = '/' || c = '\\'
  let start (host : Option WebHost) : WebAddress :=
    { scheme := "file", host := host, path := .segments [] }
  let plain (rest : List Char) : WebAddress := finish (start none) .file rest
  match cs with
  | a :: b :: rest =>
    if isSlash a && isSlash b then
      let text := rest.takeWhile (!endsAuthority .file ·)
      if text.isEmpty || isDrive text then return plain rest
      let host ← parseHost text
      let host := if host = .name "localhost" then none else some host
      return finish (start host) .file (rest.drop text.length)
    else return plain cs
  | _ => return plain cs

/-- Reads what follows a scheme that is neither special nor that of files. -/
def afterOther (scheme : String) (cs : List Char) : Except AddressError WebAddress :=
  match cs with
  | '/' :: '/' :: rest => afterSlashes scheme .other rest
  | '/' :: _ => .ok (finish { scheme := scheme, path := .segments [] } .other cs)
  | _ =>
    let (query, fragment) := takeQuery .other (cs.drop (beforeQuery cs).length)
    .ok { scheme := scheme, path := .flat (String.ofList (escapeSet [] (beforeQuery cs))),
          query := query, fragment := fragment }

/-- Reads an address. Controls and blanks at either end, and tabs and line ends anywhere, do not
count. -/
def parse (text : String) : Except AddressError WebAddress :=
  let isEdge (c : Char) : Bool := c.toNat ≤ 0x20
  let cs := ((text.toList.dropWhile isEdge).reverse.dropWhile isEdge).reverse
  let cs := cs.filter fun c => c ≠ '\t' && c ≠ '\n' && c ≠ '\r'
  match takeScheme cs with
  | none => .error .noScheme
  | some (scheme, rest) =>
    match schemeKind scheme with
    | .special => afterSlashes scheme .special (rest.dropWhile fun c => c = '/' || c = '\\')
    | .file => afterFile rest
    | .other => afterOther scheme rest

end WebAddress

/-! ## Writing -/

namespace WebHost

/-- The longest run of at least two zeros: its place and length. The first of two counts. -/
def zeroRun (pieces : List Nat) : Option (Nat × Nat) :=
  let runs := (List.range pieces.length).map fun i =>
    (i, ((pieces.drop i).takeWhile (· = 0)).length)
  runs.foldl (fun best run =>
    let longest := match best with
      | some b => b.2
      | none => 1
    if longest < run.2 then some run else best) none

/-- The numbers in hexadecimal digits, with colons between them. -/
def pieceText (pieces : List Nat) : String :=
  ":".intercalate (pieces.map fun n => String.ofList (Nat.toDigits 16 n))

/-- The text of a host. -/
def toText : WebHost → String
  | name text => text
  | ipv4 address =>
    ".".intercalate ([24, 16, 8, 0].map fun shift => toString (address / 2 ^ shift % 256))
  | ipv6 pieces =>
    let text := match zeroRun pieces with
      | some (place, length) =>
        pieceText (pieces.take place) ++ "::" ++ pieceText (pieces.drop (place + length))
      | none => pieceText pieces
    "[" ++ text ++ "]"

end WebHost

namespace WebAddress

/-- The host with the port, where it is not the scheme's own. -/
def hostAndPort? (a : WebAddress) : Option String :=
  a.host.map fun host =>
    match a.port with
    | some port => host.toText ++ ":" ++ toString port
    | none => host.toText

/-- The text of a path. -/
def pathText (a : WebAddress) : String :=
  match a.path with
  | .flat text => text
  | .segments parts => String.join (parts.map fun part => "/" ++ part)

/-- What a request asks for: the path and the query. -/
def target (a : WebAddress) : String :=
  a.pathText ++ (match a.query with
    | some query => "?" ++ query
    | none => "")

/-- The text of an address. -/
def toText (a : WebAddress) : String :=
  let user :=
    if a.username.isEmpty && a.password.isEmpty then ""
    else
      a.username ++ (if a.password.isEmpty then "" else ":" ++ a.password) ++ "@"
  let authority := match a.hostAndPort? with
    | some host => "//" ++ user ++ host
    | none => if schemeKind a.scheme = .file then "//" else ""
  let fragment := match a.fragment with
    | some fragment => "#" ++ fragment
    | none => ""
  a.scheme ++ ":" ++ authority ++ a.target ++ fragment

end WebAddress

end ScalpBot
