import PageAudit.Url.Basic
/-!
Reading addresses, with the tolerance of browsers: blanks around an address and line breaks
in it are dropped, an address of the web may have any number of slashes of either kind before
its host, and what has to be escaped is escaped. Every reader below is given the text without
its query and fragment, which are cut off first.
-/
namespace PageAudit.Url

/-! ### Cutting a text into parts -/

def isEdge (c : Char) : Bool := c.toNat ≤ 32

/-- The text without controls and blanks around it, and without tabs and line breaks. -/
def cleaned (cs : List Char) : List Char :=
  (((cs.dropWhile isEdge).reverse.dropWhile isEdge).reverse).filter fun c =>
    !(c == '\t' || c == '\n' || c == '\r')

/-- The text before the first of a character, and the text after it. -/
def cut (mark : Char) (cs : List Char) : List Char × Option (List Char) :=
  match cs.dropWhile (· != mark) with
  | _ :: rest => (cs.takeWhile (· != mark), some rest)
  | [] => (cs, none)

/-- A text with its query and its fragment cut off. -/
structure Parts where
  main : List Char
  query : Option (List Char)
  fragment : Option (List Char)

def Parts.ofText (cs : List Char) : Parts :=
  let (cs, fragment) := cut '#' cs
  let (main, query) := cut '?' cs
  ⟨main, query, fragment⟩

/-- The scheme of a text, in lower case, and what follows its colon. -/
def scheme? (cs : List Char) : Option (String × List Char) :=
  let isSchemeChar (c : Char) := c.isAlphanum || c == '+' || c == '-' || c == '.'
  match cs, cs.dropWhile isSchemeChar with
  | c :: _, ':' :: rest =>
    if c.isAlpha then some ((String.ofList (cs.takeWhile isSchemeChar)).toLower, rest) else none
  | _, _ => none

def isSlash (scheme : String) (c : Char) : Bool := c == '/' || (isSpecial scheme && c == '\\')

/-! ### Paths -/

/-- Segments that stand for the directory they are in. -/
def isHere (segment : List Char) : Bool :=
  ["." , "%2e"].contains (String.ofList segment).toLower

/-- Segments that stand for the directory above. -/
def isAbove (segment : List Char) : Bool :=
  ["..", ".%2e", "%2e.", "%2e%2e"].contains (String.ofList segment).toLower

/-- A letter with a colon or a bar, which names a disk. -/
def isDrive : List Char → Bool
  | [letter, mark] => letter.isAlpha && (mark == ':' || mark == '|')
  | _ => false

/-- The path without its last segment, which stays if it names the disk of a file. -/
def parent (scheme : String) (path : List String) : List String :=
  match path with
  | [only] => if scheme = "file" && isDrive only.toList then path else []
  | _ => path.dropLast

/-- The path with a further segment; the last one stays in view even if it names no file. -/
def addSegment (scheme : String) (path : List String) (segment : List Char) (isLast : Bool) :
    List String :=
  if isAbove segment then parent scheme path ++ (if isLast then [""] else [])
  else if isHere segment then path ++ (if isLast then [""] else [])
  else
    let segment := match scheme = "file" && path.isEmpty && isDrive segment, segment with
      | true, letter :: _ => [letter, ':']
      | _, _ => segment
    path ++ [String.ofList (Percent.encode Percent.inPath segment)]

/-- The path that further segments make of a path. -/
def addSegments (scheme : String) (path : List String) : List (List Char) → List String
  | [] => path
  | [last] => addSegment scheme path last true
  | segment :: rest => addSegments scheme (addSegment scheme path segment false) rest

/-- The path that a text makes of a path. -/
def resolvePath (scheme : String) (path : List String) (cs : List Char) : List String :=
  addSegments scheme path (Text.splitAll (isSlash scheme) cs)

/-- The path of an address with a host. -/
def hostPath (scheme : String) (cs : List Char) : Path :=
  match cs with
  | [] => .segments (if isSpecial scheme then [""] else [])
  | _ :: rest => .segments (resolvePath scheme [] rest)

/-! ### What stands before the path -/

/-- An address without any of its parts. -/
def empty (scheme : String) : Url := ⟨scheme, "", "", none, none, .segments [], none, none⟩

def encodedQuery (scheme : String) (cs : List Char) : String :=
  String.ofList (Percent.encode (Percent.inQuery (isSpecial scheme)) cs)

/-- The address with the query and the fragment of a text. -/
def withTail (u : Url) (p : Parts) : Url :=
  { u with
    query := p.query.map (encodedQuery u.scheme)
    fragment := p.fragment.map fun cs => String.ofList (Percent.encode Percent.inFragment cs) }

/-- The text before the last at sign, if there is one, and the text after it. -/
def cutUser (cs : List Char) : Option (List Char) × List Char :=
  match cs.reverse.dropWhile (· != '@') with
  | _ :: front => (some front.reverse, cs.drop (front.length + 1))
  | [] => (none, cs)

/-- The host before the port, and the port with its colon; colons in brackets do not count. -/
def cutPort (inBrackets : Bool) : List Char → List Char × List Char
  | [] => ([], [])
  | c :: rest =>
    if c == ':' && !inBrackets then ([], c :: rest)
    else
      let (host, port) := cutPort (if c == '[' then true else if c == ']' then false
        else inBrackets) rest
      (c :: host, port)

/-- A port with its colon; the inner option is empty for the usual port of the scheme. -/
def port? (scheme : String) : List Char → Option (Option Nat)
  | _ :: digits@(_ :: _) => do
    let n ← (Decimal.digits? digits).filter (· < 65536)
    return if usualPort? scheme = some n then none else some n
  | _ => some none

/-- The address of a host with what stands around it, and a path. -/
def ofAuthority? (scheme : String) (cs : List Char) : Option Url := do
  let isEnd := isSlash scheme
  let (user, rest) := cutUser (cs.takeWhile (!isEnd ·))
  let (host, port) := cutPort false rest
  let host ← if isWeb scheme then Host.ofWeb? host else Host.ofOther? host
  if host.text.isEmpty && (user.isSome || !port.isEmpty) then none
  let port ← port? scheme port
  let (name, password) := cut ':' (user.getD [])
  let encoded (part : List Char) := String.ofList (Percent.encode Percent.inUserinfo part)
  return { empty scheme with
    username := encoded name
    password := encoded (password.getD [])
    host := some host
    port := port
    path := hostPath scheme (cs.dropWhile (!isEnd ·)) }

/-- The address of a file, with two slashes before its host. -/
def ofFileHost? (cs : List Char) : Option Url := do
  let hostText := cs.takeWhile (!isSlash "file" ·)
  let rest := cs.drop hostText.length
  if isDrive hostText then
    return { empty "file" with
      host := some (.name ""), path := .segments (resolvePath "file" [] cs) }
  let host ← if hostText.isEmpty then some (.name "") else Host.ofWeb? hostText
  let path := resolvePath "file" [] (rest.drop 1)
  let isLocal := host = .name "localhost" || (path.head?.map fun s => isDrive s.toList) == some true
  return { empty "file" with host := some (if isLocal then .name "" else host), path := .segments path }

/-- The address of a file. -/
def ofFile? (cs : List Char) : Option Url :=
  let isFileSlash := isSlash "file"
  match cs with
  | a :: b :: rest =>
    if isFileSlash a && isFileSlash b then ofFileHost? rest
    else some { empty "file" with
      host := some (.name "")
      path := .segments (resolvePath "file" [] (if isFileSlash a then b :: rest else cs)) }
  | _ => some { empty "file" with
      host := some (.name "")
      path := .segments (resolvePath "file" [] (cs.dropWhile isFileSlash)) }

/-- The address that follows a scheme. -/
def ofScheme? (scheme : String) (cs : List Char) : Option Url :=
  if scheme = "file" then ofFile? cs
  else if isWeb scheme then ofAuthority? scheme (cs.dropWhile (isSlash scheme))
  else match cs with
    | '/' :: '/' :: rest => ofAuthority? scheme rest
    | '/' :: rest => some { empty scheme with path := .segments (resolvePath scheme [] rest) }
    | _ => some { empty scheme with
        path := .bare (String.ofList (Percent.encode Percent.isControl cs)) }

/-! ### Whole addresses -/

/-- The address that a text denotes. -/
def parse? (text : String) : Option Url := do
  let (scheme, rest) ← scheme? (cleaned text.toList)
  let parts := Parts.ofText rest
  return (← ofScheme? scheme parts.main).withTail parts

/-- The address that a reference without a scheme denotes on a page of the web. -/
def resolveParts? (page : Url) (p : Parts) : Option Url :=
  let isEnd := isSlash page.scheme
  let slashes := (p.main.takeWhile isEnd).length
  let here := match page.path with
    | .segments list => list
    | .bare _ => []
  if 2 ≤ slashes then do
    return (← ofAuthority? page.scheme (p.main.drop slashes)).withTail p
  else if slashes = 1 then
    some ({ page with path := .segments (resolvePath page.scheme [] (p.main.drop 1)) }.withTail p)
  else if p.main.isEmpty then
    let tailed := page.withTail p
    some (if p.query.isSome then tailed else { tailed with query := page.query })
  else
    some ({ page with path := .segments (resolvePath page.scheme (parent page.scheme here) p.main) }
      |>.withTail p)

/-- The address that a reference on a page of the web denotes. -/
def resolve? (page : Url) (reference : String) : Option Url :=
  let cs := cleaned reference.toList
  match scheme? cs with
  | some (scheme, rest) =>
    let parts := Parts.ofText rest
    if scheme = page.scheme && (parts.main.takeWhile (isSlash scheme)).length < 2 then
      page.resolveParts? parts
    else do return (← ofScheme? scheme parts.main).withTail parts
  | none => page.resolveParts? (Parts.ofText cs)

end PageAudit.Url
