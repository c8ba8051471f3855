import PageAudit.Html.Token
import PageAudit.Html.Token.Comment
import PageAudit.Html.Reference
/-!
Reading document type declarations. A declaration that breaks off or goes astray still
counts, and forces the document into quirks mode.
-/
namespace PageAudit.Html.Doctype

def isSpace (c : Char) : Bool := c == '\t' || c == '\n' || c == '\x0c' || c == ' '

def skipSpace (cs : List Char) : List Char := cs.dropWhile isSpace

theorem skipSpace_length (cs : List Char) : (skipSpace cs).length ≤ cs.length :=
  (List.dropWhile_sublist _).length_le

def clean (c : Char) : Char := if c.toNat = 0 then Reference.replacement else c

/-- A declaration broken off by the end of the text or by a greater-than sign. -/
def broken (d : Doctype) (rest : List Char) : Doctype × List Char :=
  ({ d with forceQuirks := true }, rest)

/-- A declaration with something in it that does not belong there. -/
def astray (d : Doctype) (cs : List Char) : Doctype × List Char :=
  broken d (Comment.afterGreater cs)

/-- An identifier up to its closing quote, and the rest after the quote if there is one. -/
def quoted (quote : Char) (cs : List Char) : String × Option (List Char) :=
  let body := cs.takeWhile fun c => c != quote && c != '>'
  let id := String.ofList (body.map clean)
  match cs.drop body.length with
  | c :: rest => if c == quote then (id, some rest) else (id, none)
  | [] => (id, none)

/-- The text where an identifier that was not closed ends the declaration. -/
def unclosedRest (quote : Char) (cs : List Char) : List Char :=
  (cs.dropWhile fun c => c != quote && c != '>').drop 1

/-- What follows the system identifier. -/
def afterSystem (d : Doctype) (cs : List Char) : Doctype × List Char :=
  match skipSpace cs with
  | [] => broken d []
  | '>' :: rest => (d, rest)
  | cs => (d, Comment.afterGreater cs)

/-- The system identifier, whose opening quote is read. -/
def readSystemId (d : Doctype) (quote : Char) (cs : List Char) : Doctype × List Char :=
  let (id, rest) := quoted quote cs
  let d := { d with systemId := some id }
  match rest with
  | some rest => afterSystem d rest
  | none => broken d (unclosedRest quote cs)

/-- What follows the public identifier. -/
def afterPublic (d : Doctype) (cs : List Char) : Doctype × List Char :=
  match skipSpace cs with
  | [] => broken d []
  | '>' :: rest => (d, rest)
  | '"' :: rest => readSystemId d '"' rest
  | '\'' :: rest => readSystemId d '\'' rest
  | cs => astray d cs

/-- The public identifier, whose opening quote is read. -/
def readPublicId (d : Doctype) (quote : Char) (cs : List Char) : Doctype × List Char :=
  let (id, rest) := quoted quote cs
  let d := { d with publicId := some id }
  match rest with
  | some rest => afterPublic d rest
  | none => broken d (unclosedRest quote cs)

/-- What follows the word that announces an identifier. -/
def announced (read : Doctype → Char → List Char → Doctype × List Char) (d : Doctype)
    (cs : List Char) : Doctype × List Char :=
  match skipSpace cs with
  | [] => broken d []
  | '>' :: rest => broken d rest
  | '"' :: rest => read d '"' rest
  | '\'' :: rest => read d '\'' rest
  | cs => astray d cs

/-- The text starts with a word, in any case. -/
def hasWord (word cs : List Char) : Bool := word == (cs.take word.length).map Char.toLower

/-- What follows the name. -/
def afterName (d : Doctype) (cs : List Char) : Doctype × List Char :=
  match skipSpace cs with
  | [] => broken d []
  | '>' :: rest => (d, rest)
  | cs =>
    if hasWord "public".toList cs then announced readPublicId d (cs.drop 6)
    else if hasWord "system".toList cs then announced readSystemId d (cs.drop 6)
    else astray d cs

/-- The declaration after its first word. -/
def read (cs : List Char) : Doctype × List Char :=
  let d : Doctype := ⟨none, none, none, false⟩
  match skipSpace cs with
  | [] => broken d []
  | '>' :: rest => broken d rest
  | cs =>
    let name := cs.takeWhile fun c => !isSpace c && c != '>'
    let d := { d with name := some (String.ofList (name.map fun c => (clean c).toLower)) }
    afterName d (cs.drop name.length)

end PageAudit.Html.Doctype
