import PageAudit.Html.Token.TagReader
/-!
From characters to tokens. `Lexer.next` reads what stands in front of a text and answers
its tokens, the rest, and the content that is expected after it. What a character may
spell depends on the element it is in, so the lexer is asked again after every token.
-/
namespace PageAudit.Html

/-- The text as documents are read: a byte order mark in front is dropped, and every line
end is a line feed. -/
def unifyLineEnds : List Char → List Char
  | '\r' :: '\n' :: rest => '\n' :: unifyLineEnds rest
  | '\r' :: rest => '\n' :: unifyLineEnds rest
  | c :: rest => c :: unifyLineEnds rest
  | [] => []

def prepareText : List Char → List Char
  | '\uFEFF' :: rest => unifyLineEnds rest
  | cs => unifyLineEnds cs

/-- What the lexer carries from token to token. -/
structure Lexer where
  content : Content
  /-- Name of the last start tag, the only one whose end tag closes raw content. -/
  lastStart : String
  /-- Whether the text is inside an element of a foreign vocabulary. -/
  foreign : Bool

/-- Tokens in front of a text, the rest of it, and the content after them. -/
structure Scan where
  tokens : List Token
  rest : List Char
  content : Content

namespace Lexer

open Tag (endsName)

/-- Characters that stand for themselves. -/
def literally (cs : List Char) : List Token := cs.map .character

/-- A reference, or the ampersand alone. -/
def reference (content : Content) (cs : List Char) : Scan :=
  match Reference.read? false cs with
  | some r => ⟨(if r.sound then [] else [.flaw]) ++ literally r.meaning, cs.drop r.length, content⟩
  | none => ⟨[.character '&'], cs, content⟩

/-- A start tag, after its less-than sign. -/
def startTag (cs : List Char) : Scan :=
  match Tag.read? cs with
  | some (t, rest) => ⟨[.startTag t], rest, .markup⟩
  | none => ⟨[], [], .markup⟩

/-- An end tag, after its solidus. -/
def endTag (cs : List Char) : Scan :=
  match Tag.read? cs with
  | some (t, rest) => ⟨[.endTag t.name], rest, .markup⟩
  | none => ⟨[], [], .markup⟩

/-! ### Markup -/

/-- The characters of a marked section up to its end, in reverse after those given. -/
def markedSection (read : List Char) : List Char → List Char × List Char
  | ']' :: ']' :: '>' :: rest => (read, rest)
  | c :: rest => markedSection (c :: read) rest
  | [] => (read, [])

/-- A declaration, after its exclamation mark. -/
def declaration (foreign : Bool) (cs : List Char) : Scan :=
  match cs with
  | '-' :: '-' :: rest => ⟨[.comment], Comment.rest .opened rest, .markup⟩
  | _ =>
    if Doctype.hasWord "doctype".toList cs then
      let (d, rest) := Doctype.read (cs.drop 7)
      ⟨[.doctype d], rest, .markup⟩
    else if foreign && "[CDATA[".toList.isPrefixOf cs then
      let (body, rest) := markedSection [] (cs.drop 7)
      ⟨literally body.reverse, rest, .markup⟩
    else ⟨[.comment], Comment.afterGreater cs, .markup⟩

/-- What a less-than sign begins. -/
def markup (foreign : Bool) (cs : List Char) : Scan :=
  match cs with
  | '!' :: rest => declaration foreign rest
  | '/' :: '>' :: rest => ⟨[.flaw], rest, .markup⟩
  | '/' :: c :: rest =>
    if c.isAlpha then endTag (c :: rest)
    else ⟨[.comment], Comment.afterGreater (c :: rest), .markup⟩
  | '?' :: rest => ⟨[.comment], Comment.afterGreater rest, .markup⟩
  | c :: _ => if c.isAlpha then startTag cs else ⟨[.character '<'], cs, .markup⟩
  | [] => ⟨[.character '<'], [], .markup⟩

/-! ### Scripts -/

/-- The state after a hyphen or another character that is not a less-than sign. -/
def hyphenState (s : ScriptState) (c : Char) : ScriptState :=
  match s, c with
  | .escaped n, '-' => .escaped (n + 1)
  | .escaped n, '>' => if 2 ≤ n then .plain else .escaped 0
  | .escaped _, _ => .escaped 0
  | .doubleEscaped n, '-' => .doubleEscaped (n + 1)
  | .doubleEscaped n, '>' => if 2 ≤ n then .plain else .doubleEscaped 0
  | .doubleEscaped _, _ => .doubleEscaped 0
  | .plain, _ => .plain

/-- The text spells the word `script`, in any case, and a character that ends a name. -/
def scriptWord? (cs : List Char) : Option (List Char × List Char) :=
  let letters := cs.takeWhile Char.isAlpha
  match cs.drop letters.length with
  | c :: rest =>
    if letters.map Char.toLower == "script".toList && endsName c then
      some (letters ++ [c], rest)
    else none
  | [] => none

/-- A less-than sign in a script, after the sign. -/
def scriptLess (name : String) (s : ScriptState) (cs : List Char) : Scan :=
  let alone (s : ScriptState) : Scan := ⟨[.character '<'], cs, .script s⟩
  match s, cs with
  | .doubleEscaped _, '/' :: rest =>
    match scriptWord? rest with
    | some (word, rest) => ⟨literally ('<' :: '/' :: word), rest, .script (.escaped 0)⟩
    | none => alone (.doubleEscaped 0)
  | .doubleEscaped _, _ => alone (.doubleEscaped 0)
  | .plain, '!' :: '-' :: '-' :: rest =>
    ⟨literally ['<', '!', '-', '-'], rest, .script (.escaped 2)⟩
  | .plain, '/' :: rest => if Tag.closes name rest then endTag rest else alone .plain
  | .plain, _ => alone .plain
  | .escaped _, '/' :: rest => if Tag.closes name rest then endTag rest else alone (.escaped 0)
  | .escaped _, _ =>
    match scriptWord? cs with
    | some (word, rest) => ⟨literally ('<' :: word), rest, .script (.doubleEscaped 0)⟩
    | none => alone (.escaped 0)

/-! ### One scan -/

/-- A character outside markup, where the null character has no place. -/
def cleanCharacter (c : Char) : Token := .character (Doctype.clean c)

/-- The tokens in front of a text that is not empty. -/
def next (lx : Lexer) (c : Char) (cs : List Char) : Scan :=
  match lx.content with
  | .markup =>
    if c == '&' then reference .markup cs
    else if c == '<' then markup lx.foreign cs
    else ⟨[.character c], cs, .markup⟩
  | .referencesOnly =>
    if c == '&' then reference .referencesOnly cs
    else match c, cs with
      | '<', '/' :: rest =>
        if Tag.closes lx.lastStart rest then endTag rest
        else ⟨[.character '<'], cs, .referencesOnly⟩
      | c, cs => ⟨[cleanCharacter c], cs, .referencesOnly⟩
  | .raw =>
    match c, cs with
    | '<', '/' :: rest =>
      if Tag.closes lx.lastStart rest then endTag rest else ⟨[.character '<'], cs, .raw⟩
    | c, cs => ⟨[cleanCharacter c], cs, .raw⟩
  | .script s =>
    if c == '<' then scriptLess lx.lastStart s cs
    else ⟨[cleanCharacter c], cs, .script (hyphenState s c)⟩
  | .plain => ⟨[cleanCharacter c], cs, .plain⟩

end Lexer

end PageAudit.Html
