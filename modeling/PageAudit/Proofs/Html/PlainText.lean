import PageAudit.Html.Document
/-!
Documents of plain text. Without a less-than sign a text spells characters only (`next_characters`), and
these never open an element by themselves: the first that is not white space opens the root, the head and the
body at once, and from then on all go into one text in the body (`Filling`). If there is none, the end of the
text opens the three. So every plain text has the same three elements (`parse_plain`).
-/
namespace PageAudit.Html

/-- A text without a less-than sign. -/
def IsPlain (cs : List Char) : Prop := '<' ∉ cs

/-! ### Characters -/

theorem mem_unifyLineEnds {c : Char} {cs : List Char} (h : c ∈ unifyLineEnds cs) : c = '\n' ∨ c ∈ cs := by
  fun_induction unifyLineEnds cs with
  | case1 rest ih => grind
  | case2 rest _ ih => grind
  | case3 d rest _ _ ih => grind
  | case4 => cases h

/-- Nothing that is done to a text before it is read makes a tag of it. -/
theorem IsPlain.prepareText {cs : List Char} (h : IsPlain cs) : IsPlain (prepareText cs) := by
  intro hmem
  unfold Html.prepareText at hmem
  split at hmem
  · exact h (List.mem_cons_of_mem _ ((mem_unifyLineEnds hmem).resolve_left (by decide)))
  · exact h ((mem_unifyLineEnds hmem).resolve_left (by decide))

/-! ### Tokens -/

/-- Tokens that plain text spells. -/
inductive Token.IsPlain : Token → Prop
  | flaw : IsPlain .flaw
  | character (c : Char) : IsPlain (.character c)

/-- A scan in front of a text that spells nothing but characters. -/
structure Scan.IsPlain (scan : Scan) (cs : List Char) : Prop where
  tokens : ∀ t ∈ scan.tokens, t.IsPlain
  rest : scan.rest <:+ cs
  content : scan.content = .markup

namespace Lexer

theorem isPlain_literally {cs : List Char} {t : Token} (h : t ∈ literally cs) : t.IsPlain := by
  obtain ⟨c, -, rfl⟩ := List.mem_map.mp h
  exact .character c

/-- An ampersand stands for characters, whatever reference it begins. -/
theorem reference_isPlain (cs : List Char) : (reference .markup cs).IsPlain cs := by
  unfold reference
  split
  · next r _ =>
    refine ⟨fun t ht => ?_, List.drop_suffix .., rfl⟩
    obtain ht | ht := List.mem_append.mp ht
    · split at ht
      · cases ht
      · obtain rfl := List.mem_singleton.mp ht
        exact .flaw
    · exact isPlain_literally ht
  · exact ⟨List.forall_mem_singleton.mpr (.character _), List.suffix_refl _, rfl⟩

theorem next_isPlain {c : Char} (hc : c ≠ '<') (cs : List Char) (last : String) (foreign : Bool) :
    (next ⟨.markup, last, foreign⟩ c cs).IsPlain cs := by
  simp only [next, beq_iff_eq, if_neg hc]
  split
  · exact reference_isPlain cs
  · exact ⟨List.forall_mem_singleton.mpr (.character c), List.suffix_refl _, rfl⟩

end Lexer

/-! ### Nodes -/

/-- The nodes of a document of plain text: the root, the head, the body, and the text of the body if it has
any. -/
def plainArena : Option String → Arena
  | none => #[
    ⟨.document, none, #[1]⟩,
    ⟨.element (.html "html") [], some 0, #[2, 3]⟩,
    ⟨.element (.html "head") [], some 1, #[]⟩,
    ⟨.element (.html "body") [], some 1, #[]⟩]
  | some s => #[
    ⟨.document, none, #[1]⟩,
    ⟨.element (.html "html") [], some 0, #[2, 3]⟩,
    ⟨.element (.html "head") [], some 1, #[]⟩,
    ⟨.element (.html "body") [], some 1, #[4]⟩,
    ⟨.text s, some 3, #[]⟩]

/-- The root of a document of plain text. -/
def plainRoot (text : Option String) : Node :=
  .element ⟨0, "html", []⟩
    [.element ⟨1, "head", []⟩ [], .element ⟨2, "body", []⟩ (text.toList.map .text)]

theorem appendText_plainArena (text : Option String) (c : Char) :
    (plainArena text).appendText 3 c = plainArena (some ((text.getD "").push c)) := by
  cases text <;> rfl

theorem rootOf_plainArena (text : Option String) : Document.rootOf (plainArena text) = plainRoot text := by
  cases text <;>
    simp [Document.rootOf, plainArena, plainRoot, Arena.children, Arena.trees, Arena.tree, ElementName.html]

/-! ### Tree construction -/

namespace Builder

/-- The body is open, with nothing but text in it. -/
structure Filling (b : Builder) : Prop where
  arena : ∃ text, b.arena = plainArena text
  stack : b.stack = [⟨3, .html "body"⟩, ⟨1, .html "html"⟩]
  formatting : b.formatting = []
  mode : b.mode = .inBody
  templateModes : b.templateModes = []
  fostering : b.fostering = false
  request : b.request = none

/-- Tokens that open the body: characters other than white space, and the end of the text. -/
inductive OpensBody : Token → Prop
  | character {c : Char} (h : isSpaceChar c = false) : OpensBody (.character c)
  | endOfText : OpensBody .endOfText

/-- The builder after the body was opened without a tag. -/
def opened : Builder :=
  { start with
    arena := plainArena none
    stack := [⟨3, .html "body"⟩, ⟨1, .html "html"⟩]
    mode := .inBody
    head := some 2
    quirks := true }

theorem filling_opened : Filling opened := ⟨⟨none, rfl⟩, rfl, rfl, rfl, rfl, rfl, rfl⟩

theorem step_eq_modeStep {b : Builder} (h : b.insideForeign = false) (t : Token) : b.step t = b.modeStep t := by
  have hforeign : b.isForeign t = false := by
    unfold insideForeign at h
    unfold isForeign
    cases hstack : b.stack with
    | nil => rfl
    | cons o outer =>
      rw [hstack] at h
      exact Bool.and_eq_false_imp.mpr fun hvocabulary => absurd hvocabulary (Bool.eq_false_iff.mp h)
  rw [step, hforeign]
  rfl

theorem settle_again {t : Token} {b b' : Builder} (h : b.step t = (b', true)) (n : Nat) :
    settle t (n + 1) b = settle t n b' := by
  rw [settle, h]

theorem settle_done {t : Token} {b b' : Builder} (h : b.step t = (b', false)) (n : Nat) :
    settle t (n + 1) b = b' := by
  rw [settle, h]

/-- What is made next, where the body is not open yet. -/
def prepared? (b : Builder) : Option Builder :=
  match b.mode with
  | .initial => some { b with quirks := true, mode := .beforeHtml }
  | .beforeHtml => some ((b.addRoot []).withMode .beforeHead)
  | .beforeHead => some ((b.openHead []).withMode .inHead)
  | .inHead => some (b.pop.withMode .afterHead)
  | .afterHead => some ((b.openImplied "body").withMode .inBody)
  | _ => none

theorem step_prepared {t : Token} (ht : OpensBody t) {b b' : Builder} (hhtml : b.insideForeign = false)
    (h : b.prepared? = some b') : b.step t = (b', true) := by
  rw [step_eq_modeStep hhtml]
  unfold prepared? at h
  unfold modeStep
  split at h
  all_goals cases h
  all_goals
    next hmode =>
    rw [hmode]
    cases ht with
    | character hspace => exact if_neg (Bool.eq_false_iff.mp hspace)
    | endOfText => rfl

/-- A token that opens the body goes through all modes up to that of the body, and what is missing is made
in each of them. -/
theorem settle_start {t : Token} (ht : OpensBody t) (n : Nat) : settle t (n + 5) start = settle t n opened := by
  rw [settle_again (step_prepared ht rfl rfl), settle_again (step_prepared ht rfl rfl),
    settle_again (step_prepared ht rfl rfl), settle_again (step_prepared ht rfl rfl),
    settle_again (step_prepared ht rfl rfl)]
  rfl

namespace Filling

variable {b : Builder}

theorem step_eq_inBody (h : Filling b) (t : Token) : b.step t = b.inBody t := by
  rw [step_eq_modeStep (by rw [insideForeign, h.stack]; rfl), modeStep, h.mode]

theorem addText (h : Filling b) (c : Char) : Filling (b.addText c) := by
  obtain ⟨text, harena⟩ := h.arena
  have hplace : b.place = .lastIn 3 := by
    rw [place, h.stack]
    simp only [placeIn, h.fostering]
    rfl
  have hadded : b.addText c = { b with arena := b.arena.appendText 3 c } := by rw [Builder.addText, hplace]
  rw [hadded]
  exact ⟨⟨_, by rw [harena, appendText_plainArena]⟩, h.stack, h.formatting, h.mode, h.templateModes, h.fostering,
    h.request⟩

theorem reconstruct (h : Filling b) : b.reconstruct = b := by
  rw [Builder.reconstruct, h.formatting]
  exact congrArg (fun l => { b with formatting := l }) h.formatting.symm

theorem noFrameset (h : Filling b) : Filling b.noFrameset :=
  ⟨h.arena, h.stack, h.formatting, h.mode, h.templateModes, h.fostering, h.request⟩

theorem step_character (h : Filling b) (c : Char) : ∃ b', Filling b' ∧ b.step (.character c) = (b', false) := by
  rw [h.step_eq_inBody]
  show ∃ b', Filling b' ∧ (if c.toNat = 0 then done b
    else done ((if isSpaceChar c then b.reconstruct else b.reconstruct.noFrameset).addText c)) = (b', false)
  split
  · exact ⟨b, h, rfl⟩
  · rw [h.reconstruct]
    split
    · exact ⟨_, h.addText c, rfl⟩
    · exact ⟨_, h.noFrameset.addText c, rfl⟩

theorem step_endOfText (h : Filling b) : b.step .endOfText = (b, false) := by
  rw [h.step_eq_inBody]
  exact if_pos (by rw [h.templateModes]; rfl)

theorem settle_character (h : Filling b) (c : Char) (n : Nat) : Filling (settle (.character c) n b) := by
  cases n with
  | zero => exact h
  | succ n =>
    obtain ⟨b', hb', hstep⟩ := h.step_character c
    rw [settle_done hstep]
    exact hb'

theorem settle_endOfText (h : Filling b) (n : Nat) : settle .endOfText n b = b := by
  cases n with
  | zero => rfl
  | succ n => exact settle_done h.step_endOfText n

theorem keepLineFeed (h : Filling b) : Filling { b with dropLineFeed := false } :=
  ⟨h.arena, h.stack, h.formatting, h.mode, h.templateModes, h.fostering, h.request⟩

theorem process (h : Filling b) {t : Token} (ht : t.IsPlain) : Filling (b.process t) := by
  cases ht with
  | flaw => exact h.keepLineFeed
  | character c =>
    rw [Builder.process]
    split
    · exact h.keepLineFeed
    · exact h.keepLineFeed.settle_character c _

theorem process_endOfText (h : Filling b) : Filling (b.process .endOfText) := by
  have hend : b.process .endOfText = { b with dropLineFeed := false } := h.keepLineFeed.settle_endOfText _
  rw [hend]
  exact h.keepLineFeed

end Filling

/-- Nothing but white space was read, or the body is open. -/
def Underway (b : Builder) : Prop := b = start ∨ Filling b

theorem process_start_opens {t : Token} (ht : OpensBody t) : start.process t = settle t 27 opened := by
  -- five of the 32 steps that the limit allows open the body
  cases ht with
  | character hc => exact settle_start (.character hc) 27
  | endOfText => exact settle_start .endOfText 27

theorem process_start_space {c : Char} (hc : isSpaceChar c = true) : start.process (.character c) = start := by
  have hstep : start.step (.character c) = (start, false) := by
    rw [step_eq_modeStep rfl]
    exact if_pos hc
  exact settle_done hstep 31

namespace Underway

variable {b : Builder}

theorem process (h : Underway b) {t : Token} (ht : t.IsPlain) : Underway (b.process t) := by
  obtain rfl | h := h
  · cases ht with
    | flaw => exact .inl rfl
    | character c =>
      cases hc : isSpaceChar c with
      | true => exact .inl (process_start_space hc)
      | false =>
        rw [process_start_opens (.character hc)]
        exact .inr (filling_opened.settle_character c 27)
  · exact .inr (h.process ht)

theorem foldl_process (h : Underway b) {tokens : List Token} (ht : ∀ t ∈ tokens, t.IsPlain) :
    Underway (tokens.foldl Builder.process b) := by
  induction tokens generalizing b with
  | nil => exact h
  | cons t rest ih =>
    obtain ⟨hfirst, hrest⟩ := List.forall_mem_cons.mp ht
    exact ih (h.process hfirst) hrest

theorem process_endOfText (h : Underway b) : Filling (b.process .endOfText) := by
  obtain rfl | h := h
  · rw [process_start_opens .endOfText, filling_opened.settle_endOfText]
    exact filling_opened
  · exact h.process_endOfText

theorem request (h : Underway b) : b.request = none := by
  obtain rfl | h := h
  · rfl
  · exact h.request

/-- A text without a less-than sign ends in the body. -/
theorem readAll {n : Nat} {cs : List Char} (hn : cs.length < n) (hcs : IsPlain cs) (last : String)
    (h : Underway b) : Filling (Builder.readAll .markup last n b cs) := by
  -- a scan takes the character in front of the text at least, so there are enough of them
  induction n generalizing b cs last with
  | zero => omega
  | succ n ih =>
    cases cs with
    | nil => exact h.process_endOfText
    | cons c cs =>
      obtain ⟨hc, hrest⟩ := not_or.mp fun hmem => hcs (List.mem_cons.mpr hmem)
      have hscan := Lexer.next_isPlain (Ne.symm hc) cs last b.insideForeign
      have hb := h.foldl_process hscan.tokens
      rw [Builder.readAll, hb.request, hscan.content]
      refine ih ?_ (fun hmem => hrest (hscan.rest.subset hmem)) _ ?_
      · exact Nat.lt_of_le_of_lt hscan.rest.length_le (Nat.lt_of_succ_lt_succ hn)
      · rw [← hb.request]
        exact hb

end Underway

theorem filling_build {cs : List Char} (h : IsPlain cs) : Filling (build cs) :=
  Underway.readAll (Nat.lt_succ_self _) h "" (.inl rfl)

end Builder

/-! ### Documents -/

namespace Document

/-- **A plain text is the text of a body.** It has a root with a head and a body, whatever it holds, and at
most one text in the body besides. -/
theorem parse_plain {text : String} (h : IsPlain text.toList) :
    ∃ content, Document.parse text = ⟨plainRoot content⟩ := by
  obtain ⟨content, harena⟩ := (Builder.filling_build h.prepareText).arena
  exact ⟨content, by rw [Document.parse, harena, rootOf_plainArena]⟩

theorem elements_plain (content : Option String) :
    (Document.mk (plainRoot content)).elements =
      [plainRoot content, .element ⟨1, "head", []⟩ [],
        .element ⟨2, "body", []⟩ (content.toList.map .text)] := by
  cases content <;> rfl

/-- Nothing else is found in a document of plain text. -/
theorem findAll_plain (content : Option String) {tag : String} (h : tag.toLower ∉ ["html", "head", "body"]) :
    (Document.mk (plainRoot content)).findAll tag = [] := by
  rw [findAll, elements_plain, List.filter_eq_nil_iff]
  intro n hn hname
  refine h ?_
  rw [← beq_iff_eq.mp hname]
  exact List.mem_map_of_mem (f := Node.name) hn

end Document

end PageAudit.Html
