import PageAudit.Proofs.Audit.Composition
import PageAudit.Proofs.Rule.Sight
/-!
What one more header line does to a result. The security rules ask for nine headers (`Security.asked`): six
that should be there, each of which is charged when it is absent, and three that give the server away, each
of which is charged when it is there. So the penalties of the security category are those for the headers,
one header after the other, with other penalties around them (`penaltiesOf_security`), and a further line
changes what is charged for the header of its name and nothing else (`header_line_charged`).

`header_line_effect` draws the consequences: a header that was missing is no longer reported, one that gives
the server away is reported at its place, and any other line changes at most the words of one description.
-/
namespace PageAudit

/-- The page with a further header line. -/
def Page.withLine (page : Page) (line : Header) : Page := { page with headers := page.headers ++ [line] }

namespace Rule
open Security

/-! ### Headers asked for -/

namespace Security

/-- A header that the rules ask for. -/
inductive Asked where
  /-- One that should be there, with what its absence means. -/
  | required (name meaning : String)
  /-- One that gives the server away. -/
  | revealing (name : String)
deriving DecidableEq, Repr

/-- The headers that the rules ask for, in report order. -/
def asked : List Asked := securityHeaders.map (fun h => .required h.1 h.2) ++ serverHeaders.map .revealing

/-- The penalty for a header that is missing. -/
def missing (name meaning : String) : Penalty :=
  ⟨5, Finding.about Knowledge.headerMissing.code name meaning⟩

/-- The penalty for a header that gives the server away. -/
def disclosed (name value : String) : Penalty :=
  ⟨3, Finding.ofCode Knowledge.serverDisclosed.code (name ++ " header reveals server information: " ++ value)⟩

namespace Asked

def name : Asked → String
  | required name _ => name
  | revealing name => name

/-- What is charged for a header, by its value. -/
def penalties : Asked → Option String → List Penalty
  | required name meaning, none => [missing name meaning]
  | required _ _, some _ => []
  | revealing _, none => []
  | revealing name, some value => [disclosed name value]

end Asked

/-- What is charged for some of the headers of a page. -/
def chargedFor (page : Page) (headers : List Asked) : List Penalty :=
  headers.flatMap fun a => a.penalties (page.header? a.name)

theorem name_missing (name meaning : String) : (missing name meaning).finding.name = "Missing " ++ name := by
  rw [missing, Finding.name_about (Knowledge.mem_of_find? rfl)]
  exact String.append_empty

theorem name_disclosed (name value : String) :
    (disclosed name value).finding.name = "Server Information Disclosure" := by
  rw [disclosed, Finding.ofCode, Finding.name_about (Knowledge.mem_of_find? rfl)]
  rfl

/-- The nine headers have names that differ in more than the case of their letters. -/
theorem asked_named {line : Header} {a b : Asked} (ha : a ∈ asked) (hb : b ∈ asked)
    (hla : line.isNamed a.name = true) (hlb : line.isNamed b.name = true) : a = b := by
  have table : ∀ a ∈ asked, ∀ b ∈ asked,
      a.name.toList.map Char.toLower = b.name.toList.map Char.toLower → a = b := by
    decide +kernel
  rw [Header.isNamed_eq, beq_iff_eq] at hla hlb
  exact table a ha b hb (hla.symm.trans hlb)

theorem chargedFor_required (page : Page) (table : List (String × String)) :
    chargedFor page (table.map fun h => .required h.1 h.2) =
      (table.filter fun h => !page.hasHeader h.1).map fun h => missing h.1 h.2 := by
  induction table with
  | nil => rfl
  | cons h rest ih =>
    rw [List.map_cons, chargedFor, List.flatMap_cons, ← chargedFor, ih, List.filter_cons, Page.hasHeader_eq,
      Asked.name]
    cases page.header? h.1 <;> rfl

theorem chargedFor_revealing (page : Page) (names : List String) :
    chargedFor page (names.map .revealing) =
      names.filterMap fun name => (page.header? name).map (disclosed name) := by
  induction names with
  | nil => rfl
  | cons name rest ih =>
    rw [List.map_cons, chargedFor, List.flatMap_cons, ← chargedFor, ih, List.filterMap_cons, Asked.name]
    cases page.header? name <;> rfl

end Security

/-- The security penalties: for the address, for each header, and for the body. -/
theorem penaltiesOf_security (s : Subject) :
    penaltiesOf .security s = secureAddress.penalties s ++ chargedFor s.page asked ++
      (noDatabaseErrors.penalties s ++ noInjection.penalties s) := by
  have hasked : chargedFor s.page asked = headersPresent.penalties s ++ serverHidden.penalties s := by
    rw [chargedFor, asked, List.flatMap_append]
    exact congrArg₂ (· ++ ·) (chargedFor_required ..) (chargedFor_revealing ..)
  rw [hasked, penaltiesOf, catalogue, Security.rules]
  simp only [List.flatMap_cons, List.flatMap_nil, List.append_nil, List.append_assoc]

/-! ### A further line -/

/-- The penalties around those for a header: the ones for the address and for the headers that come earlier in
the table, and the ones for the headers that come later and for the body. -/
def Around (url : String) (page : Page) (a : Asked) (front back : List Penalty) : Prop :=
  let s := Subject.ofPage url page
  ∃ earlier later, asked = earlier ++ a :: later ∧
    front = secureAddress.penalties s ++ chargedFor page earlier ∧
    back = chargedFor page later ++ (noDatabaseErrors.penalties s ++ noInjection.penalties s)

/-- With a further line, what is charged for a header turns from some penalties into others. All the others
stay as they are, in their order. -/
def Turns (url : String) (page : Page) (line : Header) (a : Asked) (old new : List Penalty) : Prop :=
  ∃ front back, Around url page a front back ∧
    penaltiesOf .security (Subject.ofPage url page) = front ++ old ++ back ∧
    penaltiesOf .security (Subject.ofPage url (page.withLine line)) = front ++ new ++ back

variable {url : String} {page : Page} {line : Header}

theorem chargedFor_withLine {headers : List Asked} (h : ∀ a ∈ headers, line.isNamed a.name = false) :
    chargedFor (page.withLine line) headers = chargedFor page headers :=
  List.flatMap_congr fun a ha => congrArg a.penalties (header?_append_other (h a ha))

/-- A line of which no rule asks for the name changes nothing. -/
theorem header_line_ignored (h : ∀ a ∈ asked, line.isNamed a.name = false) (url : String) :
    penaltiesOf .security (Subject.ofPage url (page.withLine line)) =
      penaltiesOf .security (Subject.ofPage url page) := by
  rw [penaltiesOf_security, penaltiesOf_security]
  show _ ++ chargedFor (page.withLine line) asked ++ _ = _
  rw [chargedFor_withLine h]
  rfl

/-- A line changes what is charged for the header of its name, and nothing around it. -/
theorem header_line_charged {a : Asked} (ha : a ∈ asked) (hnamed : line.isNamed a.name = true) (url : String) :
    Turns url page line a (a.penalties (page.header? a.name))
      (a.penalties ((page.withLine line).header? a.name)) := by
  obtain ⟨earlier, later, hsplit⟩ := List.append_of_mem ha
  have hnodup : asked.Nodup := by decide
  have hothers : ∀ b ∈ earlier ++ later, line.isNamed b.name = false := by
    intro b hb
    rw [hsplit, List.nodup_middle, List.nodup_cons] at hnodup
    have hasked : b ∈ asked := by
      rw [hsplit, List.mem_append, List.mem_cons]
      exact (List.mem_append.mp hb).imp_right .inr
    refine Bool.eq_false_iff.mpr fun hb' => hnodup.1 ?_
    exact asked_named hasked ha hb' hnamed ▸ hb
  have hcharged : ∀ page : Page, chargedFor page asked =
      chargedFor page earlier ++ (a.penalties (page.header? a.name) ++ chargedFor page later) := by
    intro page
    rw [hsplit, chargedFor, List.flatMap_append, List.flatMap_cons]
    rfl
  refine ⟨_, _, ⟨earlier, later, hsplit, rfl, rfl⟩, ?before, ?after⟩
  case before =>
    rw [penaltiesOf_security]
    show _ ++ chargedFor page asked ++ _ = _
    rw [hcharged page]
    simp only [List.append_assoc]
  case after =>
    rw [penaltiesOf_security]
    show _ ++ chargedFor (page.withLine line) asked ++ _ = _
    rw [hcharged (page.withLine line), chargedFor_withLine fun b hb => hothers b (List.mem_append_left _ hb),
      chargedFor_withLine fun b hb => hothers b (List.mem_append_right _ hb)]
    simp only [List.append_assoc]
    rfl

namespace Turns

variable {a : Asked} {old new : List Penalty}

theorem points (h : Turns url page line a old new) :
    pointsOf (penaltiesOf .security (Subject.ofPage url (page.withLine line))) + pointsOf old =
      pointsOf (penaltiesOf .security (Subject.ofPage url page)) + pointsOf new := by
  obtain ⟨front, back, -, hbefore, hafter⟩ := h
  rw [hbefore, hafter]
  simp only [pointsOf_append]
  omega

theorem names (h : Turns url page line a old new)
    (hnames : new.map (·.finding.name) = old.map (·.finding.name)) :
    (penaltiesOf .security (Subject.ofPage url (page.withLine line))).map (·.finding.name) =
      (penaltiesOf .security (Subject.ofPage url page)).map (·.finding.name) := by
  obtain ⟨front, back, -, hbefore, hafter⟩ := h
  rw [hbefore, hafter]
  simp only [List.map_append, hnames]

end Turns

/-! ### What a line does -/

theorem required_mem {h : String × String} (hh : h ∈ securityHeaders) : Asked.required h.1 h.2 ∈ asked :=
  List.mem_append_left _ (List.mem_map_of_mem hh)

theorem revealing_mem {name : String} (hname : name ∈ serverHeaders) : Asked.revealing name ∈ asked :=
  List.mem_append_right _ (List.mem_map_of_mem hname)

/-- A header that is there is not reported as missing. -/
theorem not_missing {s : Subject} {h : String × String} (hh : h ∈ securityHeaders)
    (hpresent : s.page.hasHeader h.1 = true) :
    ∀ p ∈ penaltiesOf .security s, p.finding.name ≠ "Missing " ++ h.1 := by
  intro p hp hname
  have table : ∀ h ∈ securityHeaders, rank .security ("Missing " ++ h.1) = 1 := by decide +kernel
  obtain ⟨rule, hrule, hp⟩ := List.mem_flatMap.mp hp
  obtain ⟨i, hi⟩ := List.mem_iff_getElem?.mp hrule
  -- the name tells the rule, and the rule reports a header of that name only when it is absent
  have hrank := rank_eq hi hp
  rw [hname, table h hh] at hrank
  obtain rfl : rule = headersPresent := Option.some.inj (hi.symm.trans (hrank ▸ rfl))
  obtain ⟨h', hh', rfl⟩ := List.mem_map.mp hp
  have hsame : "Missing " ++ h'.1 = "Missing " ++ h.1 := (name_missing ..).symm.trans hname
  have habsent := (List.mem_filter.mp hh').2
  rw [(String.append_right_inj _).mp hsame, hpresent] at habsent
  cases habsent

theorem header?_of_hasHeader {name : String} (h : page.hasHeader name = true) :
    ∃ value, page.header? name = some value := by
  rw [Page.hasHeader_eq] at h
  exact Option.isSome_iff_exists.mp h

theorem header?_of_not_hasHeader {name : String} (h : page.hasHeader name = false) :
    page.header? name = none := by
  rw [Page.hasHeader_eq] at h
  exact Option.not_isSome_iff_eq_none.mp (Bool.eq_false_iff.mp h)

/-- The first line of a name gives the header its value. -/
theorem turns_first {a : Asked} (ha : a ∈ asked) (hnamed : line.isNamed a.name = true)
    (habsent : page.hasHeader a.name = false) :
    Turns url page line a (a.penalties none) (a.penalties (some line.text)) := by
  have hturns : Turns url page line a _ _ := header_line_charged ha hnamed url
  have hnone := header?_of_not_hasHeader habsent
  have hfirst : (page.withLine line).header? a.name = some line.text := header?_append_first hnamed hnone
  rwa [hnone, hfirst] at hturns

/-- A repeated line is added to the value of the header. -/
theorem turns_again {a : Asked} (ha : a ∈ asked) (hnamed : line.isNamed a.name = true) {value : String}
    (hvalue : page.header? a.name = some value) :
    Turns url page line a (a.penalties (some value)) (a.penalties (some (value ++ ", " ++ line.text))) := by
  have hturns : Turns url page line a _ _ := header_line_charged ha hnamed url
  have hagain : (page.withLine line).header? a.name = some (value ++ ", " ++ line.text) :=
    header?_append_again hnamed hvalue
  rwa [hvalue, hagain] at hturns

/-- A line that gives no header its first value leaves all penalties but the words of one description. -/
theorem reworded_of_present (h : ∀ a ∈ asked, line.isNamed a.name = true → page.hasHeader a.name = true) :
    penaltiesOf .security (Subject.ofPage url (page.withLine line)) =
        penaltiesOf .security (Subject.ofPage url page) ∨
      ∃ name ∈ serverHeaders, ∃ value, line.isNamed name = true ∧ page.header? name = some value ∧
        Turns url page line (.revealing name) [disclosed name value]
          [disclosed name (value ++ ", " ++ line.text)] := by
  by_cases hasks : ∃ a ∈ asked, line.isNamed a.name = true
  · obtain ⟨a, ha, hnamed⟩ := hasks
    obtain ⟨value, hvalue⟩ := header?_of_hasHeader (h a ha hnamed)
    have hturns : Turns url page line a _ _ := turns_again ha hnamed hvalue
    cases a with
    | required name meaning =>
      -- nothing is charged for a header that should be there and is
      obtain ⟨front, back, -, hbefore, hafter⟩ := hturns
      exact .inl (hafter.trans hbefore.symm)
    | revealing name =>
      obtain ⟨name', hname', heq⟩ : ∃ name' ∈ serverHeaders, Asked.revealing name' = .revealing name := by
        rcases List.mem_append.mp ha with hrequired | hrevealing
        · obtain ⟨_, -, heq⟩ := List.mem_map.mp hrequired
          cases heq
        · exact List.mem_map.mp hrevealing
      obtain rfl := Asked.revealing.inj heq
      exact .inr ⟨name', hname', value, hnamed, hvalue, hturns⟩
  · refine .inl (header_line_ignored (fun a ha => ?_) url)
    exact Bool.eq_false_iff.mpr fun hnamed => hasks ⟨a, ha, hnamed⟩

/-- The other categories do not look at headers. -/
theorem category_withLine {c : Category} (hc : c ≠ .security) :
    scoreCategory c (Subject.ofPage url (page.withLine line)) = scoreCategory c (Subject.ofPage url page) := by
  have same := sameBody_ofPage (show (page.withLine line).body = page.body from rfl) url url
  cases c with
  | security => exact absurd rfl hc
  | performance => exact scoreCategory_congr Performance.respects ⟨same, .inl rfl⟩
  | seo => exact scoreCategory_congr Seo.respects same
  | accessibility => exact scoreCategory_congr Accessibility.respects same

end Rule

open Rule Rule.Security

/-- **What a header line does.** One more line in the headers of a page matters to the security category only,
whose findings and score go by its penalties before and after. The first line of a header that should be
there takes away the one penalty for that header, and five points; the first line of a header that gives the
server away puts one penalty for it at its place in the table, and three points. Any other line leaves the
points and the names of all findings as they are, and if it repeats a header that gives the server away,
its value is added to the description of that one finding. All other penalties stay, in their order. -/
theorem header_line_effect (url : String) (page : Page) (line : Header) (scanTime : ZonedTime) :
    let r := AuditResult.evaluate url page scanTime
    let r' := AuditResult.evaluate url (page.withLine line) scanTime
    let before := penaltiesOf .security (Subject.ofPage url page)
    let after := penaltiesOf .security (Subject.ofPage url (page.withLine line))
    (∀ h ∈ securityHeaders, line.isNamed h.1 = true → page.hasHeader h.1 = false →
      Turns url page line (.required h.1 h.2) [missing h.1 h.2] [] ∧
      (missing h.1 h.2).finding.name = "Missing " ++ h.1 ∧
      (∀ p ∈ after, p.finding.name ≠ "Missing " ++ h.1) ∧
      pointsOf after + 5 = pointsOf before) ∧
    (∀ name ∈ serverHeaders, line.isNamed name = true → page.hasHeader name = false →
      Turns url page line (.revealing name) [] [disclosed name line.text] ∧
      (disclosed name line.text).finding.name = "Server Information Disclosure" ∧
      pointsOf after = pointsOf before + 3) ∧
    ((∀ name ∈ headerNames, line.isNamed name = true → page.hasHeader name = true) →
      pointsOf after = pointsOf before ∧
      after.map (·.finding.name) = before.map (·.finding.name) ∧
      (after = before ∨ ∃ name ∈ serverHeaders, ∃ value,
        line.isNamed name = true ∧ page.header? name = some value ∧
        Turns url page line (.revealing name) [disclosed name value]
          [disclosed name (value ++ ", " ++ line.text)])) ∧
    (∀ c, c ≠ .security → r'.category c = r.category c) ∧
    r.security.findings = before.map (·.finding) ∧ r.security.score.toNat = 100 - pointsOf before ∧
    r'.security.findings = after.map (·.finding) ∧ r'.security.score.toNat = 100 - pointsOf after := by
  intro r r' before after
  refine ⟨fun h hh hnamed habsent => ?required, fun name hname hnamed habsent => ?revealing,
    fun hpresent => ?others, fun c hc => ?apart, rfl, scoreRules_score .., rfl, scoreRules_score ..⟩
  case required =>
    have hturns : Turns url page line (.required h.1 h.2) [missing h.1 h.2] [] :=
      turns_first (required_mem hh) hnamed habsent
    have hthere : (page.withLine line).hasHeader h.1 = true := by
      rw [Page.hasHeader_eq]
      exact Option.isSome_iff_exists.mpr ⟨_, header?_append_first hnamed (header?_of_not_hasHeader habsent)⟩
    exact ⟨hturns, name_missing .., not_missing hh hthere, hturns.points⟩
  case revealing =>
    have hturns : Turns url page line (.revealing name) [] [disclosed name line.text] :=
      turns_first (revealing_mem hname) hnamed habsent
    exact ⟨hturns, name_disclosed .., hturns.points⟩
  case others =>
    have hasked : asked.map Asked.name = headerNames := by decide
    have hreworded := @reworded_of_present url page line fun a ha hnamed =>
      hpresent a.name (hasked ▸ List.mem_map_of_mem ha) hnamed
    refine ⟨?points, ?names, hreworded⟩
    case points =>
      obtain hsame | ⟨name, -, value, -, -, hturns⟩ := hreworded
      · exact congrArg pointsOf hsame
      · exact Nat.add_right_cancel hturns.points
    case names =>
      obtain hsame | ⟨name, -, value, -, -, hturns⟩ := hreworded
      · exact congrArg _ hsame
      · refine hturns.names ?_
        rw [List.map_singleton, List.map_singleton, name_disclosed, name_disclosed]
  case apart =>
    rw [AuditResult.evaluate_category, AuditResult.evaluate_category]
    exact category_withLine hc

/-- Three lines in odd spellings: the first of a header that should be there, the first of one that gives the
server away, and a second of one that does. -/
theorem header_line_effect_spellings :
    let page : Page := ⟨"https://a/", 200, [⟨"server", [97]⟩], "", ⟨0⟩⟩
    let points (headers : List Header) : Nat :=
      pointsOf (penaltiesOf .security (Subject.ofPage "https://a" { page with headers := headers }))
    points [⟨"server", [97]⟩, ⟨"x-FRAME-options", [68]⟩] + 5 = points [⟨"server", [97]⟩] ∧
      points [⟨"server", [97]⟩, ⟨"x-powered-BY", [98]⟩] = points [⟨"server", [97]⟩] + 3 ∧
      points [⟨"server", [97]⟩, ⟨"SERVER", [98]⟩] = points [⟨"server", [97]⟩] := by
  intro page points
  have effect := fun line => header_line_effect "https://a" page line ⟨⟨⟨2025, 3, 14⟩, 9, 26, 53, 0⟩, 0⟩
  have hnames : ∀ name ∈ headerNames, page.hasHeader name = (name == "Server") := by
    simp only [Page.hasHeader, hasHeader, Header.isNamed_eq]
    decide +kernel
  have hagain : ∀ name ∈ headerNames, Header.isNamed ⟨"SERVER", [98]⟩ name = true →
      page.hasHeader name = true := by
    simp only [Page.hasHeader, hasHeader, Header.isNamed_eq]
    decide +kernel
  refine ⟨((effect ⟨"x-FRAME-options", [68]⟩).1 _ (.head _) ?_ (hnames _ (by decide))).2.2.2,
    ((effect ⟨"x-powered-BY", [98]⟩).2.1 "X-Powered-By" (by decide) ?_ (hnames _ (by decide))).2.2,
    ((effect ⟨"SERVER", [98]⟩).2.2.1 hagain).1⟩
  all_goals
    rw [Header.isNamed_eq]
    decide +kernel

end PageAudit
