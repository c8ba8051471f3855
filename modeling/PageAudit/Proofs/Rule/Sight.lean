import PageAudit.Proofs.Page.Header
import PageAudit.Proofs.Rule.Raised
/-!
What rules look at. Every rule is given the whole page, but a rule of one category looks at a small part
of it only: it has the same penalties for pages which are alike in that part (`Respects`), and so the
category has the same result (`scoreCategory_congr`).

`categories_apart` follows: for pages with one body, the search engine and accessibility results are the
same, the performance result can differ by the load time alone, and the security result by the scheme of
the address and nine headers alone.
-/
namespace PageAudit

namespace Binary64

/-- Two values that stand for one number. There are two zeros, and a NaN stands for none. -/
structure Equal (x y : Binary64) : Prop where
  left : x.isNan = false
  right : y.isNan = false
  key : x.key = y.key

variable {x y : Binary64}

theorem Equal.lt_eq (h : Equal x y) (a : Binary64) : a.lt x = a.lt y := by
  rw [lt, lt, h.left, h.right, h.key]

theorem bits_of_key_pos (h : 0 < x.key) : (x.bits.toNat : Int) = x.key := by
  unfold key at h ⊢
  split at h
  · omega
  · next hpositive =>
    rw [if_neg hpositive, magnitude, Nat.mod_eq_of_lt]
    simpa [isNegative] using hpositive

/-- Above zero a number has one value. -/
theorem Equal.eq (h : Equal x y) {a : Binary64} (ha : 0 ≤ a.key) (hlt : a.lt x = true) : x = y := by
  have hx : 0 < x.key := by
    unfold lt at hlt
    simp only [Bool.and_eq_true, decide_eq_true_eq] at hlt
    exact Int.lt_of_le_of_lt ha hlt.2
  have hy : 0 < y.key := h.key ▸ hx
  have hbits : (x.bits.toNat : Int) = y.bits.toNat := by
    rw [bits_of_key_pos hx, bits_of_key_pos hy, h.key]
  obtain ⟨x⟩ := x
  obtain ⟨y⟩ := y
  exact congrArg Binary64.mk (UInt64.toNat_inj.mp (Int.ofNat_inj.mp hbits))

end Binary64

namespace Rule

/-- A rule has the same penalties for subjects that are alike. -/
def Respects (alike : Subject → Subject → Prop) (rule : Rule) : Prop :=
  ∀ s s', alike s s' → rule.penalties s = rule.penalties s'

/-- A category of rules that tell no difference tells none. -/
theorem scoreCategory_congr {alike : Subject → Subject → Prop} {c : Category}
    (h : ∀ rule ∈ catalogue c, Respects alike rule) {s s' : Subject} (hs : alike s s') :
    scoreCategory c s = scoreCategory c s' := by
  have hpenalties : (catalogue c).flatMap (·.penalties s) = (catalogue c).flatMap (·.penalties s') :=
    List.flatMap_congr fun rule hrule => h rule hrule s s' hs
  unfold scoreCategory scoreRules
  rw [hpenalties]

/-! ### The body -/

/-- Subjects whose bodies read the same. -/
structure SameBody (s s' : Subject) : Prop where
  document : s.document = s'.document
  content : s.content = s'.content

variable {s s' : Subject}

theorem SameBody.mentions (h : SameBody s s') : s.mentions = s'.mentions := by
  funext pattern
  rw [Subject.mentions, Subject.mentions, h.content]

theorem Seo.respects : ∀ rule ∈ catalogue .seo, Respects SameBody rule := by
  simp only [catalogue, Seo.rules, List.forall_mem_cons]
  refine ⟨fun s s' h => ?title, fun s s' h => ?description, fun s s' h => ?heading, fun s s' h => ?altText,
    List.forall_mem_nil _⟩
  case title => simp only [Seo.title, h.document]
  case description => simp only [Seo.description, h.document]
  case heading => simp only [Seo.heading, h.document]
  case altText => simp only [Seo.altText, h.document]

theorem Accessibility.respects : ∀ rule ∈ catalogue .accessibility, Respects SameBody rule := by
  simp only [catalogue, Accessibility.rules, List.forall_mem_cons]
  refine ⟨fun s s' h => ?altText, fun s s' h => ?formLabels, fun s s' h => ?colorContrast,
    fun s s' h => ?keyboard, List.forall_mem_nil _⟩
  case altText => simp only [Accessibility.altText, h.document]
  case formLabels => simp only [Accessibility.formLabels, h.document]
  case colorContrast => simp only [Accessibility.colorContrast, h.mentions]
  case keyboard => simp only [Accessibility.keyboard, h.document]

/-! ### The load time -/

/-- Subjects whose bodies read the same and which took the same time. -/
structure SameLoad (s s' : Subject) : Prop extends SameBody s s' where
  loadTime : s.page.loadTime = s'.page.loadTime ∨ s.page.loadTime.Equal s'.page.loadTime

theorem Performance.loadTime_respects : Respects SameLoad Performance.loadTime := by
  intro s s' h
  rcases h.loadTime with htime | htime
  · simp only [Performance.loadTime, htime]
  · by_cases htold : slowLoad.lt s.page.loadTime = true ∨ moderateLoad.lt s.page.loadTime = true
    · -- a time that is told is above zero, where no two values are equal
      have hsame : s.page.loadTime = s'.page.loadTime := by
        rcases htold with hlt | hlt <;> exact htime.eq (by decide) hlt
      simp only [Performance.loadTime, hsame]
    · rw [not_or] at htold
      simp only [Performance.loadTime, ← htime.lt_eq, if_neg htold.1, if_neg htold.2]

theorem Performance.respects : ∀ rule ∈ catalogue .performance, Respects SameLoad rule := by
  simp only [catalogue, Performance.rules, List.forall_mem_cons]
  refine ⟨Performance.loadTime_respects, fun s s' h => ?imagesFit, fun s s' h => ?fewScripts,
    fun s s' h => ?fewStylesheets, List.forall_mem_nil _⟩
  case imagesFit => simp only [Performance.imagesFit, h.document]
  case fewScripts => simp only [Performance.fewScripts, h.document]
  case fewStylesheets => simp only [Performance.fewStylesheets, h.document]

/-! ### The scheme and the headers -/

/-- The headers that security rules ask for. -/
def Security.headerNames : List String := Security.securityHeaders.map (·.1) ++ Security.serverHeaders

/-- Subjects whose bodies read the same, with equally secure addresses and the same values of the headers
that are asked for. -/
structure SameSafety (s s' : Subject) : Prop extends SameBody s s' where
  secure : Text.startsWith s.url secureScheme = Text.startsWith s'.url secureScheme
  headers : ∀ name ∈ Security.headerNames, s.page.header? name = s'.page.header? name

theorem Security.headersPresent_respects : Respects SameSafety Security.headersPresent := by
  intro s s' h
  have hfilter : Security.securityHeaders.filter (fun x => !s.page.hasHeader x.1) =
      Security.securityHeaders.filter (fun x => !s'.page.hasHeader x.1) := by
    refine List.filter_congr fun x hx => ?_
    rw [Page.hasHeader_eq, Page.hasHeader_eq,
      h.headers x.1 (List.mem_append_left _ (List.mem_map_of_mem hx))]
  simp only [Security.headersPresent, hfilter]

theorem Security.serverHidden_respects : Respects SameSafety Security.serverHidden := by
  intro s s' h
  simp only [Security.serverHidden]
  apply List.filterMap_congr
  intro name hname
  rw [h.headers name (List.mem_append_right _ hname)]

theorem Security.respects : ∀ rule ∈ catalogue .security, Respects SameSafety rule := by
  simp only [catalogue, Security.rules, List.forall_mem_cons]
  refine ⟨fun s s' h => ?secureAddress, Security.headersPresent_respects, Security.serverHidden_respects,
    fun s s' h => ?noDatabaseErrors, fun s s' h => ?noInjection, List.forall_mem_nil _⟩
  case secureAddress => simp only [Security.secureAddress, h.secure]
  case noDatabaseErrors => simp only [Security.noDatabaseErrors, h.mentions]
  case noInjection => simp only [Security.noInjection, h.mentions]

end Rule

/-! ### Results -/

theorem Rule.sameBody_ofPage {page page' : Page} (h : page.body = page'.body) (url url' : String) :
    SameBody (Subject.ofPage url page) (Subject.ofPage url' page') := by
  unfold Subject.ofPage
  rw [h]
  exact ⟨rfl, rfl⟩

/-- **Categories are apart.** For two pages with one body, whatever else they have, the search engine
results are the same, and so are the accessibility results; the performance results are the same if the
load times are, and the security results if both addresses are secure or neither is and if each of nine
headers has the same value. The value of a header comes from the lines of its name and from nothing else,
in whatever case it is written. So the final address, the status and the time of the audit matter to no
category. -/
theorem categories_apart {page page' : Page} (hbody : page.body = page'.body) (url url' : String)
    (scanTime scanTime' : ZonedTime) :
    let r := AuditResult.evaluate url page scanTime
    let r' := AuditResult.evaluate url' page' scanTime'
    r.seo = r'.seo ∧ r.accessibility = r'.accessibility ∧
      (page.loadTime = page'.loadTime ∨ page.loadTime.Equal page'.loadTime →
        r.performance = r'.performance) ∧
      (Text.startsWith url secureScheme = Text.startsWith url' secureScheme →
        (∀ name ∈ Rule.Security.headerNames, page.header? name = page'.header? name) →
        r.security = r'.security) ∧
      (∀ name, bytesOf page.headers name = bytesOf page'.headers name →
        page.header? name = page'.header? name) ∧
      (∀ c finalUrl status, (AuditResult.evaluate url
        { page with finalUrl := finalUrl, status := status } scanTime').category c = r.category c) := by
  have body := Rule.sameBody_ofPage hbody url url'
  refine ⟨?_, ?_, fun htime => ?_, fun hsecure hheaders => ?_, fun name => header?_congr, ?_⟩
  · exact Rule.scoreCategory_congr Rule.Seo.respects body
  · exact Rule.scoreCategory_congr Rule.Accessibility.respects body
  · exact Rule.scoreCategory_congr Rule.Performance.respects ⟨body, htime⟩
  · exact Rule.scoreCategory_congr Rule.Security.respects ⟨body, hsecure, hheaders⟩
  · intro c finalUrl status
    rw [AuditResult.evaluate_category, AuditResult.evaluate_category]
    have hbody : { page with finalUrl := finalUrl, status := status }.body = page.body := rfl
    have same := Rule.sameBody_ofPage hbody url url
    cases c with
    | seo => exact Rule.scoreCategory_congr Rule.Seo.respects same
    | accessibility => exact Rule.scoreCategory_congr Rule.Accessibility.respects same
    | performance => exact Rule.scoreCategory_congr Rule.Performance.respects ⟨same, .inl rfl⟩
    | security => exact Rule.scoreCategory_congr Rule.Security.respects ⟨same, rfl, fun _ _ => rfl⟩

/-- Two answers of one site whose results are the same: the header lines are written in other cases and
among other lines, the load times are the two zeros, and nothing else is the same but the body. -/
theorem categories_apart_reordered :
    let page : Page := ⟨"http://a/", 200, [⟨"Server", [97]⟩, ⟨"Via", [98]⟩, ⟨"server", [99]⟩], "<p>", ⟨0⟩⟩
    let page' : Page := ⟨"http://b/", 404, [⟨"SERVER", [97]⟩, ⟨"sErVeR", [99]⟩], "<p>",
      ⟨0x8000000000000000⟩⟩
    page.headers ≠ page'.headers ∧ page.loadTime ≠ page'.loadTime ∧
      ∀ c, (AuditResult.evaluate "http://a" page ⟨⟨⟨2025, 3, 14⟩, 9, 26, 53, 0⟩, 0⟩).category c =
        (AuditResult.evaluate "http://b" page' ⟨⟨⟨1999, 12, 31⟩, 23, 59, 59, 0⟩, 0⟩).category c := by
  intro page page'
  have hloads : page.loadTime.Equal page'.loadTime := ⟨by decide, by decide, by decide⟩
  have hlines : ∀ name ∈ Rule.Security.headerNames,
      bytesOf page.headers name = bytesOf page'.headers name := by
    simp only [bytesOf, Header.isNamed_eq]
    decide +kernel
  obtain ⟨hseo, haccessibility, hperformance, hsecurity, hvalues, -⟩ :=
    categories_apart (show page.body = page'.body from rfl) "http://a" "http://b"
      ⟨⟨⟨2025, 3, 14⟩, 9, 26, 53, 0⟩, 0⟩ ⟨⟨⟨1999, 12, 31⟩, 23, 59, 59, 0⟩, 0⟩
  refine ⟨by decide, by decide, fun c => ?_⟩
  cases c with
  | security =>
    exact hsecurity (by decide) fun name hname => hvalues name (hlines name hname)
  | performance => exact hperformance (.inr hloads)
  | seo => exact hseo
  | accessibility => exact haccessibility

end PageAudit
