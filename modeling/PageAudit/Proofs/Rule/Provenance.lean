import PageAudit.Proofs.Page.Header
import PageAudit.Proofs.Rule.Raised
/-!
Where the texts of findings come from. The name of a finding and the steps to fix it are those of an entry
of the knowledge base, with the name of a header in the place of the subject where there is one. What a page
or its headers say has no part in them: it stands in the description only, as it is
(`findings_from_base`).
-/
namespace PageAudit

/-- A finding of an entry of the base about a subject. -/
structure Finding.BuiltFrom (f : Finding) (k : Knowledge) (subject : String) : Prop where
  /-- The code leads to the entry, so that the finding is no bare one. -/
  known : Knowledge.find? k.code = some k
  built : f = Finding.about k.code subject f.description
  name : f.name = Text.replaced Template.placeholder subject k.title.raw
  fixSteps : f.fixSteps = k.fixSteps.map fun step => Text.replaced Template.placeholder subject step.raw
  fixSteps_ne_nil : f.fixSteps ≠ []
  /-- No mark of a place is left. -/
  filled : ∀ text ∈ f.name :: f.fixSteps, Text.occursIn Template.placeholder.toList text.toList = false

/-- What an entry can be about: the name of a header if it has a place for it, and else it makes no
difference. -/
def Knowledge.IsAbout (k : Knowledge) (subject : String) : Prop :=
  k = headerMissing ∧ subject ∈ Rule.Security.securityHeaders.map (·.1) ∨
    k ≠ headerMissing ∧ ∀ t ∈ k.templates, ∀ text, Text.replaced Template.placeholder text t.raw = t.raw

namespace Rule

variable {k : Knowledge} {subject description : String}

theorem builtFrom_about (hk : k ∈ Knowledge.base) (hsubject : '\x7b' ∉ subject.toList) :
    (Finding.about k.code subject description).BuiltFrom k subject := by
  have hfree : ∀ t ∈ k.templates, t.Free '\x7b' := Knowledge.base_free _ (by decide) k hk
  obtain ⟨hname, hsteps⟩ := Knowledge.finding_replaced hk subject description
  rw [Knowledge.about_code hk]
  refine ⟨Knowledge.find?_code k hk, (Knowledge.about_code hk).symm, hname, hsteps, ?nonempty, ?filled⟩
  case nonempty => exact fun h => Knowledge.fixSteps_ne_nil k hk (List.map_eq_nil_iff.mp h)
  case filled =>
    refine List.forall_mem_cons.mpr ⟨(hfree k.title (.head _)).occursIn_fill hsubject, ?_⟩
    exact List.forall_mem_map.mpr fun t ht => (hfree t (.tail _ ht)).occursIn_fill hsubject

theorem isAbout_of_mem_subjects (hk : k ∈ Knowledge.base) (hsubject : subject ∈ subjects k) :
    k.IsAbout subject := by
  rcases Knowledge.hasPlace_base k hk with rfl | hfixed
  · exact .inl ⟨rfl, hsubject⟩
  · refine .inr ⟨?_, fun t ht => ?_⟩
    · rintro rfl
      exact absurd (hfixed _ (.head _)) (by decide)
    · exact (Knowledge.base_free _ (by decide) k hk t ht).replaced_of_fixed (hfixed t ht)

/-- The value of a header that identifies the server is reported as it is. -/
theorem Security.serverHidden_reports {s : Subject} {name value : String}
    (hname : name ∈ Security.serverHeaders) (hvalue : s.page.header? name = some value) :
    Finding.ofCode Knowledge.serverDisclosed.code (name ++ " header reveals server information: " ++ value) ∈
      (scoreCategory .security s).findings := by
  have hpenalty : ⟨3, Finding.ofCode Knowledge.serverDisclosed.code
      (name ++ " header reveals server information: " ++ value)⟩ ∈ Security.serverHidden.penalties s :=
    List.mem_filterMap.mpr ⟨name, hname, by rw [hvalue]; rfl⟩
  have hcatalogue : _ ∈ (catalogue .security).flatMap (·.penalties s) :=
    List.mem_flatMap.mpr ⟨Security.serverHidden, .tail _ (.tail _ (.head _)), hpenalty⟩
  exact List.mem_map.mpr ⟨_, hcatalogue, rfl⟩

end Rule

/-- **Findings come from the knowledge base.** Whatever the page, a finding of a category is of a kind that
is listed for the category: it is built from an entry of the base that has that category, about the name of
a security header or, where the entry has no place for it, about nothing. So there is something to do about
each finding, and no mark of a place is left in what it is called and in what is to do. The page has a part in
the description only, which reports a number or the value of a header in fixed words; and the value of
a header that identifies the server is reported as it is, whatever it looks like. -/
theorem findings_from_base (url : String) (page : Page) (scanTime : ZonedTime) (c : Category) :
    let r := AuditResult.evaluate url page scanTime
    (∀ f ∈ (r.category c).findings, ∃ kinds ∈ Rule.kinds c, ∃ k ∈ kinds,
      k.entry ∈ Knowledge.base ∧ k.entry.category = c ∧ f.BuiltFrom k.entry k.subject ∧
        k.entry.IsAbout k.subject ∧ k.wording.Says page f.description ∧ f.description ≠ "") ∧
      ∀ name ∈ Rule.Security.serverHeaders, ∀ value, page.header? name = some value →
        Finding.ofCode Knowledge.serverDisclosed.code
          (name ++ " header reveals server information: " ++ value) ∈ (r.category .security).findings := by
  intro r
  simp only [r, AuditResult.evaluate_category]
  refine ⟨fun f hf => ?_, fun name hname value hvalue => Rule.Security.serverHidden_reports hname hvalue⟩
  obtain ⟨ks, hks, k, hk, hwords, hfinding⟩ := Rule.exists_kind hf
  have hsound := Rule.kinds_sound c ks hks k hk
  have hbrace : '\x7b' ∉ k.subject.toList := Rule.subjects_free hsound.subject _ (by decide)
  refine ⟨ks, hks, k, hk, hsound.known, hsound.category, ?_,
    Rule.isAbout_of_mem_subjects hsound.known hsound.subject, hwords, hsound.description_ne_empty hwords⟩
  rw [hfinding]
  exact Rule.builtFrom_about hsound.known hbrace

/-- A server that calls itself by the mark of a place. -/
theorem findings_from_base_braces :
    let name : List UInt8 := [123, 115, 117, 98, 106, 101, 99, 116, 125]
    let page : Page := ⟨"https://a/", 200, [⟨"server", name⟩], "", ⟨0⟩⟩
    page.header? "Server" = some Template.placeholder ∧
      ∃ f ∈ (AuditResult.evaluate "https://a" page ⟨⟨⟨2025, 3, 14⟩, 9, 26, 53, 0⟩, 0⟩).security.findings,
        f.name = "Server Information Disclosure" ∧
          f.description = "Server header reveals server information: " ++ Template.placeholder := by
  intro name page
  have hlines : bytesOf page.headers "Server" = [name] := by
    simp only [bytesOf, Header.isNamed_eq]
    decide +kernel
  have hvalue : page.header? "Server" = some Template.placeholder := by
    rw [Page.header?, header?, headerValues_eq, hlines]
    rfl
  obtain ⟨-, hreported⟩ :=
    findings_from_base "https://a" page ⟨⟨⟨2025, 3, 14⟩, 9, 26, 53, 0⟩, 0⟩ .security
  exact ⟨hvalue, _, hreported "Server" (by decide) _ hvalue, rfl, rfl⟩

end PageAudit
