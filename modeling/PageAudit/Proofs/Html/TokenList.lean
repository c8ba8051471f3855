import PageAudit.Proofs.Html.Scope
import PageAudit.Proofs.Text.Words
/-!
Lists of tokens. An attribute such as `rel` lists tokens with ASCII white space between them, and an element is
asked for by one of these. `listed_found` says which elements that finds: the token stands in the value as it
is, with white space or an end of the value on both sides. What is no single token, because it is empty or has
white space in it, is listed nowhere.
-/
namespace PageAudit.Html.Document

open Text

theorem findAllWithToken_sublist (d : Document) (tag key token : String) :
    (d.findAllWithToken tag key token).Sublist (d.findAll tag) := by
  rw [findAllWithToken_eq]
  exact List.filter_sublist

variable {d : Document} {n : Node} {tag key token : String}

/-- An element is found by what stands apart in its attribute. -/
theorem mem_findAllWithToken_iff : n ∈ d.findAllWithToken tag key token ↔
    n ∈ d.findAll tag ∧ Solid token.toList ∧
      ∃ value ∈ n.attribute? key, StandsIn token.toList value.toList := by
  rw [findAllWithToken_eq, List.mem_filter, decide_eq_true_iff]
  simp only [mem_words_iff, and_left_comm, exists_and_left]

/-- What is no token is not found, whatever the attributes say. -/
theorem findAllWithToken_of_not_solid (h : ¬ Solid token.toList) : d.findAllWithToken tag key token = [] :=
  List.eq_nil_iff_forall_not_mem.mpr fun _ hn => h (mem_findAllWithToken_iff.mp hn).2.1

theorem not_solid_of_blank (h : token = "" ∨ ∃ c ∈ token.toList, isAsciiBlank c = true) :
    ¬ Solid token.toList := by
  rintro ⟨hne, hblank⟩
  rcases h with rfl | ⟨c, hc, hcb⟩
  · exact hne rfl
  · exact Bool.false_ne_true ((hblank c hc).symm.trans hcb)

/-- **Elements are found by the tokens that they list.** With a token of one word, the elements of a name are
found in whose attribute it stands with ASCII white space, or an end of the value, on both sides; nothing is
found with a text that is empty or has white space in it. Those that are found are some of the elements of the
name, and in a document that was read they stand in document order and none twice, however often an element
lists the token. -/
theorem listed_found :
    (∀ (d : Document) (tag key token : String),
      (token ≠ "" → (∀ c ∈ token.toList, isAsciiBlank c = false) → ∀ n,
        n ∈ d.findAllWithToken tag key token ↔
          (n.IsElement ∧ (n = d.root ∨ n.Below d.root) ∧ n.name = tag.toLower) ∧
          ∃ value, n.attribute? key = some value ∧ ∃ before after,
            value.toList = before ++ token.toList ++ after ∧ EndsBlank before ∧ StartsBlank after) ∧
      (token = "" ∨ (∃ c ∈ token.toList, isAsciiBlank c = true) → d.findAllWithToken tag key token = []) ∧
      (d.findAllWithToken tag key token).Sublist (d.findAll tag)) ∧
    ∀ text tag key token, Node.Ascending ((parse text).findAllWithToken tag key token) ∧
      ((parse text).findAllWithToken tag key token).Nodup := by
  refine ⟨fun d tag key token => ⟨fun hne hblank n => ?found, fun h => ?nothing,
    findAllWithToken_sublist d tag key token⟩, fun text tag key token => ?order⟩
  case found =>
    have hsolid : Solid token.toList := ⟨by simpa using hne, hblank⟩
    rw [mem_findAllWithToken_iff, and_iff_right hsolid, mem_findAll_iff]
    rfl
  case nothing => exact findAllWithToken_of_not_solid (not_solid_of_blank h)
  case order =>
    have hall : Node.Ascending ((parse text).findAll tag) := (ordered_parse text).sublist List.filter_sublist
    have hascending := hall.sublist (findAllWithToken_sublist _ tag key token)
    exact ⟨hascending, hascending.nodup⟩

/-- Of two links one lists a token twice, after a tab; in the other a no-break space belongs to the word. -/
theorem listed_found_repeated :
    let link (position : Nat) (rel : String) : Node := .element ⟨position, "link", [⟨"rel", rel, true⟩]⟩ []
    let sheet := link 1 "\tpreload stylesheet stylesheet"
    let other := link 2 "stylesheet\u00a0preload"
    let d : Document := ⟨.element ⟨0, "html", []⟩ [sheet, other]⟩
    ("stylesheet" ≠ "" ∧ ∀ c ∈ "stylesheet".toList, isAsciiBlank c = false) ∧
      sheet ∈ d.findAllWithToken "LINK" "Rel" "stylesheet" ∧
      other ∉ d.findAllWithToken "LINK" "Rel" "stylesheet" ∧
      (∃ c ∈ "preload stylesheet".toList, isAsciiBlank c = true) ∧
      d.findAllWithToken "LINK" "Rel" "preload stylesheet" = [] := by
  intro link sheet other d
  have htoken : "stylesheet" ≠ "" ∧ ∀ c ∈ "stylesheet".toList, isAsciiBlank c = false := by
    simp [isAsciiBlank]
  have htwo : ∃ c ∈ "preload stylesheet".toList, isAsciiBlank c = true := ⟨' ', by simp, rfl⟩
  have hlink : "link" = "LINK".toLower := by decide +kernel
  have hrel : sheet.attribute? "Rel" = some "\tpreload stylesheet stylesheet" := by decide +kernel
  obtain ⟨hfound, -, -⟩ := listed_found.1 d "LINK" "Rel" "stylesheet"
  obtain ⟨-, hnothing, -⟩ := listed_found.1 d "LINK" "Rel" "preload stylesheet"
  refine ⟨htoken, (hfound htoken.1 htoken.2 sheet).mpr ⟨⟨trivial, .inr (.child List.mem_cons_self), hlink⟩,
    _, hrel, "\tpreload ".toList, " stylesheet".toList, rfl, ?_, ?_⟩, ?_, htwo, hnothing (.inr htwo)⟩
  · exact .inr ⟨"\tpreload".toList, ' ', rfl, rfl⟩
  · exact .inr ⟨' ', "stylesheet".toList, rfl, rfl⟩
  · have hother : other.attribute? "Rel" = some "stylesheet\u00a0preload" := by decide +kernel
    have hword : "stylesheet" ∉ words "stylesheet\u00a0preload" := by decide +kernel
    rw [hfound htoken.1 htoken.2]
    rintro ⟨-, value, hvalue, hstands⟩
    obtain rfl := Option.some_inj.mp (hother.symm.trans hvalue)
    exact hword (mem_words_iff.mpr ⟨⟨by simp, htoken.2⟩, hstands⟩)

end PageAudit.Html.Document
