import PageAudit.Proofs.Finding.Base
/-!
What a finding is about. Of the entries of the base only that of a missing header has a place for a subject
(`hasPlace_of_ne`). There the subject is put as it is: it may look like the mark of the place or have a part of
it at its ends, and is not gone through again (`about_headerMissing`). `subject_put_once` says what this makes of
a finding, whatever its code.
-/
namespace PageAudit

namespace Knowledge

variable {k : Knowledge} {code subject description : String}

theorem find?_eq_none_iff : find? code = none ↔ ∀ k ∈ base, k.code ≠ code := by
  rw [find?, List.find?_eq_none]
  exact forall₂_congr fun k _ => not_congr beq_iff_eq

/-- A code that the base does not have is all that its finding says. -/
theorem about_unknown (h : ∀ k ∈ base, k.code ≠ code) :
    Finding.about code subject description = ⟨code, description, []⟩ := by
  rw [Finding.about, find?_eq_none_iff.mpr h]

/-- All codes but one lead to entries without a place. -/
theorem hasPlace_of_ne (hk : k ∈ base) (hcode : k.code ≠ "SEC_HEADER_MISSING") :
    ∀ t ∈ k.templates, t.hasPlace = false := by
  rcases hasPlace_base k hk with rfl | hfixed
  · exact absurd rfl hcode
  · exact hfixed

/-- An entry without a place for a subject gives its own texts. -/
theorem about_fixed (hk : k ∈ base) (hcode : k.code ≠ "SEC_HEADER_MISSING") (subject description : String) :
    Finding.about k.code subject description = ⟨k.title.raw, description, k.fixSteps.map Template.raw⟩ := by
  have hfixed := hasPlace_of_ne hk hcode
  rw [about_code hk, finding, Template.fill_of_fixed (hfixed k.title (.head _)) subject,
    List.map_congr_left fun t ht => Template.fill_of_fixed (hfixed t (.tail _ ht)) subject]

end Knowledge

namespace Finding

/-- What is missing, read off the name of a finding. -/
def missing (f : Finding) : String := String.ofList (f.name.toList.drop "Missing ".length)

theorem missing_of_name {f : Finding} {subject : String} (h : f.name = "Missing " ++ subject) :
    f.missing = subject := by
  rw [missing, h, String.toList_append]
  exact String.ofList_toList

theorem about_headerMissing (subject description : String) :
    about "SEC_HEADER_MISSING" subject description =
      ⟨"Missing " ++ subject, description, ("Add " ++ subject ++ " header to server configuration") ::
        Knowledge.headerMissing.fixSteps.tail.map Template.raw⟩ := by
  have hname : Knowledge.headerMissing.title.fill subject = "Missing " ++ subject := String.append_empty
  have hknown : Knowledge.headerMissing ∈ Knowledge.base := Knowledge.mem_of_find? rfl
  show about Knowledge.headerMissing.code subject description = _
  rw [Knowledge.about_code hknown, Knowledge.finding, hname]
  rfl

/-- **A subject is put where it belongs, once.** The description of a finding is the one that was given. For a
missing header the name and the first step have the subject in their midst as it is, even if it looks like the
mark of its place, so that it can be read off the name. With any code of the base, the name and the steps are
the texts of its entry with each mark replaced, from left to right and not again in what was put there; with any
but that of a missing header they are those texts as they stand, for one subject as for another. A code that the
base does not have is the name, and there is nothing to do. -/
theorem subject_put_once :
    ∀ code subject description : String,
      let f := about code subject description
      f.description = description ∧
      (code = "SEC_HEADER_MISSING" → f.name = "Missing " ++ subject ∧
        f.fixSteps.head? = some ("Add " ++ subject ++ " header to server configuration") ∧
        f.missing = subject) ∧
      (∀ k ∈ Knowledge.base, k.code = code →
        f.name = Text.replaced Template.placeholder subject k.title.raw ∧
        f.fixSteps = (k.fixSteps.map fun step => Text.replaced Template.placeholder subject step.raw) ∧
        (code ≠ "SEC_HEADER_MISSING" → f.name = k.title.raw ∧ f.fixSteps = k.fixSteps.map Template.raw ∧
          ∀ other, about code other description = f)) ∧
      ((∀ k ∈ Knowledge.base, k.code ≠ code) → f.name = code ∧ f.fixSteps = []) := by
  intro code subject description f
  refine ⟨description_about code subject description, ?header, ?known, ?unknown⟩
  case header =>
    rintro rfl
    have hf : f = _ := about_headerMissing subject description
    have hname : f.name = "Missing " ++ subject := by rw [hf]
    have hstep : f.fixSteps.head? = some ("Add " ++ subject ++ " header to server configuration") := by
      rw [hf, List.head?_cons]
    exact ⟨hname, hstep, missing_of_name hname⟩
  case known =>
    rintro k hk rfl
    have hf : f = k.finding subject description := Knowledge.about_code hk
    obtain ⟨hname, hsteps⟩ := Knowledge.finding_replaced hk subject description
    rw [← hf] at hname hsteps
    refine ⟨hname, hsteps, fun hcode => ?_⟩
    have hfixed (other : String) : about k.code other description = _ :=
      Knowledge.about_fixed hk hcode other description
    have hsame (other : String) : about k.code other description = f := (hfixed other).trans (hfixed subject).symm
    exact ⟨congrArg Finding.name (hfixed subject), congrArg fixSteps (hfixed subject), hsame⟩
  case unknown =>
    intro hunknown
    have hf : f = _ := Knowledge.about_unknown hunknown
    rw [hf]
    exact ⟨rfl, rfl⟩

/-- A subject that is the mark itself, one in which a mark is left when another one is taken out, a code without
a place for either, and a code in the wrong case. -/
theorem subject_put_once_mark :
    (about "SEC_HEADER_MISSING" "\x7bsubject\x7d" "d").name = "Missing \x7bsubject\x7d" ∧
      (about "SEC_HEADER_MISSING" "\x7bsub\x7bsubject\x7dject\x7d" "d").missing =
        "\x7bsub\x7bsubject\x7dject\x7d" ∧
      (about "SEC_SQL_ERROR" "\x7bsubject\x7d" "d").name = "SQL Error Information Disclosure" ∧
      (about "sec_header_missing" "Referrer-Policy" "d").name = "sec_header_missing" := by
  obtain ⟨-, hheader, -⟩ := subject_put_once "SEC_HEADER_MISSING" "\x7bsubject\x7d" "d"
  obtain ⟨-, hinner, -⟩ := subject_put_once "SEC_HEADER_MISSING" "\x7bsub\x7bsubject\x7dject\x7d" "d"
  obtain ⟨-, -, hother, -⟩ := subject_put_once "SEC_SQL_ERROR" "\x7bsubject\x7d" "d"
  obtain ⟨-, -, -, hunknown⟩ := subject_put_once "sec_header_missing" "Referrer-Policy" "d"
  have hknown : Knowledge.databaseError ∈ Knowledge.base := Knowledge.mem_of_find? rfl
  refine ⟨(hheader rfl).1, (hinner rfl).2.2, ?_, (hunknown (by decide +kernel)).1⟩
  exact ((hother _ hknown rfl).2.2 (by decide)).1

end Finding

end PageAudit
