import PageAudit.Proofs.Instant.RoundTrip
import PageAudit.Proofs.Json.RoundTrip
import PageAudit.Report.Json
/-!
Results written as JSON and read again. `json_restored` says that reading a saved report restores the
result in every field but its time: any texts, any scores, any status, fields that are there and
fields that are not, and any findings. Its time is written with the offset of the clocks in whole
minutes, so it is restored where they are ahead by whole minutes, and elsewhere it is not.

A load time has to be finite, as JSON has no texts for the others, and its shortest decimal has to
read back, which is a matter of the number reader alone (`ReadsBack`).
-/
namespace PageAudit

/-- The shortest decimal of a value is read as that value. -/
def Json.ReadsBack (x : Binary64) : Prop := Json.number? (Json.realText x).toList = some (.real x, [])

instance (x : Binary64) : Decidable (Json.ReadsBack x) := inferInstanceAs (Decidable (_ = _))

namespace Report

/-! ### Fields -/

theorem mapM_map {α β : Type} {write : α → β} {read : β → Option α} (xs : List α)
    (h : ∀ x ∈ xs, read (write x) = some x) : (xs.map write).mapM read = some xs := by
  induction xs with
  | nil => rfl
  | cons x xs ih =>
    rw [List.map_cons, List.mapM_cons, h x (.head _), ih fun y hy => h y (.tail _ hy)]
    rfl

theorem optional?_ofOption {α : Type} {write : α → Json} {read : Json → Option α} {o : Option α}
    (h : ∀ a ∈ o, read (write a) = some a ∧ write a ≠ .null) :
    optional? read (some (ofOption write o)) = some o := by
  cases o with
  | none => rfl
  | some a =>
    obtain ⟨hread, hnull⟩ := h a rfl
    have hpresent : Json.present? (some (write a)) = some (write a) := by
      unfold Json.present?
      split
      · next heq => exact absurd (Option.some.inj heq) hnull
      · rfl
    show optional? read (some (write a)) = _
    rw [optional?, hpresent]
    dsimp only
    rw [hread]
    rfl

theorem toByte?_natural (n : UInt8) : toByte? (.number (.natural n.toNat)) = some n := by
  show ((some n.toNat).filter _).map _ = _
  rw [Option.filter_some, if_pos (decide_eq_true n.toNat_lt), Option.map_some, UInt8.ofNat_toNat]

theorem toStatus?_natural (n : UInt16) : toStatus? (.number (.natural n.toNat)) = some n := by
  show ((some n.toNat).filter _).map _ = _
  rw [Option.filter_some, if_pos (decide_eq_true n.toNat_lt), Option.map_some, UInt16.ofNat_toNat]

/-! ### Records -/

theorem toFinding?_ofFinding (f : Finding) : toFinding? (ofFinding f) = some f := by
  have hfields : fields? ["name", "description", "fix_steps"] (ofFinding f) =
      some [some (.string f.name), some (.string f.description), some (.array (f.fixSteps.map .string))] :=
    rfl
  have hsteps : (f.fixSteps.map Json.string).mapM Json.text? = some f.fixSteps :=
    mapM_map f.fixSteps fun _ _ => rfl
  rw [toFinding?, hfields]
  simp only [Option.bind_eq_bind, Option.bind_some, Json.text?, Json.items?, hsteps]

theorem toCategory?_ofCategory (r : CategoryResult) : toCategory? (ofCategory r) = some r := by
  have hfields : fields? ["score", "findings"] (ofCategory r) =
      some [some (.number (.natural r.score.toNat)), some (.array (r.findings.map ofFinding))] := rfl
  have hfindings : (r.findings.map ofFinding).mapM toFinding? = some r.findings :=
    mapM_map r.findings fun f _ => toFinding?_ofFinding f
  rw [toCategory?, hfields]
  simp only [Option.bind_eq_bind, Option.bind_some, toByte?_natural, Json.items?, hfindings]

theorem toReal?_ofReal {x : Binary64} (h : x.isFinite = true) :
    toReal? (ofReal x) = some x ∧ ofReal x ≠ .null := by
  rw [ofReal, if_pos h]
  exact ⟨rfl, nofun⟩

theorem toResult?_ofResult {r : AuditResult} (hload : ∀ x ∈ r.loadTime, x.isFinite = true) :
    toResult? (ofResult r) = (Instant.read? r.scanTime.exact).map fun t => { r with scanTime := t } := by
  have hfields : fields? resultFields (ofResult r) = some [
      some (.string r.url), some (.string r.scanTime.exact), some (ofOption .string r.finalUrl),
      some (ofOption (fun s => .number (.natural s.toNat)) r.status), some (ofOption ofReal r.loadTime),
      some (ofCategory r.security), some (ofCategory r.performance), some (ofCategory r.seo),
      some (ofCategory r.accessibility), some (ofOption .string r.error)] := rfl
  have htext : ∀ o : Option String, optional? Json.text? (some (ofOption .string o)) = some o :=
    fun o => optional?_ofOption fun _ _ => ⟨rfl, nofun⟩
  have hstatus :
      optional? toStatus? (some (ofOption (fun s : UInt16 => .number (.natural s.toNat)) r.status)) =
        some r.status :=
    optional?_ofOption fun s _ => ⟨toStatus?_natural s, nofun⟩
  have hreal : optional? toReal? (some (ofOption ofReal r.loadTime)) = some r.loadTime :=
    optional?_ofOption fun x hx => toReal?_ofReal (hload x hx)
  rw [toResult?, hfields]
  simp only [Option.bind_eq_bind, Option.bind_some, Json.text?, htext, hstatus, hreal, toCategory?_ofCategory]
  cases Instant.read? r.scanTime.exact with
  | none => rfl
  | some t => rfl

/-! ### Texts -/

open Json (Readable)

theorem readable_natural {n : Nat} (h : n < UInt64.size) : Readable (.number (.natural n)) :=
  .number (Json.number?_natural h)

theorem readable_ofOption {α : Type} {write : α → Json} {o : Option α} (h : ∀ a ∈ o, Readable (write a)) :
    Readable (ofOption write o) := by
  cases o with
  | none => exact .null
  | some a => exact h a rfl

theorem readable_ofFinding (f : Finding) : Readable (ofFinding f) := by
  refine .object ?_
  simp only [List.forall_mem_cons]
  exact ⟨.string _, .string _, .array (List.forall_mem_map.mpr fun s _ => .string s), List.forall_mem_nil _⟩

theorem readable_ofCategory (r : CategoryResult) : Readable (ofCategory r) := by
  refine .object ?_
  simp only [List.forall_mem_cons]
  exact ⟨readable_natural (Nat.lt_trans r.score.toNat_lt (by decide)),
    .array (List.forall_mem_map.mpr fun f _ => readable_ofFinding f), List.forall_mem_nil _⟩

theorem readable_ofReal {x : Binary64} (h : Json.ReadsBack x) : Readable (ofReal x) := by
  unfold ofReal
  split
  · exact .number h
  · exact .null

theorem readable_ofResult {r : AuditResult} (h : ∀ x ∈ r.loadTime, Json.ReadsBack x) :
    Readable (ofResult r) := by
  refine .object ?_
  simp only [List.forall_mem_cons]
  refine ⟨.string _, .string _, ?finalUrl, ?status, ?loadTime, readable_ofCategory _, readable_ofCategory _,
    readable_ofCategory _, readable_ofCategory _, ?error, List.forall_mem_nil _⟩
  case finalUrl => exact readable_ofOption fun u _ => .string u
  case status => exact readable_ofOption fun s _ => readable_natural (Nat.lt_trans s.toNat_lt (by decide))
  case loadTime => exact readable_ofOption fun x hx => readable_ofReal (h x hx)
  case error => exact readable_ofOption fun e _ => .string e

/-- What is read from a saved result: its time as the reader of times takes it, and the rest as it was. -/
theorem read?_json {r : AuditResult} (hfinite : ∀ x ∈ r.loadTime, x.isFinite = true)
    (hload : ∀ x ∈ r.loadTime, Json.ReadsBack x) (zone : Zone) :
    Report.read? zone (Report.json r) =
      (ZonedTime.read? zone r.scanTime.exact).map fun t => { r with scanTime := t } := by
  rw [Report.read?, Report.json, Json.read?_pretty (readable_ofResult hload), Option.bind_some,
    toResult?_ofResult hfinite, ZonedTime.read?, Option.map_map, Option.map_map]
  rfl

/-- Nothing but the time can keep a result from being restored. -/
theorem map_scanTime_eq_some {r : AuditResult} {t : Option ZonedTime} :
    (t.map fun t => { r with scanTime := t }) = some r ↔ t = some r.scanTime := by
  constructor
  · intro h
    obtain ⟨time, rfl, hr⟩ := Option.map_eq_some_iff.mp h
    exact congrArg (some ·.scanTime) hr
  · rintro rfl
    rfl

/-- **Saved results are restored.** Let a result have a time of some zone, and a load time, where there
is one, that is finite and has a shortest decimal that reads back. It was written as JSON, and wherever
that is read, every field but the time is as it was. In its own zone the time is, too, exactly if the
clocks were ahead of Universal Time by whole minutes and showed a day of the calendar, which they always
do in Universal Time and in all years but the first and the last. -/
theorem json_restored {zone : Zone} {r : AuditResult}
    (hscan : ∃ s, ZonedTime.read? zone s = some r.scanTime)
    (hfinite : ∀ x ∈ r.loadTime, x.isFinite = true) (hload : ∀ x ∈ r.loadTime, Json.ReadsBack x) :
    (∀ other, Report.read? other (Report.json r) =
      (ZonedTime.read? other r.scanTime.exact).map fun t => { r with scanTime := t }) ∧
    (Report.read? zone (Report.json r) = some r ↔
      r.scanTime.clock.isValid = true ∧ 60 ∣ r.scanTime.offset) ∧
    (r.scanTime.offset = 0 → Report.read? zone (Report.json r) = some r) ∧
    (60 ∣ r.scanTime.offset → Date.minYear < r.scanTime.instant.date.year →
      r.scanTime.instant.date.year < Date.maxYear → Report.read? zone (Report.json r) = some r) := by
  obtain ⟨s, hs⟩ := hscan
  obtain ⟨htime, hzone⟩ := ZonedTime.isTime_of_read? hs
  have hread := read?_json hfinite hload
  have hiff : Report.read? zone (Report.json r) = some r ↔
      r.scanTime.clock.isValid = true ∧ 60 ∣ r.scanTime.offset := by
    have htimes : ZonedTime.read? zone r.scanTime.exact = some (zone.time r.scanTime.instant) ↔ _ :=
      htime.read?_exact_iff
    rw [hread, map_scanTime_eq_some, ← htimes, ← hzone]
  refine ⟨hread, hiff, fun hzero => ?_, fun hwhole hlow hhigh => ?_⟩
  · exact hiff.mpr ⟨htime.clock_isValid (.inl hzero), hzero ▸ Int.dvd_zero 60⟩
  · exact hiff.mpr ⟨htime.clock_isValid (.inr ⟨hlow, hhigh⟩), hwhole⟩

/-- A leap second before the year zero on clocks that are behind by half an hour, a load time, and texts
that need escapes. -/
theorem json_restored_escapes :
    let zone : Zone := ⟨fun _ => -1800, fun _ => by decide⟩
    let scanTime : ZonedTime := ⟨⟨⟨-1, 12, 31⟩, 23, 59, 60, 500000⟩, -1800⟩
    let r : AuditResult := { AuditResult.failed "a\"\\" scanTime "\x00\n\u0085\u2028" with
      loadTime := some ⟨0x3FF8000000000000⟩
      seo := ⟨255, [⟨"", "/", []⟩, ⟨"n", "d", ["s", ""]⟩]⟩ }
    Report.read? zone (Report.json r) = some r := by
  intro zone scanTime r
  have hscan : ∃ s, ZonedTime.read? zone s = some r.scanTime :=
    ⟨"-1-12-31t23:29:60.0005 -0030", by decide +kernel⟩
  have hfinite : ∀ x ∈ r.loadTime, x.isFinite = true := fun x hx => Option.some.inj hx ▸ by decide
  have hload : ∀ x ∈ r.loadTime, Json.ReadsBack x := fun x hx => Option.some.inj hx ▸ by decide +kernel
  obtain ⟨-, -, -, hwhole⟩ := json_restored hscan hfinite hload
  exact hwhole (by decide) (by decide) (by decide)

/-- On clocks that are ahead by 49 minutes and 56 seconds, as those of Rome once were, the first instant
of the year 1800 is written with an offset of 50 minutes and read as another one; and on clocks that
are ahead by an hour the last hour of the calendar belongs to a year that is not read. -/
theorem json_shifted :
    let rome : Zone := ⟨fun _ => 2996, fun _ => by decide⟩
    let berlin : Zone := ⟨fun _ => 3600, fun _ => by decide⟩
    let r := AuditResult.failed "https://a" (rome.time ⟨⟨1800, 1, 1⟩, 0, 0, 0, 0⟩) "no answer"
    let last := AuditResult.failed "https://a" (berlin.time ⟨⟨262142, 12, 31⟩, 23, 30, 0, 0⟩) "no answer"
    (ZonedTime.read? rome "1800-01-01T00:00:00Z" = some r.scanTime ∧
      r.scanTime.exact = "1800-01-01T00:49:56+00:50" ∧
      Report.read? rome (Report.json r) =
        some { r with scanTime := rome.time ⟨⟨1799, 12, 31⟩, 23, 59, 56, 0⟩ } ∧
      Report.read? rome (Report.json r) ≠ some r) ∧
    ZonedTime.read? berlin "+262142-12-31T23:30:00Z" = some last.scanTime ∧
    Report.read? berlin (Report.json last) = none := by
  intro rome berlin r last
  have hload : r.loadTime = none ∧ last.loadTime = none := ⟨rfl, rfl⟩
  have hexact : r.scanTime.exact = "1800-01-01T00:49:56+00:50" := by decide +kernel
  have hread : Report.read? rome (Report.json r) =
      some { r with scanTime := rome.time ⟨⟨1799, 12, 31⟩, 23, 59, 56, 0⟩ } := by
    rw [read?_json (by simp [hload]) (by simp [hload]), hexact]
    rfl
  have hlast : ZonedTime.read? berlin last.scanTime.exact = none := by decide +kernel
  refine ⟨⟨by decide +kernel, hexact, hread, ?_⟩, by decide +kernel, ?_⟩
  · rw [hread]
    intro hsame
    exact absurd (congrArg (·.scanTime.instant.second) (Option.some.inj hsame)) (by decide)
  · rw [read?_json (by simp [hload]) (by simp [hload]), hlast]
    rfl

end Report

end PageAudit
