import PageAudit.Proofs.Audit.Outcome
import PageAudit.Proofs.Text.Blank
import PageAudit.Session.Key
/-!
Addresses with a scheme. What people type is trimmed, and a secure scheme is put in front unless it has one
of the two web schemes. `address_normalized` says that doing this again changes nothing and that blanks
around the text do not matter. So a session, which trims what was typed before it audits, and a run as a
command, which does not, audit the same address for the same text; and the rule on secure addresses
complains exactly about those who asked for a plain one.
-/
namespace PageAudit

/-- A text that begins with one of the two web schemes. -/
def HasScheme (address : String) : Prop :=
  Text.startsWith address plainScheme = true ∨ Text.startsWith address secureScheme = true

instance (address : String) : Decidable (HasScheme address) := by
  unfold HasScheme
  infer_instance

theorem normalizeUrl_eq (input : String) :
    normalizeUrl input = if HasScheme (Text.trimmed input) then Text.trimmed input
      else secureScheme ++ Text.trimmed input := by
  simp only [normalizeUrl, HasScheme, Bool.or_eq_true]

theorem startsWith_append (start rest : String) : Text.startsWith (start ++ rest) start = true := by
  rw [Text.startsWith, List.isPrefixOf_iff_prefix, String.toList_append]
  exact List.prefix_append ..

theorem hasScheme_normalizeUrl (input : String) : HasScheme (normalizeUrl input) := by
  rw [normalizeUrl_eq]
  split
  · next h => exact h
  · exact .inr (startsWith_append ..)

/-- No text begins with both schemes. -/
theorem not_secure_of_plain {address : String} (h : Text.startsWith address plainScheme = true) :
    Text.startsWith address secureScheme = false := by
  by_contra hsecure
  rw [Bool.not_eq_false] at hsecure
  rw [Text.startsWith, List.isPrefixOf_iff_prefix] at h hsecure
  have hprefix := List.prefix_of_prefix_length_le h hsecure (by decide)
  revert hprefix
  decide

/-- A secure scheme stands in front of what was typed, unless that has a plain one. -/
theorem secure_normalizeUrl_iff (input : String) :
    Text.startsWith (normalizeUrl input) secureScheme = false ↔
      Text.startsWith (Text.trimmed input) plainScheme = true := by
  rw [normalizeUrl_eq]
  by_cases h : HasScheme (Text.trimmed input)
  · rw [if_pos h]
    refine ⟨fun hsecure => h.resolve_right ?_, not_secure_of_plain⟩
    simp [hsecure]
  · rw [if_neg h]
    have hplain : ¬ Text.startsWith (Text.trimmed input) plainScheme = true := fun hp => h (.inl hp)
    simp [startsWith_append, hplain]

/-- The rule on secure addresses complains of all others. -/
theorem Rule.Security.secureAddress_iff (s : Subject) :
    secureAddress.penalties s ≠ [] ↔ Text.startsWith s.url secureScheme = false := by
  unfold secureAddress
  by_cases h : Text.startsWith s.url secureScheme = true <;> simp [h]

/-! ### Blanks -/

/-- An address with a scheme neither begins nor ends with a blank. -/
theorem trim_normalizeUrl (input : String) :
    Text.trim (normalizeUrl input).toList = (normalizeUrl input).toList := by
  have htrimmed : Text.trim (Text.trimmed input).toList = (Text.trimmed input).toList := by
    rw [Text.trimmed, String.toList_ofList, Text.trim_trim]
  rw [normalizeUrl_eq]
  split
  · exact htrimmed
  · obtain ⟨-, hlast⟩ := Text.trim_eq_self_iff.mp htrimmed
    rw [String.toList_append, Text.trim_eq_self_iff]
    constructor
    · intro c hc
      obtain rfl : 'h' = c := by simpa [secureScheme] using hc
      decide
    · intro c hc
      rw [List.getLast?_append, Option.mem_def, Option.or_eq_some_iff] at hc
      rcases hc with hc | ⟨-, hc⟩
      · exact hlast c hc
      · obtain rfl : '/' = c := by simpa [secureScheme] using hc
        decide

theorem normalizeUrl_normalizeUrl (input : String) : normalizeUrl (normalizeUrl input) = normalizeUrl input := by
  have htrimmed : Text.trimmed (normalizeUrl input) = normalizeUrl input := by
    rw [Text.trimmed, trim_normalizeUrl, String.ofList_toList]
  rw [normalizeUrl_eq (normalizeUrl input), htrimmed, if_pos (hasScheme_normalizeUrl input)]

theorem normalizeUrl_blanks {before after : String} (hbefore : Text.isBlankText before = true)
    (hafter : Text.isBlankText after = true) (input : String) :
    normalizeUrl (before ++ input ++ after) = normalizeUrl input := by
  have htrimmed : Text.trimmed (before ++ input ++ after) = Text.trimmed input := by
    rw [Text.trimmed, String.toList_append, String.toList_append,
      Text.trim_append_blank (List.all_eq_true.mp hafter), Text.trim_blank_append (List.all_eq_true.mp hbefore)]
    rfl
  rw [normalizeUrl_eq, htrimmed, ← normalizeUrl_eq]

/-- The blanks around an address do not matter. -/
theorem normalizeUrl_trimmed (input : String) : normalizeUrl (Text.trimmed input) = normalizeUrl input := by
  simp only [normalizeUrl, Text.trimmed_trimmed]

theorem trimmed_suffix (input : String) :
    (Text.trimmed input).toList <:+ (normalizeUrl input).toList := by
  rw [normalizeUrl_eq]
  split
  · exact List.suffix_rfl
  · rw [String.toList_append]
    exact List.suffix_append ..

/-! ### Audits -/

theorem AuditResult.ofFetch_url (url : String) (scanTime : ZonedTime) (outcome : Except FetchError Page) :
    (AuditResult.ofFetch url scanTime outcome).url = url := by
  cases outcome <;> rfl

/-- The result of an audit is about the address that was given. -/
theorem audit_url (net : Fetch.Network) (config : Config) (now : ZonedTime) (input : String) :
    (audit net config now input).result.url = normalizeUrl input :=
  AuditResult.ofFetch_url ..

/-- The blanks around what was given make no other audit. -/
theorem audit_trimmed (net : Fetch.Network) (config : Config) (now : ZonedTime) (input : String) :
    audit net config now (Text.trimmed input) = audit net config now input := by
  simp only [audit, normalizeUrl_trimmed]

/-- The enter key audits what was typed, unless it is blank. -/
theorem Session.handle_enter {d : Session.Desk} (hn : d.session.noticeShown = false)
    (hp : d.session.phase = .idle) :
    (d.handle (.key .press .enter)).2 =
      if Text.trimmed d.session.input = "" then none else some (Text.trimmed d.session.input) := by
  have hcommand : Command.ofEvent? d.session (.key .press .enter) =
      if Text.trimmed d.session.input = "" then none
      else some (.audit (Text.trimmed d.session.input)) := by
    simp only [Command.ofEvent?, Command.ofKey?, hn, hp]
    rfl
  rw [Desk.handle, hcommand]
  by_cases h : Text.trimmed d.session.input = ""
  · simp [h]
  · simp [h, Command.target?]

/-- **One address for one text.** What becomes of a text has a web scheme and no blanks at its ends, ends
with the trimmed text, and stays what it is when it is given again; blanks around the text do not change it.
The enter key starts an audit unless the text is blank, and it is the audit that a run as a command makes of
the same text. The rule on secure addresses complains exactly if a plain address was typed. -/
theorem address_normalized (input : String) :
    (Text.startsWith (normalizeUrl input) "http://" = true ∨
      Text.startsWith (normalizeUrl input) "https://" = true) ∧
    (∀ c, (normalizeUrl input).toList.head? = some c ∨ (normalizeUrl input).toList.getLast? = some c →
      Text.isBlank c = false) ∧
    (Text.trimmed input).toList <:+ (normalizeUrl input).toList ∧
    normalizeUrl (normalizeUrl input) = normalizeUrl input ∧
    (∀ before after, Text.isBlankText before = true → Text.isBlankText after = true →
      normalizeUrl (before ++ input ++ after) = normalizeUrl input) ∧
    (∀ d : Session.Desk, d.session.noticeShown = false → d.session.phase = .idle →
      d.session.input = input →
      let target := (d.handle (.key .press .enter)).2
      (target = none ↔ Text.isBlankText input = true) ∧
      ∀ typed, target = some typed → ∀ net config now,
        audit net config now typed = audit net config now input) ∧
    (∀ net now lookup args command, CommandLine.parse args = .ok command → command.url = some input →
      let run := audit net (Config.ofLookup lookup) now input
      run.result.url = normalizeUrl input ∧
      ∃ printout, Program.run? net now lookup args = some printout ∧
        printout.output = Program.printed run.result command.json ∧ printout.requests = run.requests) ∧
    (∀ s : Subject, s.url = normalizeUrl input →
      (Rule.Security.secureAddress.penalties s ≠ [] ↔
        Text.startsWith (Text.trimmed input) "http://" = true)) := by
  obtain ⟨hfirst, hlast⟩ := Text.trim_eq_self_iff.mp (trim_normalizeUrl input)
  refine ⟨hasScheme_normalizeUrl input, fun c hc => hc.elim (hfirst c) (hlast c), trimmed_suffix input,
    normalizeUrl_normalizeUrl input, fun before after hbefore hafter => normalizeUrl_blanks hbefore hafter input,
    fun d hn hp hinput => ?_, fun net now lookup args command hargs htarget => ?_, fun s hs => ?_⟩
  · rw [Session.handle_enter hn hp, hinput, ← Text.trimmed_eq_empty_iff]
    by_cases h : Text.trimmed input = ""
    · simp [h]
    · rw [if_neg h]
      refine ⟨by simp [h], ?_⟩
      rintro typed htyped net config now
      rw [← Option.some.inj htyped]
      exact audit_trimmed net config now input
  · obtain ⟨printout, hrun, -, hout⟩ := Program.run?_of_url net now lookup hargs htarget
    exact ⟨audit_url .., printout, hrun, hout⟩
  · rw [Rule.Security.secureAddress_iff, hs]
    exact secure_normalizeUrl_iff input

/-- An address with a wide space in front is typed, and is given to a command with other blanks around it. -/
theorem address_normalized_spaced :
    let input := "\u2003http://a"
    let d : Session.Desk := { session := { noticeShown := false, input := input }, store := { path := "data" } }
    normalizeUrl ("\u00A0" ++ input ++ "\n") = "http://a" ∧
    (d.handle (.key .press .enter)).2 = some "http://a" ∧
    (∀ net config now, audit net config now "http://a" = audit net config now input) ∧
    ∀ s : Subject, s.url = "http://a" → Rule.Security.secureAddress.penalties s ≠ [] := by
  intro input d
  have haddress : normalizeUrl input = "http://a" := by decide +kernel
  have htyped : (d.handle (.key .press .enter)).2 = some "http://a" := by decide +kernel
  have hplain : Text.startsWith (Text.trimmed input) "http://" = true := by decide +kernel
  obtain ⟨-, -, -, -, hblanks, hsession, -, hrule⟩ := address_normalized input
  refine ⟨(hblanks "\u00A0" "\n" (by decide) (by decide)).trans haddress, htyped, ?_, fun s hs => ?_⟩
  · exact (hsession d rfl rfl rfl).2 _ htyped
  · exact (hrule s (hs.trans haddress.symm)).mpr hplain

end PageAudit
