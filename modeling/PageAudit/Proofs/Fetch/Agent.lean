import PageAudit.Audit.Run
import PageAudit.Proofs.Config.Settings
import PageAudit.Proofs.Fetch.Trail
import PageAudit.Proofs.Text.Utf8
/-!
The name that requests are made under. A header line can carry every name but those with a control character
other than the tab (`isSendable_iff`), and a fetch is refused before its first request exactly if its settings
have a name with one (`run_refused_iff`). The settings take such a name as it stands, while they ignore
numbers that are of no use; so there is a variable that makes every audit fail, and it is the only one
(`refused_agents`).
-/
namespace PageAudit.Fetch

/-! ### Names that can be sent -/

/-- The control characters of ASCII but for the tab. -/
def IsControl (c : Char) : Prop := c.toNat < 32 ∧ c.toNat ≠ 9 ∨ c.toNat = 127

instance (c : Char) : Decidable (IsControl c) :=
  inferInstanceAs (Decidable (c.toNat < 32 ∧ c.toNat ≠ 9 ∨ c.toNat = 127))

/-- A text with such a character. -/
def HasControl (s : String) : Prop := ∃ c ∈ s.toList, IsControl c

-- found by the type it might be a search through all characters there are
instance (s : String) : Decidable (HasControl s) := List.decidableBEx IsControl s.toList

theorem isValueByte_iff {b : UInt8} :
    Header.isValueByte b = true ↔ ¬ (b.toNat < 32 ∧ b.toNat ≠ 9 ∨ b.toNat = 127) := by
  rw [Header.isValueByte, Bool.or_eq_true, Bool.and_eq_true, decide_eq_true_iff, bne_iff_ne, beq_iff_eq,
    UInt8.le_iff_toNat_le, Ne, ← UInt8.toNat_inj, ← UInt8.toNat_inj]
  show 32 ≤ b.toNat ∧ ¬ b.toNat = 127 ∨ b.toNat = 9 ↔ _
  omega

/-- A header line can carry a name exactly if it has no control character other than the tab. -/
theorem isSendable_iff (agent : String) : isSendable agent = true ↔ ¬ HasControl agent := by
  simp only [isSendable, List.all_eq_true, isValueByte_iff, HasControl, not_exists, not_and]
  constructor
  · intro hbytes c hc hcontrol
    have hascii : c.toNat < 128 := by
      unfold IsControl at hcontrol
      omega
    obtain ⟨b, hb⟩ : ∃ b : UInt8, c.toNat = b.toNat :=
      ⟨UInt8.ofNat c.toNat, by rw [UInt8.toNat_ofNat', Nat.mod_eq_of_lt (by omega)]⟩
    unfold IsControl at hcontrol
    rw [hb] at hascii hcontrol
    exact hbytes b ((Text.mem_utf8_iff hascii).mpr ⟨c, hc, hb⟩) hcontrol
  · intro hchars b hb hcontrol
    -- only an ASCII byte can be one of a control character
    obtain ⟨c, hc, hnumber⟩ := (Text.mem_utf8_iff (by omega)).mp hb
    rw [← hnumber] at hcontrol
    exact hchars c hc hcontrol

/-! ### Fetches that are refused -/

variable {net : Network} {config : Config} {u : Url} {left : Nat}

theorem run_of_hasControl (h : HasControl config.userAgent) (net : Network) (url : String) :
    run net config url = ⟨.error (.client "builder error"), [], none⟩ := by
  have hsendable : ¬ isSendable config.userAgent = true := fun hs => (isSendable_iff _).mp hs h
  rw [run, Bool.eq_false_iff.mpr hsendable]
  rfl

/-- A fetch that makes a request is not refused any more. -/
theorem Ends.ne_client {result : Except FetchError Page} (h : Ends net config left u result) (m : String) :
    result ≠ .error (.client m) := by
  rintro rfl
  generalize hrefused : Except.error (FetchError.client m) = result at h
  cases h with
  | unanswered hsend =>
    obtain rfl := Except.error.inj hrefused
    rcases send_error hsend with heq | ⟨fault, heq⟩
    · cases heq
    · cases fault <;> cases heq
  | @answered response hsend hnext =>
    unfold pageOf at hrefused
    split at hrefused
    · next fault _ => cases fault <;> cases hrefused
    · cases hrefused
  | stopped | astray => cases hrefused

theorem run_ne_client (h : ¬ HasControl config.userAgent) (net : Network) (url m : String) :
    (run net config url).result ≠ .error (.client m) := by
  unfold run
  rw [(isSendable_iff _).mpr h]
  cases hparse : Url.parse? url with
  | none => exact fun hrefused => nomatch hrefused
  | some u =>
    cases haddress : isAddressable u.withoutUser with
    | false =>
      simp only [haddress]
      exact fun hrefused => nomatch hrefused
    | true =>
      simp only [haddress]
      obtain ⟨before, last, htrail⟩ := follow_trail net config config.maxRedirects u.withoutUser
      exact htrail.ends.ne_client m

/-- A fetch is refused before its first request exactly if it is to be made under a name with a control
character. -/
theorem run_refused_iff (net : Network) (config : Config) (url : String) :
    (∃ m, (run net config url).result = .error (.client m)) ↔ HasControl config.userAgent := by
  by_cases h : HasControl config.userAgent
  · exact iff_of_true ⟨_, congrArg Outcome.result (run_of_hasControl h net url)⟩ h
  · exact iff_of_false (fun ⟨m, hm⟩ => run_ne_client h net url m hm) h

end PageAudit.Fetch

namespace PageAudit

open Fetch

/-! ### Settings that refuse every fetch -/

namespace Config

/-- A value that the settings take for a name though no header line can carry it. -/
structure Unsendable (value : String) : Prop where
  nonBlank : NonBlank value
  control : HasControl value

variable {lookup : String → Option String} {value : String}

theorem userAgent_of_nonBlank (h : lookup userAgentKey = some value) (hvalue : NonBlank value) :
    (ofLookup lookup).userAgent = value := by
  have hchosen := userAgent_chosen lookup
  rw [h] at hchosen
  generalize (ofLookup lookup).userAgent = agent at hchosen ⊢
  cases hchosen with
  | overridden hnames => exact hnames.same
  | ignored hblank => exact absurd ⟨hvalue, rfl⟩ (hblank value)

/-- Settings have a name with a control character exactly if its variable gives them one. -/
theorem hasControl_ofLookup_iff (lookup : String → Option String) :
    HasControl (ofLookup lookup).userAgent ↔
      ∃ value, lookup userAgentKey = some value ∧ Unsendable value := by
  have hdefault : ¬ HasControl default.userAgent := by decide +kernel
  constructor
  · intro hcontrol
    have hchosen := userAgent_chosen lookup
    generalize lookup userAgentKey = given at hchosen ⊢
    generalize (ofLookup lookup).userAgent = agent at hchosen hcontrol
    cases hchosen with
    | overridden hnames =>
      obtain ⟨hvalue, rfl⟩ := hnames
      exact ⟨_, rfl, hvalue, hcontrol⟩
    | unset | ignored _ => exact absurd hcontrol hdefault
  · rintro ⟨value, hlookup, hunsendable⟩
    rw [userAgent_of_nonBlank hlookup hunsendable.nonBlank]
    exact hunsendable.control

end Config

/-- **One variable can make every audit fail.** The settings have a name that no header line can carry exactly if
its variable has a value that is not blank but has a control character other than the tab. They take such a
value as it stands; then every fetch is refused before its first request, and every audit ends with that
error. With all other settings no fetch is refused. -/
theorem refused_agents (lookup : String → Option String) :
    (HasControl (Config.ofLookup lookup).userAgent ↔
      ∃ value, lookup "VANGUARD_RS_AUDIT_USER_AGENT" = some value ∧ Config.Unsendable value) ∧
    (∀ value, lookup "VANGUARD_RS_AUDIT_USER_AGENT" = some value → Config.Unsendable value →
      (Config.ofLookup lookup).userAgent = value ∧
      (∀ net url, run net (Config.ofLookup lookup) url = ⟨.error (.client "builder error"), [], none⟩) ∧
      ∀ net now input, audit net (Config.ofLookup lookup) now input = ⟨.failed (normalizeUrl input) now
        "Failed to access website: could not build HTTP client: builder error", []⟩) ∧
    (∀ net url m, (run net (Config.ofLookup lookup) url).result = .error (.client m) →
      HasControl (Config.ofLookup lookup).userAgent) := by
  have hcontrol := Config.hasControl_ofLookup_iff lookup
  refine ⟨hcontrol, fun value hlookup hunsendable => ?taken, fun net url m hclient => ?refused⟩
  case taken =>
    have hrun := run_of_hasControl (hcontrol.mpr ⟨value, hlookup, hunsendable⟩)
    refine ⟨Config.userAgent_of_nonBlank hlookup hunsendable.nonBlank, hrun, fun net now input => ?_⟩
    simp only [audit, hrun]
    rfl
  case refused => exact (run_refused_iff net (Config.ofLookup lookup) url).mp ⟨m, hclient⟩

/-- A name with a line break is taken, and then no page is asked for. -/
theorem broken_agent_taken :
    let lookup (key : String) : Option String :=
      if key = "VANGUARD_RS_AUDIT_USER_AGENT" then some "probe\n1.0" else none
    let c := Config.ofLookup lookup
    c.userAgent = "probe\n1.0" ∧ HasControl c.userAgent ∧ c ≠ Config.default ∧
      ∀ net url, (run net c url).result = .error (.client "builder error") ∧ (run net c url).requests = [] := by
  intro lookup c
  have hagent : c.userAgent = "probe\n1.0" := by decide +kernel
  have hcontrol : HasControl c.userAgent := by
    rw [hagent]
    decide +kernel
  refine ⟨hagent, hcontrol, by decide +kernel, fun net url => ?_⟩
  rw [run_of_hasControl hcontrol]
  exact ⟨rfl, rfl⟩

end PageAudit
