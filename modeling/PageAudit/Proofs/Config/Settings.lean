import PageAudit.Config
import PageAudit.Proofs.Decimal.Signed
/-!
Settings and their variables. A setting is what its variable asks for if that can be used, and the default
if it cannot or if the variable is not set (`Chosen`). What can be asked for can be used, and so can every
default; and a setting depends on no variable but its own (`settings_apart`).
-/
namespace PageAudit.Config

/-- How the variable of a setting decides on it. -/
inductive Chosen {α : Type} (Accepts : String → α → Prop) (fallback : α) : Option String → α → Prop
  | overridden {value : String} {a : α} : Accepts value a → Chosen Accepts fallback (some value) a
  | unset : Chosen Accepts fallback none fallback
  | ignored {value : String} : (∀ a, ¬ Accepts value a) → Chosen Accepts fallback (some value) fallback

theorem chosen_getD {α : Type} {Accepts : String → α → Prop} {read : String → Option α}
    (hread : ∀ value a, read value = some a ↔ Accepts value a) (fallback : α) (given : Option String) :
    Chosen Accepts fallback given ((given.bind read).getD fallback) := by
  cases given with
  | none => exact .unset
  | some value =>
    cases hvalue : read value with
    | none =>
      have hnone : ∀ a, ¬ Accepts value a := by simp [← hread, hvalue]
      simpa [hvalue] using Chosen.ignored hnone
    | some a => simpa [hvalue] using Chosen.overridden ((hread value a).mp hvalue)

/-- What can be used is chosen, if the default can. -/
theorem Chosen.usable {α : Type} {Accepts : String → α → Prop} {Usable : α → Prop} {fallback a : α}
    {given : Option String} (h : Chosen Accepts fallback given a) (hfallback : Usable fallback)
    (haccepts : ∀ value a, Accepts value a → Usable a) : Usable a := by
  cases h with
  | overridden haccepted => exact haccepts _ _ haccepted
  | unset | ignored _ => exact hfallback

/-! ### What the settings accept -/

/-- A value that asks for a number: between blanks it denotes one above zero that a word of 64 bits holds. -/
structure Asks (value : String) (n : Nat) : Prop where
  denotes : Decimal.Unsigned (Text.trim value.toList) n
  pos : 1 ≤ n
  fits : n < 0x10000000000000000

/-- A text with a character that is not blank. -/
def NonBlank (s : String) : Prop := ∃ c ∈ s.toList, Text.isBlank c = false

/-- A value that asks for a name: itself, with the blanks around it. -/
structure Names (value name : String) : Prop where
  nonBlank : NonBlank value
  same : name = value

theorem positive?_eq_some_iff (value : String) (n : Nat) : positive? value = some n ↔ Asks value n := by
  rw [positive?, Option.filter_eq_some_iff, Decimal.natural64?_eq_some_iff, decide_eq_true_iff]
  exact ⟨fun ⟨⟨hdenotes, hfits⟩, hpos⟩ => ⟨hdenotes, hpos, hfits⟩,
    fun h => ⟨⟨h.denotes, h.fits⟩, h.pos⟩⟩

theorem nonBlank_iff (s : String) : NonBlank s ↔ (!Text.isBlankText s) = true := by
  simp [NonBlank, Text.isBlankText]

variable (lookup : String → Option String)

theorem timeoutMs_eq : (ofLookup lookup).timeoutMs = 1000 * ((lookup timeoutKey).bind positive?).getD 15 := by
  unfold ofLookup
  cases (lookup timeoutKey).bind positive? with
  | none => rfl
  | some secs => exact Nat.mul_comm ..

theorem timeoutSecs_eq : (ofLookup lookup).timeoutSecs = ((lookup timeoutKey).bind positive?).getD 15 := by
  rw [timeoutSecs, timeoutMs_eq, Nat.mul_div_cancel_left _ (by decide)]

theorem timeout_chosen : Chosen Asks 15 (lookup timeoutKey) (ofLookup lookup).timeoutSecs := by
  rw [timeoutSecs_eq]
  exact chosen_getD positive?_eq_some_iff ..

theorem redirects_chosen : Chosen Asks 10 (lookup redirectsKey) (ofLookup lookup).maxRedirects :=
  chosen_getD positive?_eq_some_iff ..

theorem userAgent_chosen :
    Chosen Names default.userAgent (lookup userAgentKey) (ofLookup lookup).userAgent := by
  have hfilter : (lookup userAgentKey).filter (fun v => !Text.isBlankText v) =
      (lookup userAgentKey).bind fun v => if !Text.isBlankText v then some v else none := by
    cases lookup userAgentKey <;> rfl
  rw [ofLookup, hfilter]
  refine chosen_getD (fun value name => ?_) ..
  rw [Option.ite_none_right_eq_some, ← nonBlank_iff, Option.some.injEq, eq_comm (a := value)]
  exact ⟨fun ⟨hvalue, hsame⟩ => ⟨hvalue, hsame⟩, fun h => ⟨h.nonBlank, h.same⟩⟩

/-- **Each setting has its own variable.** The time limit in seconds and the number of redirects are what their
variables ask for if that is a number above zero that a word of 64 bits holds, in digits with at most a plus in
front and blanks around; the name is the value of its variable as it stands, unless it is blank. Otherwise they
have their defaults. So there is a time limit of a second at least, one redirect at least and a name that is not
blank, and each setting is the same for all environments that agree on its variable. -/
theorem settings_apart :
    Chosen Asks 15 (lookup "VANGUARD_RS_AUDIT_TIMEOUT_SECS") (ofLookup lookup).timeoutSecs ∧
      (ofLookup lookup).timeoutMs = 1000 * (ofLookup lookup).timeoutSecs ∧
      Chosen Asks 10 (lookup "VANGUARD_RS_AUDIT_MAX_REDIRECTS") (ofLookup lookup).maxRedirects ∧
      Chosen Names "VanguardRS-Audit/0.1.0" (lookup "VANGUARD_RS_AUDIT_USER_AGENT")
        (ofLookup lookup).userAgent ∧
      1 ≤ (ofLookup lookup).timeoutSecs ∧ 1 ≤ (ofLookup lookup).maxRedirects ∧
      NonBlank (ofLookup lookup).userAgent ∧
      ∀ other : String → Option String,
        (other timeoutKey = lookup timeoutKey →
          (ofLookup other).timeoutMs = (ofLookup lookup).timeoutMs) ∧
        (other redirectsKey = lookup redirectsKey →
          (ofLookup other).maxRedirects = (ofLookup lookup).maxRedirects) ∧
        (other userAgentKey = lookup userAgentKey →
          (ofLookup other).userAgent = (ofLookup lookup).userAgent) := by
  have hpositive : ∀ value n, Asks value n → 1 ≤ n := fun _ _ h => h.pos
  have htimeout := timeout_chosen lookup
  have hredirects := redirects_chosen lookup
  have hagent := userAgent_chosen lookup
  have hdefault : NonBlank default.userAgent := (nonBlank_iff _).mpr (by decide)
  refine ⟨htimeout, ?_, hredirects, hagent, htimeout.usable (by decide) hpositive,
    hredirects.usable (by decide) hpositive, hagent.usable hdefault fun value name h => h.same ▸ h.nonBlank,
    fun other => ⟨fun h => ?_, fun h => ?_, fun h => ?_⟩⟩
  · rw [timeoutMs_eq, timeoutSecs_eq]
  · rw [timeoutMs_eq, h, ← timeoutMs_eq]
  · show ((other redirectsKey).bind positive?).getD default.maxRedirects = _
    rw [h]
    rfl
  · show ((other userAgentKey).filter fun v => !Text.isBlankText v).getD default.userAgent = _
    rw [h]
    rfl

/-- Spellings of a number, and a number that cannot be used. -/
example : positive? " +015\n" = some 15 ∧ positive? "+ 15" = none ∧ positive? "000" = none := by decide

end PageAudit.Config
