import Mathlib.Data.List.Perm.Basic
import Mathlib.Data.List.TakeWhile
import PageAudit.CommandLine
/-!
The grammar of the command line. Two hyphens divide it. Before them stand the flag for JSON, at most once, and
arguments that stand for themselves, after them arguments of any form, and at most one argument in all stands
for itself. `grammar_accepted` says that these command lines are accepted and no others, and what they mean.

Arguments are read one after the other. An argument is two hyphens, the flag for JSON, another flag, or it
stands for itself, and there is one lemma for each of these; `parseFrom_eq_ok_iff` follows a list with them,
whatever has been read before it.
-/
namespace PageAudit.CommandLine

/-! ### The grammar -/

/-- The arguments before the first two hyphens. -/
def leading (args : List String) : List String := args.takeWhile (· ≠ "--")

/-- The arguments after the first two hyphens. -/
def escaped (args : List String) : List String := (args.dropWhile (· ≠ "--")).tail

/-- An argument that begins with a hyphen and goes on. -/
def IsFlag (arg : String) : Prop := ∃ c rest, arg.toList = '-' :: c :: rest

/-- The arguments that stand for themselves. -/
def positionals (args : List String) : List String := (leading args).filter (· ≠ "--json") ++ escaped args

structure WellFormed (args : List String) : Prop where
  flags : ∀ arg ∈ leading args, IsFlag arg → arg = "--json"
  once : (leading args).count "--json" ≤ 1
  alone : (positionals args).length ≤ 1

-- flags and well formed lists can be told by looking at them
instance (arg : String) : Decidable (IsFlag arg) :=
  match h : arg.toList with
  | '-' :: c :: rest => .isTrue ⟨c, rest, h⟩
  | [] | [_] => .isFalse (by simp [IsFlag, h])
  | c :: _ :: _ => if hc : c = '-' then .isTrue ⟨_, _, hc ▸ h⟩ else .isFalse (by simp [IsFlag, h, hc])

instance (args : List String) : Decidable (WellFormed args) :=
  decidable_of_iff _ ⟨fun h => ⟨h.1, h.2.1, h.2.2⟩, fun h => (⟨h.flags, h.once, h.alone⟩ : _ ∧ _ ∧ _)⟩

/-- What is asked for: the address is the argument that stands for itself, if there is one. -/
structure AsksFor (args : List String) (c : CommandLine) : Prop where
  url : c.url.toList = positionals args
  json : c.json = true ↔ "--json" ∈ leading args

section Division
variable {arg : String} (rest : List String)

@[simp]
theorem leading_nil : leading [] = [] := rfl

@[simp]
theorem positionals_nil : positionals [] = [] := rfl

@[simp]
theorem leading_escape : leading ("--" :: rest) = [] := rfl

@[simp]
theorem positionals_escape : positionals ("--" :: rest) = rest := rfl

theorem leading_cons (h : arg ≠ "--") : leading (arg :: rest) = arg :: leading rest :=
  List.takeWhile_cons_of_pos (decide_eq_true h)

theorem escaped_cons (h : arg ≠ "--") : escaped (arg :: rest) = escaped rest := by
  have hdrop : (arg :: rest).dropWhile (· ≠ "--") = rest.dropWhile (· ≠ "--") :=
    List.dropWhile_cons_of_pos (decide_eq_true h)
  rw [escaped, hdrop, escaped]

theorem positionals_cons (h : arg ≠ "--") : positionals (arg :: rest) =
    if arg = "--json" then positionals rest else arg :: positionals rest := by
  rw [positionals, leading_cons rest h, escaped_cons rest h, List.filter_cons]
  by_cases hjson : arg = "--json"
  · rw [if_neg (by simpa using hjson), if_pos hjson, positionals]
  · rw [if_pos (by simpa using hjson), if_neg hjson, positionals, List.cons_append]

end Division

/-! ### One argument -/

variable {c c' : CommandLine} {arg : String} {args : List String}

theorem longFlag_json (c : CommandLine) :
    c.longFlag "json".toList = if c.json then .error .repeatedFlag else .ok { c with json := true } := rfl

/-- The flag for JSON is the only one after which the reading goes on. -/
theorem longFlag_other {flag : List Char} (h : flag ≠ "json".toList) (c : CommandLine) :
    ∃ e, c.longFlag flag = .error e := by
  unfold longFlag
  by_cases hjson : (String.ofList (flag.takeWhile (· != '=')) == "json") = true
  · -- the flag has its name from what stands before a value
    have hvalue : flag.contains '=' = true := by
      by_contra hnone
      have hname : flag.takeWhile (· != '=') = flag := by
        refine List.takeWhile_eq_self_iff.mpr fun ch hch => bne_iff_ne.mpr ?_
        rintro rfl
        exact hnone (List.contains_iff_mem.mpr hch)
      rw [hname, beq_iff_eq] at hjson
      exact h (by rw [← hjson, String.toList_ofList])
    exact ⟨.unexpectedValue, by rw [if_pos hjson, if_pos hvalue]⟩
  · rw [if_neg hjson]
    split
    · exact ⟨_, rfl⟩
    · split
      · exact ⟨_, rfl⟩
      · exact ⟨_, rfl⟩

theorem parseFrom_json (c : CommandLine) (rest : List String) : parseFrom c ("--json" :: rest) =
    if c.json then .error .repeatedFlag else parseFrom { c with json := true } rest := by
  show (c.longFlag "json".toList >>= fun c => parseFrom c rest) = _
  rw [longFlag_json]
  split
  · rfl
  · rfl

/-- Any other flag ends the reading, whatever follows it. -/
theorem parseFrom_flag (hflag : IsFlag arg) (hescape : arg ≠ "--") (hjson : arg ≠ "--json") (c : CommandLine) :
    ∃ e, ∀ rest, parseFrom c (arg :: rest) = .error e := by
  obtain ⟨second, more, harg⟩ := hflag
  have hne {text : String} (h : arg ≠ text) : '-' :: second :: more ≠ text.toList :=
    fun heq => h (String.toList_inj.mp (harg.trans heq))
  by_cases hlong : second = '-'
  · subst hlong
    have hname : more ≠ "json".toList := fun h => hne hjson (by rw [h]; rfl)
    obtain ⟨e, he⟩ := longFlag_other hname c
    refine ⟨e, fun rest => ?_⟩
    unfold parseFrom
    rw [harg]
    split
    · next heq => exact absurd heq (hne hescape)
    · next flag _ heq =>
      obtain rfl : more = flag := (List.cons.inj (List.cons.inj heq).2).2
      rw [he]
      rfl
    · next hother heq => exact absurd (List.cons.inj (List.cons.inj heq).2).1.symm hother
    · next hother => exact absurd rfl (hother '-' more)
  · refine ⟨shortFlags (second :: more), fun rest => ?_⟩
    unfold parseFrom
    rw [harg]
    split
    · next heq => exact absurd (List.cons.inj (List.cons.inj heq).2).1 hlong
    · next heq => exact absurd (List.cons.inj (List.cons.inj heq).2).1 hlong
    · next heq => rw [(List.cons.inj heq).2]
    · next hother => exact absurd rfl (hother second more)

theorem parseFrom_positional (hflag : ¬ IsFlag arg) (c : CommandLine) (rest : List String) :
    parseFrom c (arg :: rest) = c.addAddress arg >>= fun c => parseFrom c rest := by
  conv_lhs => unfold parseFrom
  split
  · next heq => exact absurd ⟨_, _, heq⟩ hflag
  · next heq => exact absurd ⟨_, _, heq⟩ hflag
  · next heq => exact absurd ⟨_, _, heq⟩ hflag
  · rfl

/-- But for two hyphens, what becomes of an argument does not depend on what follows it. -/
theorem parseFrom_cons (hescape : arg ≠ "--") (c : CommandLine) :
    ∃ read, ∀ rest, parseFrom c (arg :: rest) = read >>= fun c => parseFrom c rest := by
  by_cases hjson : arg = "--json"
  · exact ⟨c.longFlag "json".toList, fun rest => hjson ▸ rfl⟩
  by_cases hflag : IsFlag arg
  · obtain ⟨e, he⟩ := parseFrom_flag hflag hescape hjson c
    exact ⟨.error e, he⟩
  · exact ⟨c.addAddress arg, parseFrom_positional hflag c⟩

theorem parseFrom_append (hescape : "--" ∉ args) (c : CommandLine) (rest : List String) :
    parseFrom c (args ++ rest) = parseFrom c args >>= fun c => parseFrom c rest := by
  induction args generalizing c with
  | nil => rfl
  | cons arg more ih =>
    rw [List.mem_cons, not_or] at hescape
    obtain ⟨read, hread⟩ := parseFrom_cons (Ne.symm hescape.1) c
    rw [List.cons_append, hread, hread]
    cases read with
    | error e => rfl
    | ok c => exact ih hescape.2 c

/-! ### Lists of arguments -/

theorem addresses_eq_ok_iff : addresses c args = .ok c' ↔
    (c.url.toList ++ args).length ≤ 1 ∧ c' = { c with url := (c.url.toList ++ args).head? } := by
  induction args generalizing c with
  | nil =>
    obtain ⟨_ | url, json⟩ := c <;> simp [addresses, eq_comm]
  | cons arg rest ih =>
    obtain ⟨_ | url, json⟩ := c
    · exact ih
    · refine iff_of_false (fun h => nomatch (show Except.error Refusal.unknownArgument = .ok c' from h)) ?_
      simp

/-- Arguments that can follow what has been read. -/
structure Continues (c : CommandLine) (args : List String) : Prop where
  flags : ∀ arg ∈ leading args, IsFlag arg → arg = "--json"
  once : (leading args).count "--json" + c.json.toNat ≤ 1
  alone : (c.url.toList ++ positionals args).length ≤ 1

/-- What has been read and what follows, taken together. -/
def extended (c : CommandLine) (args : List String) : CommandLine :=
  ⟨(c.url.toList ++ positionals args).head?, c.json || decide ("--json" ∈ leading args)⟩

theorem continues_escape_iff (rest : List String) :
    c.Continues ("--" :: rest) ↔ (c.url.toList ++ rest).length ≤ 1 := by
  refine ⟨Continues.alone, fun h => ⟨nofun, ?_, h⟩⟩
  rw [leading_escape, List.count_nil, Nat.zero_add]
  exact c.json.toNat_le

theorem continues_json_iff (rest : List String) : c.Continues ("--json" :: rest) ↔
    c.json = false ∧ { c with json := true }.Continues rest := by
  have hleading := leading_cons rest (show "--json" ≠ "--" by decide)
  have hpositionals := positionals_cons rest (show "--json" ≠ "--" by decide)
  rw [if_pos rfl] at hpositionals
  constructor
  · rintro ⟨flags, once, alone⟩
    rw [hleading, List.count_cons_self] at once
    rw [hleading] at flags
    rw [hpositionals] at alone
    have hjson : c.json.toNat = 0 := by omega
    refine ⟨by simpa using hjson, fun arg harg => flags arg (List.mem_cons_of_mem _ harg), ?_, alone⟩
    show _ + 1 ≤ 1
    omega
  · rintro ⟨hjson, flags, once, alone⟩
    refine ⟨?_, ?_, by rwa [hpositionals]⟩
    · rw [hleading]
      exact List.forall_mem_cons.mpr ⟨fun _ => rfl, flags⟩
    · rw [hleading, List.count_cons_self, hjson]
      exact once

theorem continues_positional_iff (hescape : arg ≠ "--") (hjson : arg ≠ "--json") (rest : List String) :
    c.Continues (arg :: rest) ↔
      ¬ IsFlag arg ∧ c.url = none ∧ { c with url := some arg }.Continues rest := by
  have hleading := leading_cons rest hescape
  have hpositionals := positionals_cons rest hescape
  rw [if_neg hjson] at hpositionals
  have hcount : (leading (arg :: rest)).count "--json" = (leading rest).count "--json" := by
    rw [hleading, List.count_cons_of_ne hjson]
  constructor
  · rintro ⟨flags, once, alone⟩
    rw [hleading] at flags
    rw [hpositionals, List.length_append, List.length_cons] at alone
    have hnone : c.url.toList.length = 0 := by omega
    have hrest : (positionals rest).length = 0 := by omega
    refine ⟨fun hflag => hjson (flags arg (List.mem_cons_self ..) hflag), by simpa using hnone,
      fun a ha => flags a (List.mem_cons_of_mem _ ha), hcount ▸ once, ?_⟩
    rw [List.length_append, hrest]
    exact Nat.le_refl 1
  · rintro ⟨hflag, hnone, flags, once, alone⟩
    refine ⟨?_, hcount ▸ once, ?_⟩
    · rw [hleading]
      exact List.forall_mem_cons.mpr ⟨fun h => absurd h hflag, flags⟩
    · rw [hpositionals, hnone]
      exact alone

/-- What is read of a list, whatever has been read before it. -/
theorem parseFrom_eq_ok_iff : parseFrom c args = .ok c' ↔ c.Continues args ∧ c' = c.extended args := by
  induction args generalizing c with
  | nil =>
    have hnil : c.Continues [] := by
      refine ⟨nofun, ?_, ?_⟩
      · rw [leading_nil, List.count_nil, Nat.zero_add]
        exact c.json.toNat_le
      · rw [positionals_nil, List.append_nil]
        cases c.url <;> simp
    have hself : c.extended [] = c := by
      simp [extended]
    rw [parseFrom, hself, and_iff_right hnil, Except.ok.injEq, eq_comm]
  | cons arg rest ih =>
    by_cases hescape : arg = "--"
    · subst hescape
      have hextended : c.extended ("--" :: rest) = { c with url := (c.url.toList ++ rest).head? } := by
        simp [extended]
      rw [continues_escape_iff, hextended]
      exact addresses_eq_ok_iff
    by_cases hjson : arg = "--json"
    · subst hjson
      have hextended : c.json = false →
          c.extended ("--json" :: rest) = { c with json := true }.extended rest := by
        intro h
        simp [extended, leading_cons, positionals_cons]
      rw [continues_json_iff, parseFrom_json]
      cases h : c.json with
      | true => simp
      | false =>
        rw [hextended h, and_iff_right rfl]
        exact ih
    rw [continues_positional_iff hescape hjson]
    by_cases hflag : IsFlag arg
    · obtain ⟨e, he⟩ := parseFrom_flag hflag hescape hjson c
      rw [he]
      exact iff_of_false nofun fun h => h.1.1 hflag
    · rw [parseFrom_positional hflag, and_iff_right hflag]
      obtain ⟨_ | url, json⟩ := c
      · have hextended : extended ⟨none, json⟩ (arg :: rest) = extended ⟨some arg, json⟩ rest := by
          simp [extended, leading_cons _ hescape, positionals_cons _ hescape, hjson, Ne.symm hjson]
        rw [hextended, and_iff_right rfl]
        exact ih
      · exact iff_of_false nofun fun h => nomatch h.1.1

/-! ### Whole command lines -/

/-- A well formed command line asks for one thing. -/
theorem WellFormed.asksFor_iff (h : WellFormed args) : AsksFor args c ↔ c = extended ⟨none, false⟩ args := by
  obtain ⟨url, json⟩ := c
  have hone : (positionals args).head?.toList = positionals args := by
    rw [← List.take_one]
    exact List.take_of_length_le h.alone
  constructor
  · rintro ⟨hurl, hjson⟩
    have hurl : url = (positionals args).head? := by
      rw [← show url.toList = positionals args from hurl]
      cases url <;> rfl
    have hjson : json = decide ("--json" ∈ leading args) := by
      rw [Bool.eq_iff_iff, decide_eq_true_iff]
      exact hjson
    rw [hurl, hjson]
    rfl
  · intro heq
    rw [heq]
    exact ⟨hone, by simp [extended]⟩

theorem continues_start_iff : (⟨none, false⟩ : CommandLine).Continues args ↔ WellFormed args :=
  ⟨fun h => ⟨h.flags, h.once, h.alone⟩, fun h => ⟨h.flags, h.once, h.alone⟩⟩

theorem parse_eq_ok_iff : parse args = .ok c ↔ WellFormed args ∧ AsksFor args c := by
  rw [parse, parseFrom_eq_ok_iff, continues_start_iff]
  exact and_congr_right fun h => h.asksFor_iff.symm

theorem WellFormed.parse_ok (h : WellFormed args) : ∃ c, parse args = .ok c :=
  ⟨_, parse_eq_ok_iff.mpr ⟨h, h.asksFor_iff.mpr rfl⟩⟩

/-- Two lists with the same arguments after the first two hyphens, and before them the same in any order. -/
structure Reordered (args args' : List String) : Prop where
  leading : (leading args).Perm (leading args')
  escaped : escaped args = escaped args'

namespace Reordered

variable {args' : List String}

theorem symm (h : Reordered args args') : Reordered args' args := ⟨h.leading.symm, h.escaped.symm⟩

theorem positionals (h : Reordered args args') : (positionals args).Perm (positionals args') := by
  rw [CommandLine.positionals, CommandLine.positionals, h.escaped]
  exact (h.leading.filter _).append_right _

theorem parse (h : Reordered args args') (hc : parse args = .ok c) : CommandLine.parse args' = .ok c := by
  obtain ⟨hargs, hasks⟩ := parse_eq_ok_iff.mp hc
  have hflags : ∀ arg, arg ∈ CommandLine.leading args' ↔ arg ∈ CommandLine.leading args :=
    fun arg => h.leading.mem_iff.symm
  have hlength := h.positionals.length_eq
  -- a list of one element at most has one order
  have hsame : CommandLine.positionals args = CommandLine.positionals args' := by
    have halone := hargs.alone
    cases hp : CommandLine.positionals args with
    | nil => exact (List.nil_perm.mp (hp ▸ h.positionals)).symm
    | cons arg rest =>
      rw [hp, List.length_cons] at halone
      obtain rfl : rest = [] := List.length_eq_zero_iff.mp (by omega)
      exact List.singleton_perm.mp (hp ▸ h.positionals)
  refine parse_eq_ok_iff.mpr ⟨⟨fun arg harg => hargs.flags arg ((hflags arg).mp harg), ?_, ?_⟩, ?_, ?_⟩
  · exact h.leading.count_eq _ ▸ hargs.once
  · exact hlength ▸ hargs.alone
  · exact hasks.url.trans hsame
  · exact hasks.json.trans (hflags _).symm

end Reordered

/-- The flags that ask for something else than an audit. -/
def questions : List (String × Refusal) :=
  [("-h", .help), ("--help", .help), ("-V", .version), ("--version", .version)]

theorem parseFrom_question {flag : String} {r : Refusal} (h : (flag, r) ∈ questions) (c : CommandLine)
    (rest : List String) : parseFrom c (flag :: rest) = .error r := by
  simp only [questions, List.mem_cons, List.not_mem_nil, or_false, Prod.mk.injEq] at h
  rcases h with ⟨rfl, rfl⟩ | ⟨rfl, rfl⟩ | ⟨rfl, rfl⟩ | ⟨rfl, rfl⟩
  all_goals rfl

/-- **The command line accepts its grammar and nothing else.** An audit is asked for exactly if every argument
before the first two hyphens is the flag for JSON or no flag at all, that flag is given at most once there, and
at most one argument stands for itself, before the two hyphens or after them. The address is that argument,
and JSON is asked for if the flag is there; the order before the two hyphens does not matter. A question for
help or for the version is none for an audit: it is told apart after everything that fits. -/
theorem grammar_accepted (args : List String) :
    (∀ c, parse args = .ok c ↔ WellFormed args ∧ AsksFor args c) ∧
    ((∃ c, parse args = .ok c) ↔ WellFormed args) ∧
    (∀ args', Reordered args args' → ∀ c, parse args = .ok c ↔ parse args' = .ok c) ∧
    (WellFormed args → "--" ∉ args → ∀ flag r, (flag, r) ∈ questions →
      ∀ rest, parse (args ++ flag :: rest) = .error r) := by
  refine ⟨fun c => parse_eq_ok_iff, ⟨fun ⟨c, hc⟩ => (parse_eq_ok_iff.mp hc).1, WellFormed.parse_ok⟩,
    fun args' h c => ⟨h.parse, h.symm.parse⟩, fun h hescape flag r hflag rest => ?_⟩
  obtain ⟨c, hc⟩ := h.parse_ok
  rw [parse, parseFrom_append hescape, show parseFrom ⟨none, false⟩ args = .ok c from hc]
  exact parseFrom_question hflag c rest

/-- A lone hyphen is an address, before or after the flag; what follows the two hyphens is one as well. -/
theorem grammar_accepted_hyphens :
    Reordered ["--json", "-", "--"] ["-", "--json"] ∧ WellFormed ["--json", "-"] ∧
      parse ["-", "--json"] = .ok ⟨some "-", true⟩ ∧
      parse ["--json", "-", "--help", "--bogus"] = .error .help ∧
      ¬ WellFormed ["--json", "-", "--", "--json"] := by
  have hreordered : Reordered ["--json", "-", "--"] ["-", "--json"] := ⟨.swap "-" "--json" [], rfl⟩
  have hformed : WellFormed ["--json", "-"] := by decide
  refine ⟨hreordered, hformed, ?_, ?_, by decide⟩
  · exact ((grammar_accepted ["--json", "-", "--"]).2.2.1 _ hreordered _).mp rfl
  · exact (grammar_accepted ["--json", "-"]).2.2.2 hformed (by decide) "--help" .help (by decide) ["--bogus"]

end PageAudit.CommandLine
