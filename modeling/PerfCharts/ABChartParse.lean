import PerfCharts.ABChartTokens

/-! What the argument handling of `main` does on every argument list: the ways it can stop,
when it prints the usage and exits 0, and what it hands on when it does not stop. -/
namespace PerfCharts.ABChart

theorem stop?_eq_some {t : Token} {s : Stop} (h : t.stop? = some s) :
    (t = .help ∧ s = .exit 0 printUsage) ∨ (∃ f, t = .dangling f ∧ s = .raise .indexError) ∨
      ∃ a, t = .unknown a ∧ s = .exit 1 ["Unknown option: " ++ a] := by
  cases t <;> simp_all [Token.stop?, eq_comm]

/-- No token of `pre` stops the loop exactly when `pre` holds no help flag, no value flag
short of its value and no unrecognised option. -/
theorem findSome?_stop_eq_none_iff {pre : List Token} :
    pre.findSome? Token.stop? = none ↔
      Token.help ∉ pre ∧ (∀ f, Token.dangling f ∉ pre) ∧ ∀ a, Token.unknown a ∉ pre := by
  rw [List.findSome?_eq_none_iff]
  constructor
  · intro h
    refine ⟨fun hm => ?_, fun f hm => ?_, fun a hm => ?_⟩ <;> simpa [Token.stop?] using h _ hm
  · rintro ⟨hh, hd, hu⟩ (_ | _ | _ | _ | _) ht
    all_goals first | rfl | exact absurd ht ‹_› | exact absurd ht (hd _) | exact absurd ht (hu _)

theorem requireFiles_eq_error {o : Options} {s : Stop} (h : requireFiles o = .error s) :
    s = .exit 1 missingFiles := by
  unfold requireFiles at h
  split at h
  · split at h
    · cases h; rfl
    · cases h
  · cases h; rfl

/-- A stop other than the missing-file exit comes from the first token that stops the loop. -/
theorem parseArgs_stop {args : List String} {s : Stop} (h : parseArgs args = .error s)
    (hs : s ≠ .exit 1 missingFiles) : ∃ pre t post, tokenize args = pre ++ t :: post ∧
      t.stop? = some s ∧ pre.findSome? Token.stop? = none := by
  rw [parseArgs_eq] at h
  split at h
  · cases h
    obtain ⟨pre, t, post, ht, hts, hpre⟩ := List.findSome?_eq_some_iff.mp ‹_›
    exact ⟨pre, t, post, ht, hts, List.findSome?_eq_none_iff.mpr hpre⟩
  · exact absurd (requireFiles_eq_error h) hs

/-- With fewer than two positionals, or an empty one among the first two, the check after
the loop exits 1. -/
theorem requireFiles_optionsOf_error {ts : List Token}
    (h : (positionals ts).length < 2 ∨ "" ∈ (positionals ts).take 2) :
    requireFiles (optionsOf ts) = .error (.exit 1 missingFiles) := by
  unfold requireFiles optionsOf
  generalize positionals ts = ps at h ⊢
  rcases ps with _ | ⟨a, _ | ⟨b, rest⟩⟩
  · rfl
  · rfl
  · have hab : a = "" ∨ b = "" := by
      simp only [List.length_cons, List.take_succ_cons, List.take_zero, List.mem_cons,
        List.mem_singleton, List.not_mem_nil, or_false, eq_comm] at h
      exact h.resolve_left (by omega)
    simp only [List.getElem?_cons_zero, List.getElem?_cons_succ, dif_pos hab]

theorem requireFiles_optionsOf_ok {ts : List Token}
    (h : ¬((positionals ts).length < 2 ∨ "" ∈ (positionals ts).take 2)) :
    ∃ c, requireFiles (optionsOf ts) = .ok c ∧ (positionals ts).take 2 = [c.fileA, c.fileB] ∧
      c.labelA = (lastValue .labelA ts).getD "Variant A" ∧
      c.labelB = (lastValue .labelB ts).getD "Variant B" ∧
      c.outputDir = (lastValue .outputDir ts).getD "./charts" := by
  unfold requireFiles optionsOf
  generalize positionals ts = ps at h ⊢
  rcases ps with _ | ⟨a, _ | ⟨b, rest⟩⟩
  · simp at h
  · simp at h
  · have hab : ¬(a = "" ∨ b = "") := by simp_all [eq_comm]
    simp only [List.getElem?_cons_zero, List.getElem?_cons_succ, dif_neg hab]
    exact ⟨_, rfl, rfl, rfl, rfl, rfl⟩

/-- With no help flag and no value flag short of its value at a flag position, the first
token that stops the loop, if any, is an unrecognised option. -/
theorem findSome?_stop_of_no_help {ts : List Token} (hh : Token.help ∉ ts)
    (hd : ∀ f, Token.dangling f ∉ ts) :
    ts.findSome? Token.stop? = none ∧ (∀ a, Token.unknown a ∉ ts) ∨
      ∃ a, Token.unknown a ∈ ts ∧
        ts.findSome? Token.stop? = some (.exit 1 ["Unknown option: " ++ a]) := by
  cases hf : ts.findSome? Token.stop? with
  | none => exact .inl ⟨rfl, (findSome?_stop_eq_none_iff.mp hf).2.2⟩
  | some s =>
    obtain ⟨t, ht, hs⟩ := List.exists_of_findSome?_eq_some hf
    rcases stop?_eq_some hs with ⟨rfl, -⟩ | ⟨f, rfl, -⟩ | ⟨a, rfl, rfl⟩
    · exact absurd ht hh
    · exact absurd ht (hd f)
    · exact .inr ⟨a, ht, rfl⟩

/-- Without a help flag at a flag position and with every value flag given its value, the
argument handling exits 1 exactly on an unrecognised option or when the first two
positionals are not two non-empty paths; otherwise it takes the first two positionals as the
result files and the last value of each flag, or its default. -/
theorem parseArgs_of_no_help {args : List String} (hh : Token.help ∉ tokenize args)
    (hd : ∀ f, Token.dangling f ∉ tokenize args) :
    ((∃ out, parseArgs args = .error (.exit 1 out)) ↔
        (∃ s, Token.unknown s ∈ tokenize args) ∨ (positionals (tokenize args)).length < 2 ∨
          "" ∈ (positionals (tokenize args)).take 2) ∧
      (¬((∃ s, Token.unknown s ∈ tokenize args) ∨ (positionals (tokenize args)).length < 2 ∨
          "" ∈ (positionals (tokenize args)).take 2) →
        ∃ c, parseArgs args = .ok c ∧ (positionals (tokenize args)).take 2 = [c.fileA, c.fileB] ∧
          c.labelA = (lastValue .labelA (tokenize args)).getD "Variant A" ∧
          c.labelB = (lastValue .labelB (tokenize args)).getD "Variant B" ∧
          c.outputDir = (lastValue .outputDir (tokenize args)).getD "./charts") := by
  rw [parseArgs_eq]
  rcases findSome?_stop_of_no_help hh hd with ⟨hf, hu⟩ | ⟨a, ha, hf⟩
  · have hnu : ¬∃ s, Token.unknown s ∈ tokenize args := fun ⟨s, hs⟩ => hu s hs
    simp only [hf, hnu, false_or]
    by_cases hr : (positionals (tokenize args)).length < 2 ∨
        "" ∈ (positionals (tokenize args)).take 2
    · simp only [requireFiles_optionsOf_error hr, hr, not_true_eq_false, false_imp_iff,
        and_true, iff_true]
      exact ⟨_, rfl⟩
    · obtain ⟨c, hc, hcs⟩ := requireFiles_optionsOf_ok hr
      simp only [hc, hr, iff_false, not_false_eq_true, forall_const]
      exact ⟨fun ⟨_, h⟩ => Except.noConfusion h, c, rfl, hcs⟩
  · simp only [hf]
    exact ⟨iff_of_true ⟨_, rfl⟩ (.inl ⟨a, ha⟩), fun h => absurd (.inl ⟨a, ha⟩) h⟩

theorem parseArgs_of_no_help_labelled :
    let args := ["--label-a", "base", "a.json", "b.json", "c.json"]
    (Token.help ∉ tokenize args ∧ ∀ f, Token.dangling f ∉ tokenize args) ∧
      (((∃ out, parseArgs args = .error (.exit 1 out)) ↔
          (∃ s, Token.unknown s ∈ tokenize args) ∨ (positionals (tokenize args)).length < 2 ∨
            "" ∈ (positionals (tokenize args)).take 2) ∧
        (¬((∃ s, Token.unknown s ∈ tokenize args) ∨ (positionals (tokenize args)).length < 2 ∨
            "" ∈ (positionals (tokenize args)).take 2) →
          ∃ c, parseArgs args = .ok c ∧ (positionals (tokenize args)).take 2 = [c.fileA, c.fileB] ∧
            c.labelA = (lastValue .labelA (tokenize args)).getD "Variant A" ∧
            c.labelB = (lastValue .labelB (tokenize args)).getD "Variant B" ∧
            c.outputDir = (lastValue .outputDir (tokenize args)).getD "./charts")) :=
  have hh : Token.help ∉ tokenize ["--label-a", "base", "a.json", "b.json", "c.json"] := by decide
  have hd : ∀ f, Token.dangling f ∉ tokenize ["--label-a", "base", "a.json", "b.json", "c.json"] := by
    intro f; cases f <;> decide
  ⟨⟨hh, hd⟩, parseArgs_of_no_help hh hd⟩

/-- A flag position before the first help flag that holds no unrecognised option holds no
token that stops the loop other than a help flag. -/
theorem findSome?_stop_eq_usage {args : List String} {pre post : List Token}
    (h : tokenize args = pre ++ Token.help :: post) (hu : ∀ s, Token.unknown s ∉ pre) :
    (tokenize args).findSome? Token.stop? = some (.exit 0 printUsage) := by
  rw [h, List.findSome?_append]
  cases hf : pre.findSome? Token.stop? with
  | none => rfl
  | some s =>
    obtain ⟨t, ht, hs⟩ := List.exists_of_findSome?_eq_some hf
    rcases stop?_eq_some hs with ⟨-, rfl⟩ | ⟨f, rfl, -⟩ | ⟨a, rfl, -⟩
    · rfl
    · exact absurd ht (dangling_not_mem_of_eq_append h f)
    · exact absurd ht (hu a)

/-- The argument handling prints the usage and exits 0 exactly when a help flag stands at a
flag position with no unrecognised option at a flag position before it. -/
theorem parseArgs_usage_iff (args : List String) :
    parseArgs args = .error (.exit 0 printUsage) ↔
      ∃ pre post, tokenize args = pre ++ Token.help :: post ∧ ∀ s, Token.unknown s ∉ pre := by
  constructor
  · intro h
    obtain ⟨pre, t, post, ht, hs, hpre⟩ := parseArgs_stop h (by simp)
    rcases stop?_eq_some hs with ⟨rfl, -⟩ | ⟨f, -, hs'⟩ | ⟨a, -, hs'⟩ <;> try cases hs'
    exact ⟨pre, post, ht, (findSome?_stop_eq_none_iff.mp hpre).2.2⟩
  · rintro ⟨pre, post, h, hu⟩
    rw [parseArgs_eq, findSome?_stop_eq_usage h hu]

/-- The first unrecognised option at a flag position, with no help flag at a flag position
before it, ends the argument handling with `Unknown option` and exit 1. -/
theorem parseArgs_unknown {args : List String} {pre post : List Token} {s : String}
    (h : tokenize args = pre ++ Token.unknown s :: post) (hh : Token.help ∉ pre)
    (hu : ∀ s', Token.unknown s' ∉ pre) :
    parseArgs args = .error (.exit 1 ["Unknown option: " ++ s]) := by
  rw [parseArgs_eq, h, List.findSome?_append,
    findSome?_stop_eq_none_iff.mpr ⟨hh, dangling_not_mem_of_eq_append h, hu⟩]
  rfl

/-- The only exception the argument handling raises is the `IndexError` of a value flag at
the last flag position, reached with no help flag and no unrecognised option before it. -/
theorem parseArgs_indexError_iff (args : List String) :
    parseArgs args = .error (.raise .indexError) ↔
      ∃ pre f, tokenize args = pre ++ [Token.dangling f] ∧ Token.help ∉ pre ∧
        ∀ s, Token.unknown s ∉ pre := by
  constructor
  · intro h
    obtain ⟨pre, t, post, ht, hs, hpre⟩ := parseArgs_stop h (by simp)
    rcases stop?_eq_some hs with ⟨-, hs'⟩ | ⟨f, rfl, -⟩ | ⟨a, -, hs'⟩ <;> try cases hs'
    have hpost : post = [] := by
      by_contra hne
      have hd := dangling_not_mem_dropLast args f
      rw [ht, List.dropLast_append_cons, List.dropLast_cons_of_ne_nil hne] at hd
      simp at hd
    subst hpost
    obtain ⟨hh, -, hu⟩ := findSome?_stop_eq_none_iff.mp hpre
    exact ⟨pre, f, ht, hh, hu⟩
  · rintro ⟨pre, f, h, hh, hu⟩
    have hgo := findSome?_stop_eq_none_iff.mpr ⟨hh, fun g => dangling_not_mem_of_eq_append h g, hu⟩
    rw [parseArgs_eq, h, List.findSome?_append, hgo]
    rfl

/-- `ab-chart.py a.json b.json --label-a` reads `args[3]` of a three-element list. -/
theorem parseArgs_label_flag_last :
    parseArgs ["a.json", "b.json", "--label-a"] = .error (.raise .indexError) := by
  rw [parseArgs_eq]
  rfl

end PerfCharts.ABChart
