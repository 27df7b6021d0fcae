import PerfCharts.ABChartParse

/-! The argument handling of `main` as a format: which configurations it accepts, the usage
form `<result-a.json> <result-b.json> [options]` that produces each of them, and how the
outcome changes when arguments are appended. -/
namespace PerfCharts.ABChart

/-- The spelling of a value flag on the command line. -/
def ValueFlag.name : ValueFlag → String
  | .labelA => "--label-a"
  | .labelB => "--label-b"
  | .outputDir => "--output-dir"

/-- The configuration with the field of the value flag `f` set to `v`. -/
def Config.set (c : Config) : ValueFlag → String → Config
  | .labelA, v => { c with labelA := v }
  | .labelB, v => { c with labelB := v }
  | .outputDir, v => { c with outputDir := v }

/-- The usage form of a configuration: both result files, then every option with its value. -/
def usageArgs (c : Config) : List String :=
  [c.fileA, c.fileB, "--label-a", c.labelA, "--label-b", c.labelB, "--output-dir", c.outputDir]

theorem valueFlag?_eq_some {a : String} {f : ValueFlag} (h : valueFlag? a = some f) :
    a = f.name := by
  unfold valueFlag? at h
  split_ifs at h <;> cases h <;> assumption

theorem tokenize_name_cons (f : ValueFlag) (v : String) (rest : List String) :
    tokenize (f.name :: v :: rest) = .value f v :: tokenize rest := by
  cases f <;> rfl

theorem tokenize_cons_of_not_dash {a : String} (h : startswith a "-" = false) (rest : List String) :
    tokenize (a :: rest) = .positional a :: tokenize rest := by
  have hflag : valueFlag? a = none := by
    unfold valueFlag?
    split_ifs with h1 h2 h3 <;> first | rfl | (subst_vars; cases h)
  have hhelp : ¬(a = "--help" ∨ a = "-h") := by rintro (rfl | rfl) <;> cases h
  rw [tokenize_cons, if_neg hhelp, hflag]
  simp only [h, Bool.false_eq_true, if_false]

/-- A positional argument never starts with `-`. -/
theorem startswith_of_positional_mem {args : List String} {s : String}
    (h : Token.positional s ∈ tokenize args) : startswith s "-" = false := by
  induction args using tokenize.induct with
  | case1 => cases h
  | case2 a rest ha ih =>
    rw [tokenize_cons, if_pos ha] at h
    exact ih (List.mem_of_ne_of_mem (by simp) h)
  | case3 a ha g hg v rest ih =>
    simp only [tokenize_cons, if_neg ha, hg] at h
    exact ih (List.mem_of_ne_of_mem (by simp) h)
  | case4 a ha g hg => simp [tokenize_cons, ha, hg] at h
  | case5 a rest ha hg hs ih =>
    simp only [tokenize_cons, if_neg ha, hg, hs, if_true] at h
    exact ih (List.mem_of_ne_of_mem (by simp) h)
  | case6 a rest ha hg hs ih =>
    simp only [tokenize_cons, if_neg ha, hg, hs, if_false] at h
    rcases List.mem_cons.mp h with h | h
    · cases h
      simpa using hs
    · exact ih h

/-- A head of the argument list that is one flag position in front of whatever follows keeps
the shape of `tokenize_append`. -/
theorem tokenize_append_cons (head : List String) {rest ys : List String} (t : Token)
    (ht : ∀ f, t ≠ .dangling f) (hstep : ∀ zs, tokenize (head ++ zs) = t :: tokenize zs)
    (ih : ((∀ f, Token.dangling f ∉ tokenize rest) ∧
        tokenize (rest ++ ys) = tokenize rest ++ tokenize ys) ∨
      ∃ pre f, tokenize rest = pre ++ [.dangling f] ∧
        tokenize (rest ++ ys) = pre ++ tokenize (f.name :: ys)) :
    ((∀ f, Token.dangling f ∉ tokenize (head ++ rest)) ∧
        tokenize (head ++ rest ++ ys) = tokenize (head ++ rest) ++ tokenize ys) ∨
      ∃ pre f, tokenize (head ++ rest) = pre ++ [.dangling f] ∧
        tokenize (head ++ rest ++ ys) = pre ++ tokenize (f.name :: ys) := by
  rw [List.append_assoc, hstep, hstep]
  rcases ih with ⟨hd, he⟩ | ⟨pre, f, hr, he⟩
  · refine .inl ⟨fun f hm => ?_, by rw [he]; rfl⟩
    rcases List.mem_cons.mp hm with h | h
    · exact ht f h.symm
    · exact hd f h
  · exact .inr ⟨t :: pre, f, by rw [hr]; rfl, by rw [he]; rfl⟩

/-- The tokens of `xs ++ ys` are those of `xs` then those of `ys`, unless `xs` ends in a value
flag still waiting for its value: then that flag takes the first argument of `ys`. -/
theorem tokenize_append (xs ys : List String) :
    ((∀ f, Token.dangling f ∉ tokenize xs) ∧ tokenize (xs ++ ys) = tokenize xs ++ tokenize ys) ∨
      ∃ pre f, tokenize xs = pre ++ [.dangling f] ∧
        tokenize (xs ++ ys) = pre ++ tokenize (f.name :: ys) := by
  induction xs using tokenize.induct with
  | case1 => exact .inl ⟨fun _ => List.not_mem_nil _, rfl⟩
  | case2 a rest ha ih =>
    exact tokenize_append_cons [a] .help (by simp)
      (fun zs => by rw [List.singleton_append, tokenize_cons, if_pos ha]) ih
  | case3 a ha g hg v rest ih =>
    exact tokenize_append_cons [a, v] (.value g v) (by simp)
      (fun zs => by simp only [List.cons_append, List.nil_append, tokenize_cons, if_neg ha, hg]) ih
  | case4 a ha g hg =>
    refine .inr ⟨[], g, by simp only [tokenize_cons, if_neg ha, hg]; rfl, ?_⟩
    rw [List.singleton_append, valueFlag?_eq_some hg]
    rfl
  | case5 a rest ha hg hs ih =>
    exact tokenize_append_cons [a] (.unknown a) (by simp)
      (fun zs => by simp only [List.singleton_append, tokenize_cons, if_neg ha, hg, hs, if_true]) ih
  | case6 a rest ha hg hs ih =>
    exact tokenize_append_cons [a] (.positional a) (by simp)
      (fun zs => by simp only [List.singleton_append, tokenize_cons, if_neg ha, hg, hs,
        Bool.false_eq_true, if_false]) ih

theorem findSome?_stop_of_parseArgs_error {xs : List String} {s : Stop}
    (h : parseArgs xs = .error s) (hs : s ≠ .exit 1 missingFiles) :
    (tokenize xs).findSome? Token.stop? = some s := by
  obtain ⟨pre, t, post, ht, hts, hpre⟩ := parseArgs_stop h hs
  rw [ht, List.findSome?_append, hpre, List.findSome?_cons, hts]
  rfl

theorem findSome?_stop_of_parseArgs_ok {xs : List String} {c : Config}
    (h : parseArgs xs = .ok c) :
    (tokenize xs).findSome? Token.stop? = none ∧ requireFiles (optionsOf (tokenize xs)) = .ok c := by
  rw [parseArgs_eq] at h
  split at h
  · cases h
  · exact ⟨‹_›, h⟩

theorem addFile_of_requireFiles_ok {o : Options} {c : Config} (h : requireFiles o = .ok c)
    (p : String) : o.addFile p = o := by
  unfold requireFiles at h
  unfold Options.addFile
  split at h
  · rename_i a b ha hb
    simp only [ha, hb]
  · cases h

theorem requireFiles_set {o : Options} {c : Config} (h : requireFiles o = .ok c) (f : ValueFlag)
    (v : String) : requireFiles (o.set f v) = .ok (c.set f v) := by
  unfold requireFiles at h ⊢
  have hA : (o.set f v).fileA = o.fileA := by cases f <;> rfl
  have hB : (o.set f v).fileB = o.fileB := by cases f <;> rfl
  rw [hA, hB]
  split at h
  · split_ifs at h with hab
    cases h
    cases f <;> simp [hab, Options.set, Config.set]
  · cases h

theorem requireFiles_ok_files {o : Options} {c : Config} (h : requireFiles o = .ok c) :
    o.fileA = some c.fileA ∧ o.fileB = some c.fileB := by
  unfold requireFiles at h
  split at h
  · rename_i a b ha hb
    split_ifs at h
    cases h
    exact ⟨ha, hb⟩
  · cases h

theorem positional_mem_of_getElem? {ts : List Token} {n : Nat} {s : String}
    (h : (positionals ts)[n]? = some s) : Token.positional s ∈ ts := by
  obtain ⟨t, ht, hs⟩ := List.mem_filterMap.mp (List.getElem?_mem h)
  cases t <;> cases hs
  exact ht

/-- The result files of an accepted argument list were positional arguments, so neither
starts with `-`. -/
theorem parseArgs_ok_files {args : List String} {c : Config} (h : parseArgs args = .ok c) :
    startswith c.fileA "-" = false ∧ startswith c.fileB "-" = false := by
  obtain ⟨ha, hb⟩ := requireFiles_ok_files (findSome?_stop_of_parseArgs_ok h).2
  exact ⟨startswith_of_positional_mem (positional_mem_of_getElem? ha),
    startswith_of_positional_mem (positional_mem_of_getElem? hb)⟩

theorem parseArgs_usageArgs_of_files {c : Config} (ha : startswith c.fileA "-" = false)
    (hb : startswith c.fileB "-" = false) : parseArgs (usageArgs c) = .ok c := by
  have ht : tokenize (usageArgs c) = [.positional c.fileA, .positional c.fileB,
      .value .labelA c.labelA, .value .labelB c.labelB, .value .outputDir c.outputDir] := by
    rw [usageArgs, tokenize_cons_of_not_dash ha, tokenize_cons_of_not_dash hb]
    rfl
  rw [parseArgs_eq, ht]
  show requireFiles ⟨some c.fileA, some c.fileB, c.labelA, c.labelB, c.outputDir⟩ = .ok c
  have hne : ¬(c.fileA = "" ∨ c.fileB = "") := by rintro (h | h); exacts [c.fileA_ne h, c.fileB_ne h]
  simp only [requireFiles, dif_neg hne]

/-- The index loop of `main`, which steps `i` by one or by two, computes the left fold over the
flag positions of `args`, followed by the check for two result files. -/
theorem parseArgs_eq_runTokens (args : List String) :
    parseArgs args = runTokens (tokenize args) .init >>= requireFiles := by
  rw [parseArgs, parseLoop_eq_runTokens, List.drop_zero]

/-- The configurations the argument handling can return are exactly those whose result files
do not start with `-`, and the usage form of each of them parses back to it. -/
theorem parseArgs_usageArgs (c : Config) :
    (parseArgs (usageArgs c) = .ok c ↔
        startswith c.fileA "-" = false ∧ startswith c.fileB "-" = false) ∧
      ((∃ args, parseArgs args = .ok c) ↔
        startswith c.fileA "-" = false ∧ startswith c.fileB "-" = false) :=
  ⟨⟨parseArgs_ok_files, fun ⟨ha, hb⟩ => parseArgs_usageArgs_of_files ha hb⟩,
    ⟨fun ⟨_, h⟩ => parseArgs_ok_files h, fun ⟨ha, hb⟩ => ⟨_, parseArgs_usageArgs_of_files ha hb⟩⟩⟩

/-- Once the argument handling stops at a help flag or an unrecognised option, no argument
after it is read: appending anything leaves the outcome as it is. -/
theorem parseArgs_append_of_stop {xs : List String} {s : Stop} (h : parseArgs xs = .error s)
    (hs : s ≠ .exit 1 missingFiles) (hi : s ≠ .raise .indexError) (ys : List String) :
    parseArgs (xs ++ ys) = .error s := by
  have hf := findSome?_stop_of_parseArgs_error h hs
  have hf' : (tokenize (xs ++ ys)).findSome? Token.stop? = some s := by
    rcases tokenize_append xs ys with ⟨-, he⟩ | ⟨pre, f, hx, he⟩
    · rw [he, List.findSome?_append, hf]
      rfl
    · rw [hx, List.findSome?_append] at hf
      rw [he, List.findSome?_append]
      cases hp : pre.findSome? Token.stop? with
      | none => rw [hp] at hf; exact absurd (Option.some.inj hf).symm hi
      | some s' => rw [hp] at hf; exact hf
  rw [parseArgs_eq, hf']

theorem parseArgs_append_of_stop_unknown :
    (parseArgs ["a.json", "--bogus"] = .error (.exit 1 ["Unknown option: --bogus"]) ∧
        Stop.exit 1 ["Unknown option: --bogus"] ≠ .exit 1 missingFiles ∧
        Stop.exit 1 ["Unknown option: --bogus"] ≠ .raise .indexError) ∧
      parseArgs (["a.json", "--bogus"] ++ ["b.json", "--help"]) =
        .error (.exit 1 ["Unknown option: --bogus"]) :=
  have h : parseArgs ["a.json", "--bogus"] = .error (.exit 1 ["Unknown option: --bogus"]) := by
    rw [parseArgs_eq]; rfl
  have hs : Stop.exit 1 ["Unknown option: --bogus"] ≠ .exit 1 missingFiles := by decide
  have hi : Stop.exit 1 ["Unknown option: --bogus"] ≠ .raise .indexError := by decide
  ⟨⟨h, hs, hi⟩, parseArgs_append_of_stop h hs hi ["b.json", "--help"]⟩

/-- Appending to an accepted argument list: a value flag with its value sets that field, the
last occurrence winning, and leaves the rest; a further positional argument is ignored. -/
theorem parseArgs_append_ok {xs : List String} {c : Config} (h : parseArgs xs = .ok c) :
    (∀ f v, parseArgs (xs ++ [f.name, v]) = .ok (c.set f v)) ∧
      ∀ p, startswith p "-" = false → parseArgs (xs ++ [p]) = .ok c := by
  obtain ⟨hf, hr⟩ := findSome?_stop_of_parseArgs_ok h
  have happ (ys : List String) : tokenize (xs ++ ys) = tokenize xs ++ tokenize ys := by
    rcases tokenize_append xs ys with ⟨-, he⟩ | ⟨pre, f, hx, -⟩
    · exact he
    · exact absurd (by rw [hx]; simp) ((findSome?_stop_eq_none_iff.mp hf).2.1 f)
  refine ⟨fun f v => ?_, fun p hp => ?_⟩
  · have ht : tokenize (xs ++ [f.name, v]) = tokenize xs ++ [.value f v] := by
      rw [happ, tokenize_name_cons]
      rfl
    rw [parseArgs_eq, ht, List.findSome?_append, hf,
      ← apply_optionsOf (rfl : (Token.value f v).stop? = none)]
    exact requireFiles_set hr f v
  · have ht : tokenize (xs ++ [p]) = tokenize xs ++ [.positional p] := by
      rw [happ, tokenize_cons_of_not_dash hp]
      rfl
    rw [parseArgs_eq, ht, List.findSome?_append, hf,
      ← apply_optionsOf (rfl : (Token.positional p).stop? = none)]
    show requireFiles ((optionsOf (tokenize xs)).addFile p) = .ok c
    rw [addFile_of_requireFiles_ok hr]
    exact hr

theorem parseArgs_append_ok_two_files :
    parseArgs ["a.json", "b.json"] =
        .ok ⟨"a.json", "b.json", "Variant A", "Variant B", "./charts", by decide, by decide⟩ ∧
      (∀ f v, parseArgs (["a.json", "b.json"] ++ [f.name, v]) =
        .ok (Config.set ⟨"a.json", "b.json", "Variant A", "Variant B", "./charts", by decide,
          by decide⟩ f v)) ∧
      ∀ p, startswith p "-" = false → parseArgs (["a.json", "b.json"] ++ [p]) =
        .ok ⟨"a.json", "b.json", "Variant A", "Variant B", "./charts", by decide, by decide⟩ :=
  have h : parseArgs ["a.json", "b.json"] =
      .ok ⟨"a.json", "b.json", "Variant A", "Variant B", "./charts", by decide, by decide⟩ := by
    rw [parseArgs_eq]; rfl
  ⟨h, parseArgs_append_ok h⟩

end PerfCharts.ABChart
