import PerfCharts.ABChartArgs

/-! Flag positions: the arguments the loop of `main` visits, read off `args` without running
it. The index loop `parseLoop` equals a fold over these tokens. -/
namespace PerfCharts.ABChart

/-- The three flags that take the next argument as their value. -/
inductive ValueFlag where
  | labelA
  | labelB
  | outputDir
deriving DecidableEq, Repr

def valueFlag? (a : String) : Option ValueFlag :=
  if a = "--label-a" then some .labelA
  else if a = "--label-b" then some .labelB
  else if a = "--output-dir" then some .outputDir
  else none

/-- The local a value flag assigns. -/
def Options.set (o : Options) : ValueFlag → String → Options
  | .labelA, v => { o with labelA := v }
  | .labelB, v => { o with labelB := v }
  | .outputDir, v => { o with outputDir := v }

/-- What stands at a flag position: a help flag, a value flag with its value or with none
left after it, a positional argument, or an unrecognised option. -/
inductive Token where
  | help
  | value (f : ValueFlag) (v : String)
  | dangling (f : ValueFlag)
  | positional (s : String)
  | unknown (s : String)
deriving DecidableEq, Repr

/-- The arguments at flag positions: every argument but the value of a value flag
before it. -/
def tokenize : List String → List Token
  | [] => []
  | a :: rest =>
    if a = "--help" ∨ a = "-h" then .help :: tokenize rest
    else match valueFlag? a with
      | some f =>
        match rest with
        | v :: rest' => .value f v :: tokenize rest'
        | [] => [.dangling f]
      | none =>
        if startswith a "-" then .unknown a :: tokenize rest else .positional a :: tokenize rest

theorem tokenize_cons (a : String) (rest : List String) :
    tokenize (a :: rest) =
      if a = "--help" ∨ a = "-h" then .help :: tokenize rest
      else match valueFlag? a with
        | some f =>
          match rest with
          | v :: rest' => .value f v :: tokenize rest'
          | [] => [.dangling f]
        | none =>
          if startswith a "-" then .unknown a :: tokenize rest
          else .positional a :: tokenize rest := by
  rw [tokenize]

/-- How the loop stops at a token, when it does. -/
def Token.stop? : Token → Option Stop
  | .help => some (.exit 0 printUsage)
  | .dangling _ => some (.raise .indexError)
  | .unknown s => some (.exit 1 ["Unknown option: " ++ s])
  | .value _ _ | .positional _ => none

/-- What the loop does to its locals at a token it goes on from. -/
def Token.apply : Token → Options → Options
  | .value f v, o => o.set f v
  | .positional s, o => o.addFile s
  | _, o => o

/-- The argument loop, one token at a time. -/
def runTokens : List Token → Options → Except Stop Options
  | [], o => .ok o
  | t :: ts, o =>
    match t.stop? with
    | some s => .error s
    | none => runTokens ts (t.apply o)

@[simp] theorem runTokens_nil (o : Options) : runTokens [] o = .ok o := rfl

theorem runTokens_cons_of_stop {t : Token} {s : Stop} (h : t.stop? = some s)
    (ts : List Token) (o : Options) : runTokens (t :: ts) o = .error s := by
  simp [runTokens, h]

theorem runTokens_cons_of_go {t : Token} (h : t.stop? = none) (ts : List Token) (o : Options) :
    runTokens (t :: ts) o = runTokens ts (t.apply o) := by
  simp [runTokens, h]

/-- One pass of the loop body at `i < len(args)`, with the three value-flag branches as one. -/
theorem parseLoop_of_lt {args : List String} {i : Nat} (h : i < args.length) (o : Options) :
    parseLoop args i o =
      if args[i] = "--help" ∨ args[i] = "-h" then .error (.exit 0 printUsage)
      else match valueFlag? args[i] with
        | some f => flagValue args i fun v => parseLoop args (i + 2) (o.set f v)
        | none =>
          if !startswith args[i] "-" then parseLoop args (i + 1) (o.addFile args[i])
          else .error (.exit 1 ["Unknown option: " ++ args[i]]) := by
  rw [parseLoop, dif_pos h]
  by_cases hh : args[i] = "--help" ∨ args[i] = "-h"
  · simp only [if_pos hh]
  simp only [if_neg hh, valueFlag?]
  by_cases ha : args[i] = "--label-a"
  · simp only [if_pos ha]; rfl
  by_cases hb : args[i] = "--label-b"
  · simp only [if_neg ha, if_pos hb]; rfl
  by_cases hd : args[i] = "--output-dir"
  · simp only [if_neg ha, if_neg hb, if_pos hd]; rfl
  simp only [if_neg ha, if_neg hb, if_neg hd]

theorem drop_eq_cons_of_getElem? {l : List String} {i : Nat} {v : String}
    (h : l[i]? = some v) : l.drop i = v :: l.drop (i + 1) := by
  obtain ⟨hi, rfl⟩ := List.getElem?_eq_some_iff.mp h
  exact List.drop_eq_getElem_cons hi

theorem drop_eq_nil_of_getElem? {l : List String} {i : Nat} (h : l[i]? = none) :
    l.drop i = [] :=
  List.drop_eq_nil_of_le (List.getElem?_eq_none_iff.mp h)

/-- The index loop is the token loop over the flag positions of `args[i:]`. -/
theorem parseLoop_eq_runTokens (args : List String) (i : Nat) (o : Options) :
    parseLoop args i o = runTokens (tokenize (args.drop i)) o := by
  by_cases hi : i < args.length
  · rw [parseLoop_of_lt hi]
    rw [List.drop_eq_getElem_cons hi, tokenize_cons]
    by_cases hh : args[i] = "--help" ∨ args[i] = "-h"
    · simp only [if_pos hh]
      rfl
    simp only [if_neg hh]
    cases hf : valueFlag? args[i] with
    | some f =>
      cases hv : args[i + 1]? with
      | some v =>
        simp only [flagValue, hv, drop_eq_cons_of_getElem? hv]
        rw [parseLoop_eq_runTokens args (i + 2)]
        rfl
      | none =>
        simp only [flagValue, hv, drop_eq_nil_of_getElem? hv]
        rfl
    | none =>
      by_cases hs : startswith args[i] "-"
      · simp [hs, runTokens, Token.stop?]
      · simp only [hs, Bool.not_false, if_true, Bool.false_eq_true, if_false]
        rw [parseLoop_eq_runTokens args (i + 1)]
        rfl
  · rw [parseLoop_of_le (by omega), List.drop_eq_nil_of_le (by omega)]
    rfl
termination_by args.length - i
decreasing_by all_goals omega

theorem not_mem_dropLast_cons {x t : Token} {ts : List Token} (hx : x ∉ ts.dropLast)
    (ht : x ≠ t) : x ∉ (t :: ts).dropLast := by
  cases ts with
  | nil => simp
  | cons u us => simpa [ht] using hx

/-- A value flag with no value after it can only be the last flag position. -/
theorem dangling_not_mem_dropLast (args : List String) (f : ValueFlag) :
    Token.dangling f ∉ (tokenize args).dropLast := by
  induction args using tokenize.induct with
  | case1 => exact List.not_mem_nil _
  | case2 a rest ha ih =>
    rw [tokenize_cons, if_pos ha]
    exact not_mem_dropLast_cons ih (by simp)
  | case3 a ha g hg v rest ih =>
    simp only [tokenize_cons, if_neg ha, hg]
    exact not_mem_dropLast_cons ih (by simp)
  | case4 a ha g hg => simp [tokenize_cons, ha, hg]
  | case5 a rest ha hg hs ih =>
    simp only [tokenize_cons, if_neg ha, hg, hs, if_true]
    exact not_mem_dropLast_cons ih (by simp)
  | case6 a rest ha hg hs ih =>
    simp only [tokenize_cons, if_neg ha, hg, hs, if_false]
    exact not_mem_dropLast_cons ih (by simp)

theorem dangling_not_mem_of_eq_append {args : List String} {pre post : List Token} {t : Token}
    (h : tokenize args = pre ++ t :: post) (f : ValueFlag) : Token.dangling f ∉ pre := by
  have hd := dangling_not_mem_dropLast args f
  rw [h, List.dropLast_append_cons] at hd
  exact fun hm => hd (List.mem_append_left _ hm)

/-- The locals after the loop, read off the tokens: a positional argument fills a file. -/
def Token.positional? : Token → Option String
  | .positional s => some s
  | _ => none

def Token.valueOf? (f : ValueFlag) : Token → Option String
  | .value g v => if g = f then some v else none
  | _ => none

/-- The positional arguments at flag positions, in order. -/
def positionals (ts : List Token) : List String := ts.filterMap Token.positional?

/-- The value after the last occurrence of the flag `f`. -/
def lastValue (f : ValueFlag) (ts : List Token) : Option String :=
  (ts.filterMap (Token.valueOf? f)).getLast?

/-- The locals after the loop has gone through the tokens `ts` from the start: the first two
positionals, and the last value of each flag or its default. -/
def optionsOf (ts : List Token) : Options :=
  ⟨(positionals ts)[0]?, (positionals ts)[1]?, (lastValue .labelA ts).getD "Variant A",
    (lastValue .labelB ts).getD "Variant B", (lastValue .outputDir ts).getD "./charts"⟩

@[simp] theorem optionsOf_nil : optionsOf [] = .init := rfl

theorem addFile_optionsOf (ts : List Token) (s : String) :
    (optionsOf ts).addFile s =
      { optionsOf ts with
        fileA := (positionals ts ++ [s])[0]?, fileB := (positionals ts ++ [s])[1]? } := by
  rcases h : positionals ts with _ | ⟨a, _ | ⟨b, rest⟩⟩ <;> simp [Options.addFile, optionsOf, h]

/-- A token the loop goes on from moves the locals from `optionsOf ts` to `optionsOf (ts ++ [t])`. -/
theorem apply_optionsOf {t : Token} (h : t.stop? = none) (ts : List Token) :
    t.apply (optionsOf ts) = optionsOf (ts ++ [t]) := by
  cases t with
  | value f v =>
    cases f <;> simp [Token.apply, Options.set, optionsOf, positionals, lastValue,
      Token.valueOf?, Token.positional?]
  | positional s =>
    rw [Token.apply, addFile_optionsOf]
    simp [optionsOf, positionals, lastValue, Token.valueOf?, Token.positional?]
  | help | dangling _ | unknown _ => cases h

/-- The run lemma: from `optionsOf pre`, the loop over `ts` stops at the first token that
stops it, and otherwise ends in `optionsOf (pre ++ ts)`. -/
theorem runTokens_optionsOf (pre ts : List Token) :
    runTokens ts (optionsOf pre) =
      match ts.findSome? Token.stop? with
      | some s => .error s
      | none => .ok (optionsOf (pre ++ ts)) := by
  induction ts generalizing pre with
  | nil => simp
  | cons t ts ih =>
    cases h : t.stop? with
    | some s => simp [runTokens_cons_of_stop h, List.findSome?_cons, h]
    | none =>
      rw [runTokens_cons_of_go h, apply_optionsOf h, ih, List.findSome?_cons, h]
      simp

/-- The argument handling of `main` in closed form: the first token that stops the loop
decides, and otherwise the check for two files runs on `optionsOf`. -/
theorem parseArgs_eq (args : List String) :
    parseArgs args =
      match (tokenize args).findSome? Token.stop? with
      | some s => .error s
      | none => requireFiles (optionsOf (tokenize args)) := by
  rw [parseArgs, parseLoop_eq_runTokens, List.drop_zero, ← optionsOf_nil, runTokens_optionsOf]
  split <;> rfl

end PerfCharts.ABChart
