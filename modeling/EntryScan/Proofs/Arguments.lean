import EntryScan.CommandLine.Run
import EntryScan.Proofs.Address

/-!
# EntryScan.Proofs.Arguments

How the arguments of a command line are read.

* `Options.chosen_of_parse`: a level and an architecture are among what can be chosen.
* `Options.parse_section`, `Options.parse_raw`: a request for a section of an image and one for raw
  code, each with options that select what is reported, in any order and number.
-/

namespace EntryScan

theorem exists_of_bind_ok {ε α β : Type} {x : Except ε α} {f : α → Except ε β} {b : β}
    (h : (x >>= f) = .ok b) : ∃ a, x = .ok a ∧ f a = .ok b := by
  cases x with
  | error e => cases h
  | ok a => exact ⟨a, rfl, h⟩

namespace CommandLine
namespace Options

/-! ## Values among choices -/

/-- A level and an architecture are open, or among what can be chosen. -/
structure Chosen (o : Options) : Prop where
  logLevel : ∀ level ∈ o.logLevel, level ∈ ["DEBUG", "INFO", "WARNING", "ERROR"]
  arch : ∀ tag ∈ o.arch, tag ∈ Arch.tags

variable {opts : Options}

theorem chosen_defaults (c : Config) : (defaults c).Chosen := by
  refine ⟨fun level h => ?_, fun tag h => ?_⟩
  · cases h
    decide
  · cases h

theorem Chosen.setFlag (h : opts.Chosen) (o : Opt) : (opts.setFlag o).Chosen := by
  cases o <;> exact ⟨h.logLevel, h.arch⟩

theorem Chosen.leaveOpen (h : opts.Chosen) (o : Opt) : (opts.leaveOpen o).Chosen := by
  cases o with
  | arch => exact ⟨h.logLevel, fun _ h => by cases h⟩
  | logLevel => exact ⟨fun _ h => (by cases h), h.arch⟩
  | _ => exact ⟨h.logLevel, h.arch⟩

theorem Chosen.setValue (h : opts.Chosen) {o : Opt} {value : String} {opts' : Options}
    (hset : opts.setValue o value = .ok opts') : opts'.Chosen := by
  unfold Options.setValue at hset
  split at hset
  · cases hset
    exact h.leaveOpen o
  · split at hset
    · cases hset
    · rename_i hchoice
      have hmem (cs : List String) (hcs : o.choices = some cs) : value ∈ cs := by
        rw [hcs] at hchoice
        simpa using hchoice
      cases hset
      cases o with
      | arch => exact ⟨h.logLevel, fun tag htag => by cases htag; exact hmem _ rfl⟩
      | logLevel => exact ⟨fun level hlevel => (by cases hlevel; exact hmem _ rfl), h.arch⟩
      | _ => exact ⟨h.logLevel, h.arch⟩

theorem Chosen.consume {atInput : Bool} {ws : List (String × Word)} {r : Options × Bool}
    (h : opts.Chosen) (hread : opts.consume atInput ws = .ok r) : r.1.Chosen := by
  fun_induction Options.consume opts atInput ws with
  | case1 =>
    cases hread
    exact h
  | case2 _ _ _ _ _ _ _ _ ih | case5 _ _ _ _ _ _ _ _ ih =>
    obtain ⟨opts', hset, hread⟩ := exists_of_bind_ok hread
    exact ih opts' (h.setValue hset) hread
  | case3 | case6 => cases hread
  | case4 =>
    obtain ⟨⟨last, attached⟩, -, hread⟩ := exists_of_bind_ok hread
    dsimp only at hread
    split at hread
    · cases hread
    · cases hread
      exact h.setFlag _
  | case7 =>
    cases hread
    exact h.setFlag .help
  | case8 _ _ _ _ _ _ _ _ ih => exact ih (h.setFlag _) hread
  | case9 _ _ _ _ ih | case10 _ _ _ _ _ ih | case11 _ _ _ _ _ ih =>
    exact ih ⟨h.logLevel, h.arch⟩ hread

theorem Chosen.consumePlain (h : opts.Chosen) (atInput : Bool) (args : List String) :
    (opts.consumePlain atInput args).Chosen := by
  unfold Options.consumePlain
  split <;> exact ⟨h.logLevel, h.arch⟩

theorem chosen_of_parse {c : Config} {argv : List String} (hparse : parse c argv = .ok opts) :
    opts.Chosen := by
  unfold parse at hparse
  obtain ⟨words, -, hparse⟩ := exists_of_bind_ok hparse
  obtain ⟨⟨read, atInput⟩, hread, hparse⟩ := exists_of_bind_ok hparse
  have hread : read.Chosen := (chosen_defaults c).consume hread
  -- what follows a divider is added, and then only checks are made
  have hchecks (all : Options) (hall : all.Chosen) (hparse : (do
      if all.help then return all
      if all.path.isNone then .error .noInput
      if !all.extras.isEmpty then .error (.unrecognized all.extras)
      return all : Except Misuse Options) = .ok opts) : opts.Chosen := by
    have hparse : (if all.help then .ok all
        else if all.path = none then .error .noInput
        else if all.extras = [] then .ok all
        else .error (.unrecognized all.extras) : Except Misuse Options) = .ok opts := by
      simpa [bind, Except.bind, pure, Except.pure] using hparse
    split_ifs at hparse <;> cases hparse <;> exact hall
  refine hchecks _ ?_ hparse
  split
  · exact hread.consumePlain _ _
  · exact hread

end Options

/-! ## Arguments as they are read -/

/-- What is reported of an analysis, and how. -/
structure Selection where
  mode : String := "candidates"
  inSectionOnly : Bool := false
  callgraph : Bool := false
  pretty : Bool := false

/-- An option that only selects what is reported. -/
inductive Choice where
  | mode (name : String) (known : name ∈ ["prologues", "call-sites", "candidates", "all"])
  | inSectionOnly
  | callgraph
  | pretty

namespace Choice

/-- The arguments for a choice. -/
def arguments : Choice → List String
  | .mode name _ => ["--mode", name]
  | .inSectionOnly => ["--in-section-only"]
  | .callgraph => ["--callgraph"]
  | .pretty => ["--pretty"]

/-- What a choice changes. -/
def select (s : Selection) : Choice → Selection
  | .mode name _ => { s with mode := name }
  | .inSectionOnly => { s with inSectionOnly := true }
  | .callgraph => { s with callgraph := true }
  | .pretty => { s with pretty := true }

/-- The arguments for a choice, as they are classified. -/
def words : Choice → List (String × Word)
  | .mode name _ => [("--mode", .option .mode false none), (name, .argument)]
  | .inSectionOnly => [("--in-section-only", .option .inSectionOnly false none)]
  | .callgraph => [("--callgraph", .option .callgraph false none)]
  | .pretty => [("--pretty", .option .pretty false none)]

end Choice

/-- The arguments are classified as the words. -/
def Classified (args : List String) (words : List (String × Word)) : Prop :=
  args.mapM (fun arg => do return (arg, ← classify arg)) = Except.ok words

theorem classified_nil : Classified [] [] := rfl

theorem Classified.cons {arg : String} {w : Word} {args : List String}
    {words : List (String × Word)} (harg : classify arg = .ok w) (h : Classified args words) :
    Classified (arg :: args) ((arg, w) :: words) := by
  unfold Classified at h ⊢
  rw [List.mapM_cons, harg, h]
  rfl

theorem Classified.append {args args' : List String} {words words' : List (String × Word)}
    (h : Classified args words) (h' : Classified args' words') :
    Classified (args ++ args') (words ++ words') := by
  unfold Classified at h h' ⊢
  rw [List.mapM_append, h, h']
  rfl

theorem Choice.classified (choice : Choice) : Classified choice.arguments choice.words := by
  cases choice with
  | mode name known =>
    have hname : classify name = .ok .argument := by
      simp only [List.mem_cons, List.not_mem_nil, or_false] at known
      rcases known with rfl | rfl | rfl | rfl <;> decide
    exact .cons (by decide) (.cons hname classified_nil)
  | inSectionOnly | callgraph | pretty => exact .cons (by decide) classified_nil

theorem classified_choices (choices : List Choice) :
    Classified (choices.flatMap Choice.arguments) (choices.flatMap Choice.words) := by
  induction choices with
  | nil => exact classified_nil
  | cons choice choices ih => exact choice.classified.append ih

/-- A value after `=` belongs to the option before it. -/
theorem classify_section (name : String) :
    classify ("--section=" ++ name) = .ok (.option .sectionName false (some name)) := by
  have htext : ("--section=" ++ name).toList =
      ['-', '-', 's', 'e', 'c', 't', 'i', 'o', 'n', '='] ++ name.toList :=
    String.toList_append
  have hspellings : ∀ entry ∈ Opt.table, '=' ∉ entry.1.toList := by decide
  have hfull : Opt.table.lookup ("--section=" ++ name) = none := by
    rw [List.lookup_eq_none_iff]
    intro entry hentry
    rw [bne_iff_ne]
    rintro heq
    refine hspellings entry hentry ?_
    rw [← heq, htext]
    simp
  have hsplit : splitEquals ("--section=" ++ name).toList =
      ("--section".toList, some name.toList) := by
    rw [htext]
    rfl
  have hstart : Opt.table.lookup "--section" = some .sectionName := by decide
  have hdash : ("--section=" ++ name).toList.head? = some '-' := by rw [htext]; rfl
  have hlength : ("--section=" ++ name).toList.length ≠ 1 := by rw [htext]; simp
  simp only [classify, hsplit, hfull, hdash, hlength, ne_eq, not_true_eq_false, if_false,
    String.ofList_toList, hstart]
  rfl

theorem classify_argument {arg : String} (h : arg.toList.head? ≠ some '-') :
    classify arg = .ok .argument := by
  simp only [classify, if_pos h]

theorem ne_divider_of_classify {arg : String} {w : Word} (h : classify arg = .ok w) :
    arg ≠ "--" := by
  rintro rfl
  have hambiguous : (classify "--").isOk = false := by decide
  rw [h] at hambiguous
  cases hambiguous

theorem splitDivider_of_classified {args : List String} :
    ∀ {words}, Classified args words → splitDivider args = (args, none) := by
  induction args with
  | nil => exact fun _ => rfl
  | cons arg args ih =>
    intro words h
    unfold Classified at h
    rw [List.mapM_cons] at h
    obtain ⟨word, hword, h⟩ := exists_of_bind_ok h
    obtain ⟨w, hw, -⟩ := exists_of_bind_ok hword
    obtain ⟨words, hwords, -⟩ := exists_of_bind_ok h
    rw [splitDivider, if_neg (ne_divider_of_classify hw), ih hwords]

namespace Options

/-- The options with what is reported as selected. -/
def selecting (o : Options) (s : Selection) : Options :=
  { o with
    mode := s.mode, inSectionOnly := s.inSectionOnly, callgraph := s.callgraph,
    pretty := s.pretty }

theorem consume_flag (opts : Options) (atInput : Bool) (o : Opt) (arg : String) (short : Bool)
    (ws : List (String × Word)) (hvalue : o.takesValue = false) (hhelp : o ≠ .help) :
    opts.consume atInput ((arg, .option o short none) :: ws) =
      (opts.setFlag o).consume false ws := by
  conv => lhs; unfold consume
  simp [hvalue, hhelp]

theorem consume_value {opts opts' : Options} (atInput : Bool) {o : Opt} (arg : String)
    (short : Bool) {value : String} (ws : List (String × Word)) (hvalue : o.takesValue = true)
    (hset : opts.setValue o value = .ok opts') :
    opts.consume atInput ((arg, .option o short none) :: (value, .argument) :: ws) =
      opts'.consume false ws := by
  rw [consume]
  simp [hvalue, hset, bind, Except.bind]

theorem consume_attached {opts opts' : Options} (atInput : Bool) {o : Opt} (arg : String)
    (short : Bool) {value : String} (ws : List (String × Word)) (hvalue : o.takesValue = true)
    (hset : opts.setValue o value = .ok opts') :
    opts.consume atInput ((arg, .option o short (some value)) :: ws) = opts'.consume false ws := by
  rw [consume]
  simp [hvalue, hset, bind, Except.bind]

theorem consume_choices (o : Options) (choices : List Choice) :
    ∀ s atInput, ∃ atInput', (o.selecting s).consume atInput (choices.flatMap Choice.words) =
      .ok (o.selecting (choices.foldl Choice.select s), atInput') := by
  induction choices with
  | nil => exact fun s atInput => ⟨atInput, rfl⟩
  | cons choice choices ih =>
    intro s atInput
    obtain ⟨atInput', hrest⟩ := ih (choice.select s) false
    refine ⟨atInput', ?_⟩
    rw [List.flatMap_cons, List.foldl_cons, ← hrest]
    cases choice with
    | mode name known =>
      have hset : (o.selecting s).setValue .mode name =
          .ok (o.selecting (Choice.select s (.mode name known))) := by
        simp only [List.mem_cons, List.not_mem_nil, or_false] at known
        rcases known with rfl | rfl | rfl | rfl <;> rfl
      exact consume_value _ _ _ _ rfl hset
    | inSectionOnly | callgraph | pretty => exact consume_flag _ _ _ _ _ _ rfl nofun

theorem parse_of_classified {c : Config} {argv : List String} {words : List (String × Word)}
    {opts : Options} {atInput : Bool} (hwords : Classified argv words)
    (hread : (defaults c).consume false words = .ok (opts, atInput)) (hhelp : opts.help = false)
    (hpath : opts.path ≠ none) (hextras : opts.extras = []) : parse c argv = .ok opts := by
  unfold parse
  rw [splitDivider_of_classified hwords]
  dsimp only
  rw [show argv.mapM _ = _ from hwords]
  simp [bind, Except.bind, pure, Except.pure, hread, hhelp, hpath, hextras]

theorem consume_input (opts : Options) (hnone : opts.path = none) (atInput : Bool) (path : String)
    (ws : List (String × Word)) :
    opts.consume atInput ((path, .argument) :: ws) =
      consume { opts with path := some path } true ws := by
  conv => lhs; unfold consume
  simp [hnone]

/-- The options of a request for a section of an image. -/
def forSection (path name : String) : Options :=
  { defaults {} with path := some path, sectionName := name }

/-- The options of a request for raw code. -/
def forRaw (path tag base : String) : Options :=
  { defaults {} with path := some path, raw := true, arch := some tag, baseAddress := base }

theorem parse_section {path name : String} (hpath : classify path = .ok .argument)
    (hname : name ≠ "--") (choices : List Choice) :
    parse {} (path :: ("--section=" ++ name) :: choices.flatMap Choice.arguments) =
      .ok ((forSection path name).selecting (choices.foldl Choice.select {})) := by
  have hset : setValue .sectionName name { defaults {} with path := some path } =
      .ok ((forSection path name).selecting {}) := by
    simp only [setValue, if_neg hname]
    rfl
  have hwords : Classified _ _ :=
    .cons hpath (.cons (classify_section name) (classified_choices choices))
  obtain ⟨atInput, hread⟩ := consume_choices (forSection path name) choices {} false
  have hread := (consume_input (defaults {}) rfl false path _).trans
    ((consume_attached true ("--section=" ++ name) false _ rfl hset).trans hread)
  exact parse_of_classified hwords hread rfl nofun rfl

theorem parse_raw {path tag base : String} (hpath : classify path = .ok .argument)
    (htag : tag ∈ Arch.tags) (hbase : classify base = .ok .argument) (choices : List Choice) :
    parse {} (path :: "--raw" :: "--arch" :: tag :: "--base-address" :: base ::
        choices.flatMap Choice.arguments) =
      .ok ((forRaw path tag base).selecting (choices.foldl Choice.select {})) := by
  have hargument : classify tag = .ok .argument := by
    have hmem : tag ∈ Arch.aliases.map (·.1) := List.mem_mergeSort.mp htag
    simp only [Arch.aliases, List.map_cons, List.map_nil, List.mem_cons, List.not_mem_nil,
      or_false] at hmem
    rcases hmem with rfl | rfl | rfl | rfl | rfl | rfl <;> decide
  have harch : setValue .arch tag { defaults {} with path := some path, raw := true } =
      .ok { defaults {} with path := some path, raw := true, arch := some tag } := by
    have hcontains : Arch.tags.contains tag = true := List.contains_iff_mem.mpr htag
    simp only [setValue, if_neg (ne_divider_of_classify hargument), Opt.choices, Option.map_some,
      Option.getD_some, hcontains]
    rfl
  have haddress : setValue .baseAddress base
      { defaults {} with path := some path, raw := true, arch := some tag } =
      .ok ((forRaw path tag base).selecting {}) := by
    simp only [setValue, if_neg (ne_divider_of_classify hbase)]
    rfl
  have hwords : Classified _ _ :=
    .cons hpath (.cons (show classify "--raw" = .ok (.option .raw false none) by decide)
      (.cons (show classify "--arch" = .ok (.option .arch false none) by decide) (.cons hargument
        (.cons (show classify "--base-address" = .ok (.option .baseAddress false none) by decide)
          (.cons hbase (classified_choices choices))))))
  obtain ⟨atInput, hread⟩ := consume_choices (forRaw path tag base) choices {} false
  have hread := (consume_input (defaults {}) rfl false path _).trans
    ((consume_flag _ true .raw "--raw" false _ rfl nofun).trans
      ((consume_value false "--arch" false _ rfl harch).trans
        ((consume_value false "--base-address" false _ rfl haddress).trans hread)))
  exact parse_of_classified hwords hread rfl nofun rfl

end Options

end CommandLine
end EntryScan
