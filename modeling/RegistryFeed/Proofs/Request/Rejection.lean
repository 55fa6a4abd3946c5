import RegistryFeed.Proofs.Request.Acceptance
import RegistryFeed.Request.Rejection

/-!
# What is rejected, and for what

A line is rejected exactly for the fault that the order of the checks puts first,
and no fault has a code beside the four. Words without a fault are left off from
the front, so what is found is about the first word that is wrong; each reader of
a value is matched with the relation of its faults.
-/

namespace RegistryFeed.Request

/-! ## Words -/

theorem ofToken?_eq_none_iff {word : String} : Flag.ofToken? word = none ↔ ¬ IsFlag word := by
  simp only [Flag.ofToken?, IsFlag]
  grind

theorem isSome_ofToken?_iff {word : String} : (Flag.ofToken? word).isSome ↔ IsFlag word := by
  rw [← not_iff_not, Bool.not_eq_true, Option.isSome_eq_false_iff, Option.isNone_iff_eq_none]
  exact ofToken?_eq_none_iff

theorem put?_eq_none {o : Options} {flag : Flag} {value : String} :
    o.put? flag value = none ↔ flag.SetIn o.info o.changes o.keepalive := by
  cases flag <;> simp [Options.put?, Flag.SetIn, Option.isSome_iff_ne_none]

/-- Words in order are read, and reading goes on behind them. -/
theorem Given.collect_append {front : List String} {info changes : Option String}
    {keepalive : Bool} (given : Given front info changes keepalive) (rest : List String) :
    Options.none.collect (front ++ rest) = Options.collect ⟨info, changes, keepalive⟩ rest := by
  induction given generalizing rest with
  | nil => rfl
  | info _ plain ih =>
    rw [List.append_assoc, ih]
    exact collect_of_reads (.info (ofToken?_eq_none_iff.mpr plain) rfl)
  | changes _ plain ih =>
    rw [List.append_assoc, ih]
    exact collect_of_reads (.changes (ofToken?_eq_none_iff.mpr plain) rfl)
  | keepalive _ ih =>
    rw [List.append_assoc, ih]
    exact collect_of_reads (.keepalive rfl)

/-- What is read first goes behind the words that are in order. -/
theorem Given.of_reads {front ts rest : List String} {o next : Options}
    (given : Given front o.info o.changes o.keepalive) (reads : o.Reads ts next rest) :
    ∃ more, ts = more ++ rest ∧ Given (front ++ more) next.info next.changes next.keepalive := by
  cases reads with
  | keepalive unset =>
    rw [unset] at given
    exact ⟨["-k"], rfl, given.keepalive⟩
  | @info value rest plain unset =>
    rw [unset] at given
    exact ⟨["-q", value], rfl, given.info (ofToken?_eq_none_iff.mp plain)⟩
  | @changes value rest plain unset =>
    rw [unset] at given
    exact ⟨["-g", value], rfl, given.changes (ofToken?_eq_none_iff.mp plain)⟩

/-- What reading comes to behind words that are in order. -/
def Collected (words : List String) : Except Fault Options → Prop
  | .ok o => Given words o.info o.changes o.keepalive
  | .error f => ∃ cause, f = .options cause ∧ WordFault words cause

theorem Collected.of_reads {front ts rest : List String} {o next : Options}
    (given : Given front o.info o.changes o.keepalive) (reads : o.Reads ts next rest)
    (later : ∀ front, Given front next.info next.changes next.keepalive →
      Collected (front ++ rest) (next.collect rest)) :
    Collected (front ++ ts) (next.collect rest) := by
  obtain ⟨more, rfl, longer⟩ := given.of_reads reads
  rw [← List.append_assoc]
  exact later _ longer

theorem Given.collected {front : List String} {o : Options} (ts : List String)
    (given : Given front o.info o.changes o.keepalive) :
    Collected (front ++ ts) (o.collect ts) := by
  fun_induction Options.collect o ts generalizing front with
  | case1 => rwa [List.append_nil]
  | case2 o token rest flag put =>
    obtain rfl := ofToken?_eq_some flag
    have twice : o.keepalive = true := put?_eq_none.mp put
    rw [twice] at given
    exact ⟨_, rfl, .keptTwice given⟩
  | case3 o token rest flag next put ih =>
    obtain rfl := ofToken?_eq_some flag
    obtain ⟨unset, rfl⟩ := put?_eq_some put
    exact Collected.of_reads given (.keepalive unset) fun _ longer => ih longer
  | case4 o token flag valued found =>
    obtain rfl := ofToken?_eq_some found
    exact ⟨_, rfl, .needsValue given valued fun _ none => nomatch none⟩
  | case5 o token flag valued found value rest follows =>
    obtain rfl := ofToken?_eq_some found
    refine ⟨_, rfl, .needsValue given valued ?_⟩
    rintro _ ⟨⟩
    exact isSome_ofToken?_iff.mp follows
  | case6 o token flag valued found value rest plain put =>
    obtain rfl := ofToken?_eq_some found
    exact ⟨_, rfl, .repeated given valued (mt isSome_ofToken?_iff.mpr plain) (put?_eq_none.mp put)⟩
  | case7 o token flag valued found value rest plain next put ih =>
    obtain rfl := ofToken?_eq_some found
    rw [Option.not_isSome_iff_eq_none] at plain
    cases flag with
    | info =>
      obtain ⟨unset, rfl⟩ := put?_eq_some put
      exact Collected.of_reads given (.info plain unset) fun _ longer => ih longer
    | changes =>
      obtain ⟨unset, rfl⟩ := put?_eq_some put
      exact Collected.of_reads given (.changes plain unset) fun _ longer => ih longer
    | keepalive => exact absurd rfl valued
  | case8 o token rest other hyphen =>
    exact ⟨_, rfl, .unknown given (ofToken?_eq_none_iff.mp other) hyphen⟩
  | case9 o token rest other plain =>
    exact ⟨_, rfl, .stray given (ofToken?_eq_none_iff.mp other) plain⟩

theorem collect_eq_ok_iff {words : List String} {o : Options} :
    Options.none.collect words = .ok o ↔ Given words o.info o.changes o.keepalive := by
  constructor
  · intro read
    have collected := Given.nil.collected (o := Options.none) words
    rwa [read] at collected
  · intro given
    have read := given.collect_append []
    rwa [List.append_nil] at read

theorem WordFault.collect {words : List String} {cause : OptionFault}
    (wrong : WordFault words cause) : Options.none.collect words = .error (.options cause) := by
  cases wrong with
  | @needsValue front rest info changes keepalive flag before valued missing =>
    rw [before.collect_append]
    cases rest with
    | nil => cases flag <;> simp_all [Options.collect, Flag.ofToken?_token]
    | cons value rest =>
      have follows := isSome_ofToken?_iff.mpr (missing value rfl)
      cases flag <;> simp_all [Options.collect, Flag.ofToken?_token]
  | @repeated front rest info changes keepalive flag value before valued plain twice =>
    rw [before.collect_append]
    have unread : ¬ (Flag.ofToken? value).isSome := mt isSome_ofToken?_iff.mp plain
    have put : Options.put? ⟨info, changes, keepalive⟩ flag value = none :=
      put?_eq_none.mpr twice
    cases flag <;> simp_all [Options.collect, Flag.ofToken?_token]
  | keptTwice before =>
    rw [before.collect_append]
    rfl
  | unknown before other hyphen =>
    rw [before.collect_append, Options.collect.eq_def]
    simp [ofToken?_eq_none_iff.mpr other, hyphen]
  | stray before other plain =>
    rw [before.collect_append, Options.collect.eq_def]
    simp [ofToken?_eq_none_iff.mpr other, plain]

theorem collect_eq_error_iff {words : List String} {f : Fault} :
    Options.none.collect words = .error f ↔
      ∃ cause, f = .options cause ∧ WordFault words cause := by
  constructor
  · intro read
    have collected := Given.nil.collected (o := Options.none) words
    rwa [read] at collected
  · rintro ⟨cause, rfl, wrong⟩
    exact wrong.collect

/-- A flag with a value is set exactly if it is one of the words, as no value is a flag. -/
theorem Given.mem_iff {words : List String} {info changes : Option String} {keepalive : Bool}
    (given : Given words info changes keepalive) :
    ("-q" ∈ words ↔ info ≠ none) ∧ ("-g" ∈ words ↔ changes ≠ none) := by
  induction given with
  | nil => simp
  | @info front changes keepalive value before plain ih =>
    have other : "-g" ≠ value := by
      rintro rfl
      exact plain (Or.inr (Or.inl rfl))
    simp [ih, other]
  | @changes front info keepalive value before plain ih =>
    have other : "-q" ≠ value := by
      rintro rfl
      exact plain (Or.inl rfl)
    simp [ih, other]
  | keepalive before ih => simp [ih]

/-! ## Values -/

theorem not_isNumeral_iff {cs : List Char} :
    ¬ Text.isNumeral cs ↔ cs = [] ∨ ∃ c ∈ cs, ¬ ('0' ≤ c ∧ c ≤ '9') := by
  rw [isNumeral_iff, not_and_or, not_ne_iff]
  simp only [not_forall, exists_prop]

theorem readSerial_eq_error_iff {cs : List Char} {cause : Malformed} :
    readSerial cs = .error cause ↔ SerialFault cs cause := by
  rw [readSerial]
  constructor
  · intro h
    split at h
    · next numeral =>
      obtain ⟨nonempty, digits⟩ := isNumeral_iff.mp numeral
      simp only at h
      split at h
      · cases h
      · next beyond =>
        obtain rfl := Except.error.inj h
        exact .tooLarge nonempty digits (by omega)
    · next other =>
      obtain rfl := Except.error.inj h
      exact .notSerial (not_isNumeral_iff.mp other)
  · intro wrong
    cases wrong with
    | notSerial h => exact if_neg (not_isNumeral_iff.mpr h)
    | tooLarge nonempty digits beyond =>
      rw [if_pos (isNumeral_iff.mpr ⟨nonempty, digits⟩)]
      exact if_neg (by omega)

theorem readRange_eq_error_iff {cs : List Char} {cause : Malformed} :
    readRange cs = .error cause ↔ RangeFault cs cause := by
  constructor
  · intro h
    rw [readRange] at h
    split at h
    · next absent =>
      obtain rfl := Except.error.inj h
      exact .noHyphen (Text.cut?_eq_none_iff.mp absent)
    · next a b found =>
      obtain ⟨rfl, first⟩ := Text.cut?_eq_some_iff.mp found
      rcases bind_eq_error_iff.mp h with wrong | ⟨n, start, h⟩
      · exact .start first (readSerial_eq_error_iff.mp wrong)
      · rw [readSerial_eq_ok_iff] at start
        split at h
        · cases h
        · next number =>
          rw [sameWord_iff, String.toList_ofList] at number
          rcases bind_eq_error_iff.mp h with wrong | ⟨m, stop, h⟩
          · exact .stop start number (readSerial_eq_error_iff.mp wrong)
          · split at h
            · next order =>
              obtain rfl := Except.error.inj h
              exact .reversed start (readSerial_eq_ok_iff.mp stop) order
            · cases h
  · intro wrong
    have found {a b : List Char} (first : '-' ∉ a) : Text.cut? '-' (a ++ '-' :: b) = some (a, b) :=
      Text.cut?_eq_some_iff.mpr ⟨rfl, first⟩
    have number {b : List Char} (h : ¬ Spells b "LAST") :
        ¬ Text.sameWord (String.ofList b) "LAST" := by
      rwa [sameWord_iff, String.toList_ofList]
    rw [readRange]
    cases wrong with
    | noHyphen absent => rw [Text.cut?_eq_none_iff.mpr absent]
    | start first wrong =>
      simp only [found first, readSerial_eq_error_iff.mpr wrong, bind, Except.bind]
    | stop start other wrong =>
      simp only [found (start.not_mem (by decide)), readSerial_eq_ok_iff.mpr start,
        readSerial_eq_error_iff.mpr wrong, if_neg (number other), bind, Except.bind]
    | reversed start stop order =>
      simp only [found (start.not_mem (by decide)), readSerial_eq_ok_iff.mpr start,
        readSerial_eq_ok_iff.mpr stop, if_neg (number stop.not_spells_last), if_pos order, bind,
        Except.bind, throw, throwThe, MonadExceptOf.throw]

theorem resolve_eq_none_iff {ctx : SourceContext} {name : List Char} :
    ctx.resolve (String.ofList name) = none ↔ ∀ s, ¬ Names ctx name s := by
  simp only [Option.eq_none_iff_forall_ne_some, ne_eq, resolve_eq_some_iff]

theorem fields_iff {text : List Char} {fields : List (List Char)} :
    Fields text fields ↔ Text.fields ':' text = fields := by
  rw [Text.fields_eq_iff]
  constructor
  · rintro ⟨present, whole, same⟩
    exact ⟨present, whole, same⟩
  · rintro ⟨present, whole, same⟩
    exact ⟨present, whole, same⟩

theorem readSelection_eq_error_iff {ctx : SourceContext} {value : String} {f : Fault} :
    readSelection ctx value = .error f ↔
      SelectionFault ctx (Text.fields ':' value.toList) f f.code.number := by
  rw [readSelection]
  constructor
  · intro h
    split at h
    · next none => exact absurd none (Text.fields_ne_nil ':' value.toList)
    · next name more cut =>
      rw [cut]
      split at h
      · next unnamed =>
        obtain rfl := Except.error.inj h
        exact .source (resolve_eq_none_iff.mp unnamed)
      · next s named =>
        rw [resolve_eq_some_iff] at named
        split at h
        · obtain rfl := Except.error.inj h
          exact .noVersion named
        · next version more =>
          split at h
          · next other =>
            obtain rfl := Except.error.inj h
            exact .version named (mt isVersion_iff.mpr other)
          · next three =>
            rw [ne_eq, not_not, isVersion_iff] at three
            split at h
            · next range =>
              split at h
              · cases h
              · next cause wrong =>
                obtain rfl := Except.error.inj h
                exact .range named three (readRange_eq_error_iff.mp wrong)
            · next count =>
              obtain rfl := Except.error.inj h
              refine .fieldCount named three fun one => ?_
              obtain ⟨range, rfl⟩ := List.length_eq_one_iff.mp one
              exact count range rfl
  · intro wrong
    generalize Text.fields ':' value.toList = fields at wrong
    generalize f.code.number = code at wrong
    cases wrong with
    | source unnamed => simp only [resolve_eq_none_iff.mpr unnamed]
    | noVersion named => simp only [resolve_eq_some_iff.mpr named]
    | version named other =>
      simp only [resolve_eq_some_iff.mpr named, ne_eq, isVersion_iff, other, not_false_eq_true,
        if_true]
    | @fieldCount name version more s named three count =>
      simp only [resolve_eq_some_iff.mpr named, ne_eq, isVersion_iff.mpr three, not_true_eq_false,
        if_false]
      split
      · exact absurd rfl count
      · rfl
    | range named three wrong =>
      simp only [resolve_eq_some_iff.mpr named, ne_eq, isVersion_iff.mpr three, not_true_eq_false,
        if_false, readRange_eq_error_iff.mpr wrong]

theorem readInfoOption_eq_error_iff {value : String} {f : Fault} :
    readInfoOption value = .error f ↔
      f = .unknownInfoOption value ∧ ∀ option : InfoOption, ¬ Spells value.toList option.text := by
  rw [readInfoOption]
  simp only [← ofText?_eq_some_iff]
  cases InfoOption.ofText? value <;> simp [eq_comm]

/-- What the values are rejected for, where the flags leave one of them to be read. -/
theorem query_eq_error_iff {ctx : SourceContext} {words : List String} {o : Options} {f : Fault}
    (flags : FlagsAllowed words) (given : Given words o.info o.changes o.keepalive) :
    o.query ctx = .error f ↔
      (∃ value, o.info = some value ∧ readInfoOption value = .error f) ∨
        ∃ value, o.changes = some value ∧ readSelection ctx value = .error f := by
  obtain ⟨info, changes, keepalive⟩ := o
  have one := flags.oneOf
  rw [given.mem_iff.1, given.mem_iff.2] at one
  cases info with
  | some value =>
    cases changes with
    | some other => simp at one
    | none => simp [Options.query, bind_eq_error_iff, pure, Except.pure]
  | none =>
    cases changes with
    | some value => simp [Options.query, bind_eq_error_iff, pure, Except.pure]
    | none => simp at one

/-! ## Lines -/

theorem SelectionFault.code_eq {ctx : SourceContext} {fields : List (List Char)} {f : Fault}
    {code : Nat} (wrong : SelectionFault ctx fields f code) : code = f.code.number := by
  cases wrong <;> rfl

theorem Rejects.code_eq {ctx : SourceContext} {words : List String} {f : Fault} {code : Nat}
    (rejects : Rejects ctx words f code) : code = f.code.number := by
  cases rejects with
  | selection _ _ _ wrong => exact wrong.code_eq
  | _ => rfl

theorem Rejects.code_mem {ctx : SourceContext} {words : List String} {f : Fault} {code : Nat}
    (rejects : Rejects ctx words f code) : code ∈ [400, 403, 405, 406] := by
  cases rejects with
  | selection _ _ _ wrong => cases wrong <;> decide
  | _ => decide

/-- Reading a line: the flags in it, then its words, then the values of the flags. -/
theorem parse_eq {ctx : SourceContext} {line : String} : parse ctx line =
    if tokens line = [] then .error .emptyRequest
    else if "-q" ∈ tokens line ↔ "-g" ∈ tokens line then .error .ambiguousRequest
    else if "-k" ∈ tokens line ∧ "-g" ∉ tokens line then .error .keepaliveWithoutChanges
    else Options.none.collect (tokens line) >>= Options.query ctx := by
  simp only [parse, List.isEmpty_iff, Flag.token, List.contains_eq_mem, beq_iff_eq,
    decide_eq_decide, Bool.and_eq_true, decide_eq_true_eq, Bool.not_eq_true',
    decide_eq_false_iff_not]

theorem rejects_nil_iff {ctx : SourceContext} {f : Fault} {code : Nat} :
    Rejects ctx [] f code ↔ f = .emptyRequest ∧ code = 400 := by
  constructor
  · intro rejects
    cases rejects with
    | empty => exact ⟨rfl, rfl⟩
    | ambiguous present _ => exact absurd rfl present
    | keepalive _ kept _ => cases kept
    | option flags _ | info flags _ _ | selection flags _ _ _ => exact absurd rfl flags.present
  · rintro ⟨rfl, rfl⟩
    exact .empty

theorem rejects_iff_of_ambiguous {ctx : SourceContext} {words : List String} {f : Fault}
    {code : Nat} (present : words ≠ []) (both : "-q" ∈ words ↔ "-g" ∈ words) :
    Rejects ctx words f code ↔ f = .ambiguousRequest ∧ code = 400 := by
  constructor
  · intro rejects
    cases rejects with
    | empty => exact absurd rfl present
    | ambiguous _ _ => exact ⟨rfl, rfl⟩
    | keepalive one _ _ => exact absurd both one
    | option flags _ | info flags _ _ | selection flags _ _ _ => exact absurd both flags.oneOf
  · rintro ⟨rfl, rfl⟩
    exact .ambiguous present both

theorem rejects_iff_of_keepalive {ctx : SourceContext} {words : List String} {f : Fault}
    {code : Nat} (one : ¬ ("-q" ∈ words ↔ "-g" ∈ words)) (kept : "-k" ∈ words)
    (without : "-g" ∉ words) :
    Rejects ctx words f code ↔ f = .keepaliveWithoutChanges ∧ code = 400 := by
  constructor
  · intro rejects
    cases rejects with
    | empty => cases kept
    | ambiguous _ both => exact absurd both one
    | keepalive _ _ _ => exact ⟨rfl, rfl⟩
    | option flags _ | info flags _ _ | selection flags _ _ _ =>
      exact absurd (flags.keepalive kept) without
  · rintro ⟨rfl, rfl⟩
    exact .keepalive one kept without

/-- Behind the flags, the fault of a line is one of its words or one of its value. -/
theorem rejects_iff_of_allowed {ctx : SourceContext} {words : List String} {f : Fault}
    (flags : FlagsAllowed words) :
    (Options.none.collect words >>= Options.query ctx) = .error f ↔
      Rejects ctx words f f.code.number := by
  rw [bind_eq_error_iff, collect_eq_error_iff]
  constructor
  · rintro (⟨cause, rfl, wrong⟩ | ⟨o, read, wrong⟩)
    · exact .option flags wrong
    · have given := collect_eq_ok_iff.mp read
      rcases (query_eq_error_iff flags given).mp wrong with ⟨value, info, wrong⟩ |
        ⟨value, changes, wrong⟩
      · obtain ⟨rfl, unknown⟩ := readInfoOption_eq_error_iff.mp wrong
        rw [info] at given
        exact .info flags given unknown
      · rw [changes] at given
        exact .selection flags given (fields_iff.mpr rfl) (readSelection_eq_error_iff.mp wrong)
  · intro rejects
    generalize atCode : f.code.number = code at rejects
    cases rejects with
    | empty => exact absurd rfl flags.present
    | ambiguous _ both => exact absurd both flags.oneOf
    | keepalive _ kept without => exact absurd (flags.keepalive kept) without
    | option _ wrong => exact Or.inl ⟨_, rfl, wrong⟩
    | @info _ value changes keepalive _ given unknown =>
      refine Or.inr ⟨⟨some value, changes, keepalive⟩, collect_eq_ok_iff.mpr given, ?_⟩
      rw [query_eq_error_iff flags given]
      exact Or.inl ⟨value, rfl, readInfoOption_eq_error_iff.mpr ⟨rfl, unknown⟩⟩
    | @selection _ value info keepalive fields _ _ _ given cut wrong =>
      refine Or.inr ⟨⟨info, some value, keepalive⟩, collect_eq_ok_iff.mpr given, ?_⟩
      rw [query_eq_error_iff flags given]
      rw [← fields_iff.mp cut, ← atCode] at wrong
      exact Or.inr ⟨value, rfl, readSelection_eq_error_iff.mpr wrong⟩

theorem error_eq_iff {f g : Fault} {code : Nat} (h : g.code.number = code) :
    (Except.error g : Except Fault Query) = .error f ↔ f = g ∧ f.code.number = code := by
  constructor
  · intro same
    obtain rfl := Except.error.inj same
    exact ⟨rfl, h⟩
  · rintro ⟨rfl, -⟩
    rfl

/-- A line is rejected exactly for the first fault in the order of the checks. -/
theorem parse_eq_error_iff {ctx : SourceContext} {line : String} {f : Fault} :
    parse ctx line = .error f ↔ Rejects ctx (tokens line) f f.code.number := by
  rw [parse_eq]
  generalize tokens line = ts
  by_cases empty : ts = []
  · rw [if_pos empty, empty, rejects_nil_iff]
    exact error_eq_iff rfl
  · rw [if_neg empty]
    by_cases both : "-q" ∈ ts ↔ "-g" ∈ ts
    · rw [if_pos both, rejects_iff_of_ambiguous empty both]
      exact error_eq_iff rfl
    · rw [if_neg both]
      by_cases alone : "-k" ∈ ts ∧ "-g" ∉ ts
      · rw [if_pos alone, rejects_iff_of_keepalive both alone.1 alone.2]
        exact error_eq_iff rfl
      · rw [if_neg alone]
        apply rejects_iff_of_allowed
        exact ⟨empty, both, fun kept => not_not.mp fun without => alone ⟨kept, without⟩⟩

/-- A line is rejected for a fault, and under a code, exactly if the words between its blanks are:
the first check that fails decides, whatever is wrong behind it. There are four codes. -/
theorem rejected_iff (ctx : SourceContext) (line : String) (f : Fault) (code : Nat) :
    (parse ctx line = .error f ∧ f.code.number = code ↔ ∃ ts : List String,
      Text.Separated line.toList (ts.map String.toList) ∧ Rejects ctx ts f code) ∧
    (parse ctx line = .error f → f.code.number ∈ [400, 403, 405, 406]) := by
  rw [parse_eq_error_iff]
  constructor
  · constructor
    · rintro ⟨rejects, rfl⟩
      exact ⟨tokens line, tokens_eq_iff.mp rfl, rejects⟩
    · rintro ⟨ts, separated, rejects⟩
      rw [tokens_eq_iff.mpr separated]
      obtain rfl := rejects.code_eq
      exact ⟨rejects, rfl⟩
  · exact Rejects.code_mem

/-- A source that is not served is told before its version and its range. -/
theorem rejected_unknownSource :
    parse ⟨⟨"RIPE"⟩, none⟩ "-k -g NOPE:4:9-1" = .error (.unknownSource "NOPE") ∧
      (∃ ts : List String,
        Text.Separated "-k -g NOPE:4:9-1".toList (ts.map String.toList) ∧
          Rejects ⟨⟨"RIPE"⟩, none⟩ ts (.unknownSource "NOPE") 403) ∧
      (Fault.unknownSource "NOPE").code.number ∈ [400, 403, 405, 406] := by
  have read : parse ⟨⟨"RIPE"⟩, none⟩ "-k -g NOPE:4:9-1" = .error (.unknownSource "NOPE") := by
    rfl
  obtain ⟨rejected, codes⟩ := rejected_iff ⟨⟨"RIPE"⟩, none⟩ "-k -g NOPE:4:9-1"
    (.unknownSource "NOPE") 403
  exact ⟨read, rejected.mp ⟨read, rfl⟩, codes read⟩

end RegistryFeed.Request
