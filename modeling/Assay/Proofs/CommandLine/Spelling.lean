import Assay.CommandLine.Parser

/-!
# Command lines in all their spellings

The words of a command name tests and give settings their values, in any order, and a setting with
its value is spelled in one of several ways. What is understood depends on the tests and the values
alone, not on how they are mixed or spelled, and a value may look like any word whatever where the
setting is a free one.

* `Setting.Spells`, `Mode.Writes` — the grammar, of a setting with its value and of a command's
  words.
* `Word.ofText_long` and its companions — which kind of word a spelling makes.
* `Progress.Holds` — what has been read when no value is missing; the last one may still be pending.
* `Progress.Holds.read_spelled`, `Progress.Holds.readAll` — a spelling keeps this, so all words do.
* `every_spelling_is_understood` — what a golden command line is understood as.
-/

namespace Assay.CommandLine

/-! ### The grammar -/

namespace Setting

/-- The values that a setting may have: a free one any text, the others paths. -/
def Allows (o : Setting) (value : String) : Prop :=
  o.isFree = false → value ≠ "" ∧ value.toList.head? ≠ some '-'

/-- The words by which a setting is given a value. -/
inductive Spells (o : Setting) (value : String) : List String → Prop
  | joined : Spells o value ["--" ++ o.longName ++ "=" ++ value]
  | apart : Spells o value ["--" ++ o.longName, value]
  | letterApart {c : Char} (letter : o.shortName = some c) :
      Spells o value [String.ofList ['-', c], value]
  | letterJoined {c : Char} (letter : o.shortName = some c) :
      Spells o value [String.ofList ('-' :: c :: '=' :: value.toList)]
  | letterAttached {c : Char} (letter : o.shortName = some c)
      (noEquals : value.toList.head? ≠ some '=') :
      Spells o value [String.ofList ('-' :: c :: value.toList)]

end Setting

/-- The words of a command, the tests that they name, and the values that they give to settings, in
order. Words behind `--` are tests, whatever they look like. -/
inductive Mode.Writes (m : Mode) : List String → List String → List (Setting × String) → Prop
  | nothing : Writes m [] [] []
  | escape (tests : List String) : Writes m ("--" :: tests) tests []
  | test {word : String} {words tests : List String} {values : List (Setting × String)}
      (plain : word.toList.head? ≠ some '-') (later : Writes m words tests values) :
      Writes m (word :: words) (word :: tests) values
  | setting {o : Setting} {value : String} {spelled words tests : List String}
      {values : List (Setting × String)} (known : o ∈ m.settings) (allowed : o.Allows value)
      (spells : o.Spells value spelled) (later : Writes m words tests values) :
      Writes m (spelled ++ words) tests ((o, value) :: values)

/-! ### Words -/

/-- Without an equals sign, all is the name, and there is no value. -/
theorem cutAtEquals_of_not_mem {s : List Char} (h : '=' ∉ s) :
    cutAtEquals s = (String.ofList s, none) := by
  have hdrop : (s ++ []).dropWhile (· != '=') = [].dropWhile (· != '=') :=
    List.dropWhile_append_of_pos fun c hc => bne_iff_ne.mpr fun heq => h (heq ▸ hc)
  rw [List.append_nil] at hdrop
  rw [cutAtEquals, hdrop]
  rfl

/-- The first equals sign stands between the name and the value. -/
theorem cutAtEquals_append {name : List Char} (h : '=' ∉ name) (value : List Char) :
    cutAtEquals (name ++ '=' :: value) = (String.ofList name, some (String.ofList value)) := by
  have hne : ∀ c ∈ name, (c != '=') = true := fun c hc => bne_iff_ne.mpr fun heq => h (heq ▸ hc)
  rw [cutAtEquals, List.dropWhile_append_of_pos hne, List.takeWhile_append_of_pos hne]
  simp

namespace Word

/-- A word that does not begin with a hyphen is a plain one. -/
theorem ofText_plain {word : String} (h : word.toList.head? ≠ some '-') : ofText word = .plain := by
  unfold ofText
  split
  · next heq => exact absurd (by rw [heq]; rfl) h
  · next heq => exact absurd (by rw [heq]; rfl) h
  · next heq => exact absurd (by rw [heq]; rfl) h
  · rfl

/-- Two hyphens with something behind them begin a long name, perhaps with its value. -/
theorem ofText_long {word : String} {rest : List Char} (h : word.toList = '-' :: '-' :: rest)
    (hne : rest ≠ []) : ofText word = .long (cutAtEquals rest).1 (cutAtEquals rest).2 := by
  obtain ⟨c, rest, rfl⟩ := List.exists_cons_of_ne_nil hne
  unfold ofText
  rw [h]
  rfl

/-- A hyphen and another character begin a word with a letter, whatever follows. -/
theorem ofText_short {c : Char} (rest : List Char) (h : c ≠ '-') :
    ofText (String.ofList ('-' :: c :: rest)) = .short c rest := by
  unfold ofText
  rw [String.toList_ofList]
  split
  · next heq => exact absurd (List.cons.inj (List.cons.inj heq).2).1 h
  · next heq => exact absurd (List.cons.inj (List.cons.inj heq).2).1 h
  · next heq =>
    cases heq
    rfl
  · next hno => exact absurd rfl (hno c rest)

end Word

namespace Setting

variable {m : Mode} {o : Setting} {c : Char}

/-- There is no equals sign in the name of a setting. -/
theorem equals_not_mem_longName (o : Setting) : '=' ∉ o.longName.toList := by
  cases o <;> decide

/-- No setting has the name by which help is asked for. -/
theorem longName_ne_helpName (o : Setting) : o.longName ≠ helpName := by
  cases o <;> decide

/-- A setting that a mode has is found by its name. -/
theorem byLongName?_longName (known : o ∈ m.settings) : m.byLongName? o.longName = some o := by
  revert known
  cases m <;> cases o <;> decide

/-- A setting that a mode has is found by its letter, if it has one. -/
theorem byShortName?_of_shortName (known : o ∈ m.settings) (letter : o.shortName = some c) :
    m.byShortName? c = some o := by
  cases o <;> cases letter
  revert known
  cases m <;> decide

/-- A letter stands neither for help nor for a second hyphen. -/
theorem letter_ne (letter : o.shortName = some c) : c ≠ 'h' ∧ c ≠ '-' := by
  cases o <;> cases letter
  decide

/-- A letter stands only for a path. -/
theorem isFree_of_letter (letter : o.shortName = some c) : o.isFree = false := by
  cases o <;> cases letter
  rfl

/-- The name of a setting by itself is read as that name, with no value in the word. -/
theorem ofText_longName (o : Setting) :
    Word.ofText ("--" ++ o.longName) = .long o.longName none := by
  have hlong : ("--" ++ o.longName).toList = '-' :: '-' :: o.longName.toList := by
    rw [String.toList_append]
    rfl
  rw [Word.ofText_long hlong (by cases o <;> decide),
    cutAtEquals_of_not_mem o.equals_not_mem_longName, String.ofList_toList]

/-- The name of a setting with a value in the same word is read as both, whatever the value is. -/
theorem ofText_longName_value (o : Setting) (value : String) :
    Word.ofText ("--" ++ o.longName ++ "=" ++ value) = .long o.longName (some value) := by
  have hlong : ("--" ++ o.longName ++ "=" ++ value).toList =
      '-' :: '-' :: (o.longName.toList ++ '=' :: value.toList) := by
    rw [String.toList_append, String.toList_append, String.toList_append, List.append_assoc,
      List.append_assoc]
    rfl
  rw [Word.ofText_long hlong (by simp), cutAtEquals_append o.equals_not_mem_longName,
    String.ofList_toList, String.ofList_toList]

end Setting

/-- What stands behind a letter is its value as it is, unless it begins with an equals sign. -/
theorem attached_of_ne {rest : List Char} (hne : rest ≠ []) (h : rest.head? ≠ some '=') :
    Progress.attached rest = some (String.ofList rest) := by
  unfold Progress.attached
  split
  · exact absurd rfl hne
  · exact absurd rfl h
  · rfl

/-! ### Values -/

/-- The values given to a setting are collected in order. -/
theorem valuesOf_append (o : Setting) (values values' : List (Setting × String)) :
    valuesOf o (values ++ values') = valuesOf o values ++ valuesOf o values' :=
  List.filterMap_append

/-- A value given to a setting stands in front of those given later. -/
theorem valuesOf_cons_self (o : Setting) (value : String) (values : List (Setting × String)) :
    valuesOf o ((o, value) :: values) = value :: valuesOf o values := by
  simp [valuesOf]

namespace Progress

/-- A value that may be given to a setting behind other values. -/
structure Acceptable (o : Setting) (value : String) (values : List (Setting × String)) : Prop where
  once : o.isRepeatable = false → valuesOf o values = []
  nonempty : o.isFree = false → value ≠ ""

variable {m : Mode} {o : Setting} {value : String} {tests : List String} {escaped : Bool}
  {values : List (Setting × String)} {p : Progress}

/-- A value that may be given is added behind the others. -/
theorem accept_of_acceptable (h : Acceptable o value p.values) :
    p.accept o value = .ok { p with values := p.values ++ [(o, value)] } := by
  unfold accept
  split
  · next htwice =>
    rw [Bool.and_eq_true, Bool.not_eq_true'] at htwice
    obtain ⟨hsingle, hgiven⟩ := htwice
    obtain ⟨⟨given, earlier⟩, hmem, heq⟩ := List.any_eq_true.mp hgiven
    have hearlier : earlier ∈ valuesOf o p.values :=
      List.mem_filterMap.mpr ⟨_, hmem, if_pos (eq_of_beq heq)⟩
    rw [h.once hsingle] at hearlier
    cases hearlier
  · refine if_neg ?_
    rintro ⟨hempty, hpath⟩
    exact h.nonempty (Bool.not_eq_true' _ |>.mp hpath) hempty

/-- What has been read where no value is missing: tests, and values of which the last one may still
be pending. -/
inductive Holds (m : Mode) (tests : List String) (escaped : Bool) :
    List (Setting × String) → Progress → Prop
  | settled (values : List (Setting × String)) :
      Holds m tests escaped values ⟨m, tests, values, none, escaped⟩
  | pending {o : Setting} {value : String} {values : List (Setting × String)}
      (acceptable : Acceptable o value values) :
      Holds m tests escaped (values ++ [(o, value)])
        ⟨m, tests, values, some (o, some value), escaped⟩

namespace Holds

/-- Where no value is missing, what is pending can be settled. -/
theorem settle (h : Holds m tests escaped values p) :
    p.settle = .ok ⟨m, tests, values, none, escaped⟩ := by
  cases h with
  | settled => rfl
  | pending acceptable => exact accept_of_acceptable acceptable

/-- Where no value is missing, a test can follow, and nothing is pending behind it. -/
theorem addTest (h : Holds m tests escaped values p) (word : String) :
    p.addTest word = .ok ⟨m, tests ++ [word], values, none, escaped⟩ := by
  rw [Progress.addTest, h.settle]
  rfl

/-- Where no value is missing, a word is what it looks like. -/
theorem read_eq (h : Holds m tests false values p) (word : String) :
    p.read word = p.readKind word (Word.ofText word) := by
  cases h <;> rfl

/-- Where no value is missing, a plain word names a test. -/
theorem read_test (h : Holds m tests false values p) {word : String}
    (plain : word.toList.head? ≠ some '-') :
    p.read word = .ok ⟨m, tests ++ [word], values, none, false⟩ := by
  rw [h.read_eq, Word.ofText_plain plain]
  exact h.addTest word

/-- A word that holds a setting's name. -/
theorem read_long (h : Holds m tests false values p) (known : o ∈ m.settings) {word : String}
    {inWord : Option String} (hword : Word.ofText word = .long o.longName inWord) :
    p.read word = p.addSetting o inWord := by
  have hmode : p.mode = m := by cases h <;> rfl
  rw [h.read_eq, hword]
  change p.addLong o.longName inWord = _
  unfold addLong
  rw [if_neg o.longName_ne_helpName, hmode, Setting.byLongName?_longName known]

/-- A word that holds a setting's letter. -/
theorem read_short (h : Holds m tests false values p) (known : o ∈ m.settings) {c : Char}
    (letter : o.shortName = some c) (rest : List Char) :
    p.read (String.ofList ('-' :: c :: rest)) = p.addSetting o (attached rest) := by
  have hmode : p.mode = m := by cases h <;> rfl
  obtain ⟨hhelp, hhyphen⟩ := Setting.letter_ne letter
  rw [h.read_eq, Word.ofText_short rest hhyphen]
  change p.addShort c rest = _
  rw [addShort, if_neg hhelp, hmode, Setting.byShortName?_of_shortName known letter]

/-- A word behind a setting that waits is its value, if the setting may have it. -/
theorem read_value (allowed : o.Allows value) (values : List (Setting × String)) :
    (⟨m, tests, values, some (o, none), false⟩ : Progress).read value =
      .ok ⟨m, tests, values, some (o, some value), false⟩ := by
  unfold Progress.read
  rcases hfree : o.isFree with _ | _
  · rw [Word.ofText_plain (allowed hfree).2]
    rfl
  · cases hkind : Word.ofText value <;> simp [waiting, hfree]

/-- A setting with its value in the same word: the value is accepted. -/
theorem readAll_together (h : Holds m tests false values p)
    (acceptable : Acceptable o value values) {word : String}
    (hread : p.read word = p.addSetting o (some value)) (words : List String) :
    p.readAll (word :: words) =
      (⟨m, tests, values ++ [(o, value)], none, false⟩ : Progress).readAll words := by
  have haccept : p.addSetting o (some value) =
      .ok ⟨m, tests, values ++ [(o, value)], none, false⟩ := by
    rw [addSetting, h.settle]
    exact accept_of_acceptable acceptable
  rw [readAll, hread, haccept]
  rfl

/-- A setting with its value in the next word: the value is pending. -/
theorem readAll_apart (h : Holds m tests false values p) (allowed : o.Allows value)
    {word : String} (hread : p.read word = p.addSetting o none) (words : List String) :
    p.readAll (word :: value :: words) =
      (⟨m, tests, values, some (o, some value), false⟩ : Progress).readAll words := by
  have hwait : p.addSetting o none = .ok ⟨m, tests, values, some (o, none), false⟩ := by
    rw [addSetting, h.settle]
    rfl
  rw [readAll, hread, hwait]
  change (⟨m, tests, values, some (o, none), false⟩ : Progress).readAll (value :: words) = _
  rw [readAll, read_value allowed]
  rfl

/-- **A setting with its value is one more value**, in each of its spellings. -/
theorem read_spelled {spelled : List String} (h : Holds m tests false values p)
    (known : o ∈ m.settings) (allowed : o.Allows value) (acceptable : Acceptable o value values)
    (spells : o.Spells value spelled) :
    ∃ p', Holds m tests false (values ++ [(o, value)]) p' ∧
      ∀ words, p.readAll (spelled ++ words) = p'.readAll words := by
  cases spells with
  | joined =>
    exact ⟨_, .settled _,
      h.readAll_together acceptable (h.read_long known (o.ofText_longName_value value))⟩
  | apart =>
    exact ⟨_, .pending acceptable,
      h.readAll_apart allowed (h.read_long known o.ofText_longName)⟩
  | letterApart letter =>
    exact ⟨_, .pending acceptable, h.readAll_apart allowed (h.read_short known letter [])⟩
  | letterJoined letter =>
    have hread := h.read_short known letter ('=' :: value.toList)
    rw [attached, String.ofList_toList] at hread
    exact ⟨_, .settled _, h.readAll_together acceptable hread⟩
  | letterAttached letter noEquals =>
    -- the letter stands for a path, so there is a value in its word
    have hne : value.toList ≠ [] :=
      fun hnil => (allowed (Setting.isFree_of_letter letter)).1 (String.toList_eq_nil_iff.mp hnil)
    have hread := h.read_short known letter value.toList
    rw [attached_of_ne hne noEquals, String.ofList_toList] at hread
    exact ⟨_, .settled _, h.readAll_together acceptable hread⟩

/-- Behind `--`, all words are tests. -/
theorem readAll_escaped (h : Holds m tests true values p) (words : List String) :
    p.readAll words = .ok ⟨m, tests ++ words, values, none, true⟩ := by
  induction words generalizing tests p with
  | nil => rw [readAll, h.settle, List.append_nil]
  | cons word words ih =>
    have hread : p.read word = .ok ⟨m, tests ++ [word], values, none, true⟩ := by
      have hescaped : p.escaped = true := by cases h <;> rfl
      rw [Progress.read, if_pos hescaped, h.addTest]
    rw [readAll, hread]
    change Progress.readAll words _ = _
    rw [ih (.settled values), List.append_assoc, List.singleton_append]

/-- The word `--` leaves what is pending as it is. -/
theorem read_escape (h : Holds m tests false values p) :
    ∃ p', Holds m tests true values p' ∧ p.read "--" = .ok p' := by
  refine ⟨{ p with escaped := true }, ?_, ?_⟩
  · cases h with
    | settled => exact .settled values
    | pending acceptable => exact .pending acceptable
  · rw [h.read_eq]
    rfl

/-- **All words of a command are read**, and what they name and give is behind what was read before,
as long as no setting is given twice that may be given once. -/
theorem readAll {words tests' : List String} {values' : List (Setting × String)}
    (h : Holds m tests false values p) (writes : m.Writes words tests' values')
    (once : ∀ o : Setting, o.isRepeatable = false → (valuesOf o (values ++ values')).length ≤ 1) :
    ∃ escaped, p.readAll words = .ok ⟨m, tests ++ tests', values ++ values', none, escaped⟩ := by
  induction writes generalizing tests values p with
  | nothing =>
    refine ⟨false, ?_⟩
    rw [Progress.readAll, h.settle, List.append_nil, List.append_nil]
  | escape words =>
    refine ⟨true, ?_⟩
    obtain ⟨p', hescaped, hread⟩ := h.read_escape
    rw [Progress.readAll, hread, List.append_nil]
    exact hescaped.readAll_escaped words
  | @test word words tests' values' plain later ih =>
    have hholds : Holds m (tests ++ [word]) false values _ := .settled values
    obtain ⟨escaped, hread⟩ := ih hholds once
    refine ⟨escaped, ?_⟩
    rw [Progress.readAll, h.read_test plain, List.append_cons tests word tests']
    exact hread
  | @setting o value spelled words tests' values' known allowed spells later ih =>
    have acceptable : Acceptable o value values := by
      refine ⟨fun hsingle => ?_, fun hpath => (allowed hpath).1⟩
      have := once o hsingle
      rw [valuesOf_append, valuesOf_cons_self, List.length_append, List.length_cons] at this
      exact List.length_eq_zero_iff.mp (by omega)
    obtain ⟨p', hholds, hspelled⟩ := h.read_spelled known allowed acceptable spells
    rw [List.append_cons] at once ⊢
    obtain ⟨escaped, hread⟩ := ih hholds once
    exact ⟨escaped, (hspelled words).trans hread⟩

end Holds

end Progress

/-! ### Commands -/

/-- The words of a command are understood as its tests and values. -/
theorem parseCommand_of_writes {m : Mode} {words tests : List String}
    {values : List (Setting × String)} (writes : m.Writes words tests values)
    (once : ∀ o : Setting, o.isRepeatable = false → (valuesOf o values).length ≤ 1) :
    parseCommand m words = .ok (.ofValues m tests values) := by
  obtain ⟨escaped, hread⟩ := (Progress.Holds.settled []).readAll writes once
  rw [parseCommand, Progress.start, hread]
  rfl

/-- Only the settings of a command are given values by its words. -/
theorem Mode.Writes.valuesOf_eq_nil {m : Mode} {words tests : List String}
    {values : List (Setting × String)} (writes : m.Writes words tests values) {o : Setting}
    (h : o ∉ m.settings) : valuesOf o values = [] := by
  induction writes with
  | nothing => rfl
  | escape tests => rfl
  | test plain later ih => exact ih
  | @setting o' value spelled words tests values known allowed spells later ih =>
    have hne : o' ≠ o := by
      rintro rfl
      exact h known
    rw [← ih]
    simp [valuesOf, hne]

/-- The words behind `golden` are understood as its tests and values. -/
theorem parse_golden_of_writes {words tests : List String} {values : List (Setting × String)}
    (writes : Mode.golden.Writes words tests values)
    (once : ∀ o ∈ [Setting.compiler, .outputFlag, .artifact], (valuesOf o values).length ≤ 1) :
    parse ("golden" :: words) = .ok (.ofValues .golden tests values) := by
  have hname : Mode.ofName? "golden" = some .golden := by decide
  rw [parse, hname]
  refine parseCommand_of_writes writes fun o hsingle => ?_
  by_cases hknown : o ∈ Mode.golden.settings
  · apply once
    revert hknown hsingle
    cases o <;> decide
  · rw [writes.valuesOf_eq_nil hknown]
    exact Nat.zero_le 1

/-- A setting that has a default has it where no value is given. -/
theorem valueOf_of_default {o : Setting} {fallback : String} (h : o.default? = some fallback)
    (values : List (Setting × String)) :
    valueOf o values = (valuesOf o values).head?.getD fallback := by
  rw [valueOf, h]
  cases (valuesOf o values).head? <;> rfl

/-- **A golden command line is understood, whatever the order and the spelling.** Let the words
after the command's name consist of tests that do not start with a hyphen, settings with their
values, in any spelling, and perhaps `--` with any words behind it; and let the compiler, the output
flag and the artifact be given once at most.

- The tests are these words in order, then those behind `--`; lists and arguments for the compiler
  are the values given, in order; and what is not given has its default. A value of a free setting
  is taken as it is, be it empty, `--` or like a setting.
- So two command lines with the same tests, and with the same values for each setting, are
  understood alike. -/
theorem every_spelling_is_understood {words tests : List String} {values : List (Setting × String)}
    (writes : Mode.golden.Writes words tests values)
    (once : ∀ o ∈ [Setting.compiler, .outputFlag, .artifact], (valuesOf o values).length ≤ 1) :
    parse ("golden" :: words) =
      .ok (.golden ⟨tests, (valuesOf .list values).map Path.mk⟩
        { compiler := (valuesOf .compiler values).head?.map Path.mk
          compilerArgs := valuesOf .compilerArg values
          outputFlag := (valuesOf .outputFlag values).head?.getD "-o"
          artifact := ⟨(valuesOf .artifact values).head?.getD "./main"⟩ }) ∧
    ∀ words' tests' values', Mode.golden.Writes words' tests' values' → tests' = tests →
      (∀ o, valuesOf o values' = valuesOf o values) →
        parse ("golden" :: words') = parse ("golden" :: words) := by
  refine ⟨?_, ?_⟩
  · rw [parse_golden_of_writes writes once, Command.ofValues,
      valueOf_of_default (o := .outputFlag) rfl, valueOf_of_default (o := .artifact) rfl]
  · rintro words' tests' values' writes' rfl hvalues
    have once' : ∀ o ∈ [Setting.compiler, .outputFlag, .artifact],
        (valuesOf o values').length ≤ 1 := fun o ho => hvalues o ▸ once o ho
    rw [parse_golden_of_writes writes once, parse_golden_of_writes writes' once']
    simp only [Command.ofValues, valueOf, hvalues]

/-- Values that look like settings and like `--`, an empty one, a list that begins with `=`, an
empty test, and words behind `--`. The second line gives the same in another order and other
spellings. -/
theorem odd_words_are_understood :
    parse ("golden" :: ["a.c", "--cc-arg", "--", "-l==y", "--output-flag=--cc", "", "--cc", "gcc",
        "-lx", "--cc-arg=", "--", "--cc", "-z"]) =
      .ok (.golden ⟨["a.c", "", "--cc", "-z"], [⟨"=y"⟩, ⟨"x"⟩]⟩
        ⟨some ⟨"gcc"⟩, ["--", ""], "--cc", ⟨"./main"⟩⟩) ∧
    parse ("golden" :: ["--cc-arg=--", "--cc-arg", "", "--output-flag", "--cc", "--cc=gcc",
        "--list", "=y", "-l", "x", "--", "a.c", "", "--cc", "-z"]) =
      parse ("golden" :: ["a.c", "--cc-arg", "--", "-l==y", "--output-flag=--cc", "", "--cc", "gcc",
        "-lx", "--cc-arg=", "--", "--cc", "-z"]) := by
  have free (o : Setting) (value : String) (h : o.isFree = true) : o.Allows value :=
    fun hpath => absurd (h.symm.trans hpath) (by decide)
  have path (o : Setting) (value : String) (h : value ≠ "" ∧ value.toList.head? ≠ some '-') :
      o.Allows value := fun _ => h
  have give {words tests values} (o : Setting) (value : String) (spelled : List String)
      (known : o ∈ Mode.golden.settings) (allowed : o.Allows value)
      (spells : o.Spells value spelled) (later : Mode.golden.Writes words tests values) :
      Mode.golden.Writes (spelled ++ words) tests ((o, value) :: values) :=
    .setting known allowed spells later
  have hfirst : Mode.golden.Writes
      ["a.c", "--cc-arg", "--", "-l==y", "--output-flag=--cc", "", "--cc", "gcc", "-lx",
        "--cc-arg=", "--", "--cc", "-z"] ["a.c", "", "--cc", "-z"]
      [(.compilerArg, "--"), (.list, "=y"), (.outputFlag, "--cc"), (.compiler, "gcc"), (.list, "x"),
        (.compilerArg, "")] :=
    .test (by decide) <|
    give .compilerArg "--" ["--cc-arg", "--"] (by decide) (free _ _ rfl) .apart <|
    give .list "=y" ["-l==y"] (by decide) (path _ _ (by decide)) (.letterJoined rfl) <|
    give .outputFlag "--cc" ["--output-flag=--cc"] (by decide) (free _ _ rfl) .joined <|
    .test (by decide) <|
    give .compiler "gcc" ["--cc", "gcc"] (by decide) (path _ _ (by decide)) .apart <|
    give .list "x" ["-lx"] (by decide) (path _ _ (by decide)) (.letterAttached rfl (by decide)) <|
    give .compilerArg "" ["--cc-arg="] (by decide) (free _ _ rfl) .joined <|
    .escape ["--cc", "-z"]
  have hsecond : Mode.golden.Writes
      ["--cc-arg=--", "--cc-arg", "", "--output-flag", "--cc", "--cc=gcc", "--list", "=y", "-l",
        "x", "--", "a.c", "", "--cc", "-z"] ["a.c", "", "--cc", "-z"]
      [(.compilerArg, "--"), (.compilerArg, ""), (.outputFlag, "--cc"), (.compiler, "gcc"),
        (.list, "=y"), (.list, "x")] :=
    give .compilerArg "--" ["--cc-arg=--"] (by decide) (free _ _ rfl) .joined <|
    give .compilerArg "" ["--cc-arg", ""] (by decide) (free _ _ rfl) .apart <|
    give .outputFlag "--cc" ["--output-flag", "--cc"] (by decide) (free _ _ rfl) .apart <|
    give .compiler "gcc" ["--cc=gcc"] (by decide) (path _ _ (by decide)) .joined <|
    give .list "=y" ["--list", "=y"] (by decide) (path _ _ (by decide)) .apart <|
    give .list "x" ["-l", "x"] (by decide) (path _ _ (by decide)) (.letterApart rfl) <|
    .escape ["a.c", "", "--cc", "-z"]
  obtain ⟨hunderstood, halike⟩ := every_spelling_is_understood hfirst (by decide)
  refine ⟨hunderstood, halike _ _ _ hsecond rfl fun o => ?_⟩
  cases o <;> decide

end Assay.CommandLine
