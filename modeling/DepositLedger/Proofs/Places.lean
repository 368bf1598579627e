import DepositLedger.Settings.Layers
import Mathlib.Data.List.Chain

/-! The places of the four settings, and what the other names lead to that files and variables
may have. A variable of two words leads to a setting if it is the name of its variable, whatever
the case of its letters. All others of two words stay apart from the setting, those as well whose
underscores could be parted in more than one way. -/

namespace DepositLedger

/-- The settings of a ledger service. -/
inductive SettingName where
  | url
  | maxConnections
  | minConnections
  | routingNumber
deriving DecidableEq

namespace SettingName

def sectionName : SettingName → String
  | url | maxConnections | minConnections => "database"
  | routingNumber => "ledger"

def key : SettingName → String
  | url => "url"
  | maxConnections => "max_connections"
  | minConnections => "min_connections"
  | routingNumber => "default_routing_number"

def path (name : SettingName) : SettingsPath := [.key name.sectionName, .key name.key]

/-- The variable of the environment that is for a setting, in small letters. -/
def environmentName (name : SettingName) : String :=
  "gl__" ++ name.sectionName ++ "__" ++ name.key

/-- Paths that lead neither to a setting nor to what holds it or is in it. -/
inductive Apart (name : SettingName) : SettingsPath → Prop
  | elsewhere {first : String} {rest : SettingsPath} (different : first ≠ name.sectionName) :
      name.Apart (.key first :: rest)
  | beside {second : String} {rest : SettingsPath} (different : second ≠ name.key) :
      name.Apart (.key name.sectionName :: .key second :: rest)

end SettingName

/-! ## Names as paths -/

namespace SettingsPath

private theorem readKey?_append {word : List Char} (nonempty : word ≠ [])
    (plain : ∀ char ∈ word, isKeyChar char = true) (rest : List Char)
    (ends : rest.takeWhile isKeyChar = []) :
    readKey? (word ++ rest) = some (.key (String.ofList word), rest) := by
  have taken : (word ++ rest).takeWhile isKeyChar = word := by
    rw [List.takeWhile_append_of_pos plain, ends, List.append_nil]
  have left : (word ++ rest).dropWhile isKeyChar = rest := by
    rw [List.dropWhile_append_of_pos plain]
    have whole := List.takeWhile_append_dropWhile (p := isKeyChar) (l := rest)
    rwa [ends, List.nil_append] at whole
  simp [readKey?, taken, left, nonempty]

theorem ofName_plain {name : String} (plain : ∀ char ∈ name.toList, isKeyChar char = true) :
    ofName name = [.key name] := by
  by_cases nonempty : name.toList = []
  · rw [ofName, ofText?, nonempty]
    rfl
  · have read := readKey?_append nonempty plain [] rfl
    rw [List.append_nil] at read
    simp [ofName, ofText?, read, readSteps?]

private theorem ofName_two_keys {first second : List Char} (firstNonempty : first ≠ [])
    (firstPlain : ∀ char ∈ first, isKeyChar char = true) (secondNonempty : second ≠ [])
    (secondPlain : ∀ char ∈ second, isKeyChar char = true) :
    ofName (String.ofList (first ++ '.' :: second)) =
      [.key (String.ofList first), .key (String.ofList second)] := by
  have readFirst := readKey?_append firstNonempty firstPlain ('.' :: second) rfl
  have readSecond := readKey?_append secondNonempty secondPlain [] rfl
  rw [List.append_nil] at readSecond
  simp [ofName, ofText?, readFirst, readSteps?, readSecond]

private theorem readKey?_eq_some {chars rest : List Char} {step : PathStep}
    (read : readKey? chars = some (step, rest)) :
    step = .key (String.ofList (chars.takeWhile isKeyChar)) := by
  simp only [readKey?] at read
  split at read
  · cases read
  · cases read
    rfl

private theorem apart_of_dot {name : SettingName} {text : String} (dotted : '.' ∈ text.toList) :
    name.Apart [.key text] := by
  refine .elsewhere fun same => ?_
  rw [same] at dotted
  revert dotted
  cases name <;> decide

/-- A name with a dot in it stays apart from a setting if another key than its own follows the
dot, or none. -/
private theorem apart_ofName {name : SettingName} {before after : List Char}
    (plain : ∀ char ∈ before, isKeyChar char = true)
    (different : after.takeWhile isKeyChar ≠ name.key.toList) :
    name.Apart (ofName (String.ofList (before ++ '.' :: after))) := by
  -- What is no path is a key, and no setting is in a section whose name has a dot.
  cases read : ofText? (String.ofList (before ++ '.' :: after)) with
  | none =>
      rw [ofName, read]
      exact apart_of_dot (by simp)
  | some path =>
      rw [ofName, read]
      rw [ofText?, String.toList_ofList] at read
      obtain ⟨⟨first, rest⟩, readFirst, read⟩ := Option.bind_eq_some_iff.mp read
      obtain ⟨others, readOthers, rfl⟩ := Option.map_eq_some_iff.mp read
      have nonempty : before ≠ [] := by
        rintro rfl
        cases readFirst
      rw [readKey?_append nonempty plain _ rfl] at readFirst
      cases readFirst
      obtain ⟨⟨second, rest⟩, readSecond, readOthers⟩ := Option.bind_eq_some_iff.mp readOthers
      obtain ⟨steps, -, rfl⟩ := Option.map_eq_some_iff.mp readOthers
      rw [readKey?_eq_some readSecond]
      by_cases same : String.ofList before = name.sectionName
      · rw [same]
        refine .beside fun sameKey => different ?_
        rw [← sameKey, String.toList_ofList]
      · exact .elsewhere same

end SettingsPath

/-! ## Variables of the environment -/

namespace Environment

/-- No two underscores stand side by side. -/
def SingleUnderscores (chars : List Char) : Prop :=
  chars.IsChain fun first second => ¬ (first = '_' ∧ second = '_')

/-- Letters, digits and single underscores. -/
structure IsWord (word : List Char) : Prop where
  nonempty : word ≠ []
  plain : (word.all fun char => char.isAlphanum || char = '_') = true
  single : SingleUnderscores word

/-- Variables for the ledger whose names say one section and one key of it. -/
def IsSettingVariable (text : String) : Prop :=
  ∃ first second, IsWord first ∧ IsWord second ∧
    (Text.lowerCase text).toList =
      'g' :: 'l' :: '_' :: '_' :: (first ++ '_' :: '_' :: second)

private theorem IsWord.isKeyChar {word : List Char} (isWord : IsWord word) :
    ∀ char ∈ word, SettingsPath.isKeyChar char = true := by
  intro char member
  have plain := List.all_eq_true.mp isWord.plain char member
  rw [SettingsPath.isKeyChar, plain, Bool.true_or]

/-- What stands before a pair of underscores stays as it is, if it has none itself. -/
private theorem dotted_append {before : List Char} (rest : List Char)
    (single : SingleUnderscores (before ++ rest.take 1)) :
    dotted (before ++ rest) = before ++ dotted rest := by
  induction before with
  | nil => rfl
  | cons first before induction =>
      obtain ⟨noPair, single⟩ := List.isChain_cons.mp single
      rw [List.cons_append, dotted, induction single, List.cons_append]
      rintro after rfl same
      refine noPair '_' ?_ ⟨rfl, rfl⟩
      cases before <;> simp_all

private theorem IsWord.dotted_eq_self {word : List Char} (isWord : IsWord word) :
    dotted word = word := by
  have single : SingleUnderscores (word ++ []) := by
    rw [List.append_nil]
    exact isWord.single
  have whole := dotted_append [] single
  rwa [dotted, List.append_nil] at whole

private theorem dotted_underscore (rest : List Char) :
    ∃ char after, dotted ('_' :: rest) = char :: after ∧ (char = '_' ∨ char = '.') := by
  by_cases pair : ∃ after, rest = '_' :: after
  · obtain ⟨after, rfl⟩ := pair
    exact ⟨'.', dotted after, rfl, .inr rfl⟩
  · refine ⟨'_', dotted rest, ?_, .inl rfl⟩
    rw [dotted]
    exact fun after _ same => pair ⟨after, same⟩

/-- A pair of underscores parts two words in the middle, unless the first one ends with an
underscore. Then it takes this one and one of the pair, and the other is left to the second
word. -/
private theorem dotted_two_words {first second : List Char} (isFirst : IsWord first)
    (isSecond : IsWord second) :
    dotted (first ++ '_' :: '_' :: second) = first ++ '.' :: second ∨
      ∃ before char after,
        dotted (first ++ '_' :: '_' :: second) = before ++ '.' :: char :: after ∧
        (∀ char ∈ before, SettingsPath.isKeyChar char = true) ∧ (char = '_' ∨ char = '.') := by
  obtain rfl | ⟨before, last, rfl⟩ := List.eq_nil_or_concat' first
  · exact absurd rfl isFirst.nonempty
  by_cases ends : last = '_'
  · subst ends
    obtain ⟨char, after, same, kind⟩ := dotted_underscore second
    refine .inr ⟨before, char, after, ?_, ?_, kind⟩
    · rw [List.append_assoc, dotted_append _ isFirst.single, ← same]
      rfl
    · exact fun char member => isFirst.isKeyChar char (List.mem_append_left _ member)
  · have single : SingleUnderscores ((before ++ [last]) ++ ['_']) := by
      refine List.isChain_append.mpr ⟨isFirst.single, .singleton _, ?_⟩
      rintro found isLast - - ⟨rfl, -⟩
      exact ends (by simpa using isLast)
    left
    rw [dotted_append _ single]
    change before ++ [last] ++ '.' :: dotted second = _
    rw [isSecond.dotted_eq_self]

/-! ### What the variables are for -/

private theorem map_lowerLetter {text : String}
    (noKelvin : '\u212a' ∉ (Text.lowerCase text).toList) :
    text.toList.map lowerLetter = (Text.lowerCase text).toList := by
  rw [Text.lowerCase, String.toList_map] at noKelvin ⊢
  refine List.map_congr_left fun char member => ?_
  rw [lowerLetter, if_neg]
  rintro rfl
  exact noKelvin (List.mem_map.mpr ⟨_, member, rfl⟩)

/-- The variable of a setting is for it, whatever the case of its letters. -/
theorem path?_eq_some_path {text : String} {name : SettingName}
    (same : Text.lowerCase text = name.environmentName) : path? text = some name.path := by
  have noKelvin : '\u212a' ∉ (Text.lowerCase text).toList := by
    rw [same]
    cases name <;> decide
  rw [path?, map_lowerLetter noKelvin, same]
  cases name <;> rfl

private theorem path?_two_words {text : String} {first second : List Char} (isFirst : IsWord first)
    (isSecond : IsWord second) (lowered : (Text.lowerCase text).toList =
      'g' :: 'l' :: '_' :: '_' :: (first ++ '_' :: '_' :: second)) :
    path? text =
      some (SettingsPath.ofName (String.ofList (dotted (first ++ '_' :: '_' :: second)))) := by
  have noKelvin : '\u212a' ∉ (Text.lowerCase text).toList := by
    have unplain : SettingsPath.isKeyChar '\u212a' = false := by decide
    rw [lowered]
    simp only [List.mem_cons, List.mem_append, not_or]
    refine ⟨by decide, by decide, by decide, by decide, fun member => ?_, by decide, by decide,
      fun member => ?_⟩
    · simp [isFirst.isKeyChar _ member] at unplain
    · simp [isSecond.isKeyChar _ member] at unplain
  rw [path?, map_lowerLetter noKelvin, lowered]
  rfl

theorem isSettingVariable_of_eq {text : String} {name : SettingName}
    (same : Text.lowerCase text = name.environmentName) : IsSettingVariable text := by
  have isSection : IsWord name.sectionName.toList := by
    cases name <;> exact ⟨by decide, by decide, by unfold SingleUnderscores; decide⟩
  have isKey : IsWord name.key.toList := by
    cases name <;> exact ⟨by decide, by decide, by unfold SingleUnderscores; decide⟩
  refine ⟨_, _, isSection, isKey, ?_⟩
  rw [same]
  cases name <;> rfl

/-- Every other variable of two words stays apart from the setting. -/
theorem IsSettingVariable.apart {text : String} (isSetting : IsSettingVariable text)
    {name : SettingName} (different : Text.lowerCase text ≠ name.environmentName) :
    ∃ path, path? text = some path ∧ name.Apart path := by
  obtain ⟨first, second, isFirst, isSecond, lowered⟩ := isSetting
  refine ⟨_, path?_two_words isFirst isSecond lowered, ?_⟩
  rcases dotted_two_words isFirst isSecond with same | ⟨before, char, after, same, plain, kind⟩
  · rw [same, SettingsPath.ofName_two_keys isFirst.nonempty isFirst.isKeyChar isSecond.nonempty
      isSecond.isKeyChar]
    by_cases sameSection : String.ofList first = name.sectionName
    · rw [sameSection]
      refine .beside fun sameKey => different ?_
      rw [← String.toList_inj, lowered, SettingName.environmentName, ← sameSection, ← sameKey]
      simp
    · exact .elsewhere sameSection
  · rw [same]
    -- No key of a setting starts with an underscore, and none is empty.
    refine SettingsPath.apart_ofName plain fun sameKey => ?_
    have sameStart := congrArg List.head? sameKey
    rw [List.head?_takeWhile, List.head?_cons] at sameStart
    revert sameStart
    rcases kind with rfl | rfl <;> cases name <;> decide

end Environment

end DepositLedger
