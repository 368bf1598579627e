import DepositLedger.Proofs.Places

/-! What a layer makes of the value that a tree has for a setting. A file or a variable that has a
value for the very key puts it there. All else that they have leaves the value as it is, the other
keys of its section too. -/

namespace DepositLedger

private theorem Layer.putOver_append (lower higher : Layer) (tree : SettingsTree) :
    Layer.putOver (lower ++ higher) tree = higher.putOver (lower.putOver tree) :=
  List.foldl_append

namespace SettingsTree

def isScalar : SettingsTree → Bool
  | text _ | integer _ | flag _ => true
  | empty | real _ | list _ | table _ => false

variable {tree : SettingsTree} {name : SettingName} {value? : Option SettingsTree}

def valueOf? (tree : SettingsTree) (name : SettingName) : Option SettingsTree :=
  (tree.entries.lookup name.sectionName).bind fun found => found.entries.lookup name.key

/-- A tree whose section of a setting, if there is one, is a table, and what it has there for the
setting. -/
structure Gives (tree : SettingsTree) (name : SettingName) (value? : Option SettingsTree) :
    Prop where
  isTable : ∀ found, tree.entries.lookup name.sectionName = some found →
    ∃ entries, found = table entries
  value : tree.valueOf? name = value?

/-! ## Changes of a tree -/

theorem gives_none (name : SettingName) : (table []).Gives name none :=
  ⟨fun _ => nofun, rfl⟩

private theorem entries_changeAt {change : SettingsTree → SettingsTree} {key : String}
    {rest : SettingsPath} :
    (changeAt change (.key key :: rest) tree).entries =
      changeEntry key (changeAt change rest) tree.entries :=
  rfl

/-- What has become of the section of a setting, and with it the value, once something is put in
it. -/
private theorem gives_changeAt (tree : SettingsTree) (name : SettingName)
    {change : SettingsTree → SettingsTree} {rest : SettingsPath}
    {entries : List (String × SettingsTree)}
    (changed : changeAt change rest ((tree.entries.lookup name.sectionName).getD empty) =
      table entries) :
    (changeAt change (.key name.sectionName :: rest) tree).Gives name
      (entries.lookup name.key) := by
  have found : (changeAt change (.key name.sectionName :: rest) tree).entries.lookup
      name.sectionName = some (table entries) := by
    rw [entries_changeAt, lookup_changeEntry_self, changed]
  constructor
  · intro other same
    rw [found] at same
    cases same
    exact ⟨entries, rfl⟩
  · rw [valueOf?, found]
    rfl

private theorem Gives.lookup_getD (gives : tree.Gives name value?) :
    ((tree.entries.lookup name.sectionName).getD empty).entries.lookup name.key = value? := by
  rw [← gives.value, valueOf?]
  cases tree.entries.lookup name.sectionName <;> rfl

private theorem Gives.apart (gives : tree.Gives name value?) {path : SettingsPath}
    (apart : name.Apart path) (change : SettingsTree → SettingsTree) :
    (changeAt change path tree).Gives name value? := by
  cases apart with
  | @elsewhere first rest different =>
      have unchanged : (changeAt change (.key first :: rest) tree).entries.lookup
          name.sectionName = tree.entries.lookup name.sectionName :=
        lookup_changeEntry_of_ne different.symm _ _
      exact ⟨unchanged ▸ gives.isTable, by rw [valueOf?, unchanged, ← gives.value, valueOf?]⟩
  | @beside second rest different =>
      have changed : (changeAt change (.key name.sectionName :: .key second :: rest) tree).Gives
          name _ := gives_changeAt tree name rfl
      rwa [lookup_changeEntry_of_ne different.symm, gives.lookup_getD] at changed

private theorem gives_putValue (tree : SettingsTree) (name : SettingName) (value : String) :
    (changeAt (putOver (.text value)) name.path tree).Gives name (some (.text value)) := by
  have changed : (changeAt (putOver (.text value)) name.path tree).Gives name _ :=
    gives_changeAt tree name rfl
  rwa [lookup_changeEntry_self] at changed

private theorem putOver_of_isScalar {value : SettingsTree} (scalar : value.isScalar = true)
    (before : SettingsTree) : putOver value before = value := by
  cases value <;> first | rfl | cases scalar

/-- Scalars are put over what is there key by key. -/
private theorem lookup_putEntriesOver {entries before : List (String × SettingsTree)} {key : String}
    (distinct : (entries.map Prod.fst).Nodup)
    (scalar : ∀ entry ∈ entries, entry.2.isScalar = true) :
    (putEntriesOver entries before).lookup key = (entries.lookup key).or (before.lookup key) := by
  induction entries generalizing before with
  | nil => rfl
  | cons entry entries induction =>
      obtain ⟨first, value⟩ := entry
      rw [List.map_cons, List.nodup_cons] at distinct
      rw [List.forall_mem_cons] at scalar
      rw [putEntriesOver, induction distinct.2 scalar.2]
      by_cases same : key = first
      · subst same
        have absent : entries.lookup key = none := by
          refine List.lookup_eq_none_iff.mpr fun entry member => bne_iff_ne.mpr ?_
          intro repeated
          have listed := List.mem_map_of_mem (f := Prod.fst) member
          exact distinct.1 (repeated ▸ listed)
        rw [absent, lookup_changeEntry_self, putOver_of_isScalar scalar.1]
        simp
      · have other : (key == first) = false := beq_false_of_ne same
        rw [lookup_changeEntry_of_ne same, List.lookup_cons, other]

private theorem Gives.putSection (gives : tree.Gives name value?)
    {entries : List (String × SettingsTree)} (distinct : (entries.map Prod.fst).Nodup)
    (scalar : ∀ entry ∈ entries, entry.2.isScalar = true) :
    (changeAt (putOver (.table entries)) [.key name.sectionName] tree).Gives name
      ((entries.lookup name.key).or value?) := by
  have changed : (changeAt (putOver (.table entries)) [.key name.sectionName] tree).Gives name _ :=
    gives_changeAt tree name rfl
  rwa [lookup_putEntriesOver distinct scalar, gives.lookup_getD] at changed

/-- A source is made of parts, of which at most one has a value for the setting. Each part may
put its value over the one before. -/
private theorem Gives.putParts {α : Type} {parts : List α} {assignments : α → Layer}
    {partValue? : α → Option SettingsTree}
    (step : ∀ part ∈ parts, ∀ tree value?, tree.Gives name value? →
      ((assignments part).putOver tree).Gives name ((partValue? part).or value?))
    (once : parts.Pairwise fun first second =>
      partValue? first = none ∨ partValue? second = none)
    (gives : tree.Gives name value?) :
    (Layer.putOver (parts.flatMap assignments) tree).Gives name
      ((parts.findSome? partValue?).or value?) := by
  induction parts generalizing tree value? with
  | nil => exact gives
  | cons part parts induction =>
      rw [List.forall_mem_cons] at step
      rw [List.pairwise_cons] at once
      have rest := induction step.2 once.2 (step.1 tree value? gives)
      rw [List.flatMap_cons, Layer.putOver_append]
      cases own : partValue? part with
      | none => simpa [List.findSome?_cons, own] using rest
      | some value =>
          have others : parts.findSome? partValue? = none := by
            refine List.findSome?_eq_none_iff.mpr fun other member => ?_
            simpa [own] using once.1 other member
          simpa [List.findSome?_cons, own, others] using rest

end SettingsTree

/-! ## Files -/

/-- A section of a file, whose keys hold texts, whole numbers and flags. -/
structure SettingsSection where
  name : String
  entries : List (String × SettingsTree)
  distinct : (entries.map Prod.fst).Nodup
  scalar : ∀ entry ∈ entries, entry.2.isScalar = true

namespace SettingsSection

variable {part : SettingsSection} {name : SettingName}

def value? (part : SettingsSection) (name : SettingName) : Option SettingsTree :=
  if part.name = name.sectionName then part.entries.lookup name.key else none

/-- For each setting, the section is the one that the setting is in, or the place that its name
leads to is apart from the setting. -/
def Spares (part : SettingsSection) : Prop :=
  ∀ name : SettingName,
    part.name = name.sectionName ∨ name.Apart (SettingsPath.ofName part.name)

/-- Names of letters, digits, underscores and dashes are no paths. -/
theorem spares_of_plain
    (plain : part.name.toList.all SettingsPath.isKeyChar = true) : part.Spares := by
  intro name
  rw [SettingsPath.ofName_plain (List.all_eq_true.mp plain)]
  exact (em _).imp_right .elsewhere

private theorem gives_changeAt (spares : part.Spares) {tree : SettingsTree}
    {value? : Option SettingsTree} (gives : tree.Gives name value?) :
    (tree.changeAt (SettingsTree.putOver (.table part.entries))
      (SettingsPath.ofName part.name)).Gives name ((part.value? name).or value?) := by
  by_cases same : part.name = name.sectionName
  · have place : SettingsPath.ofName part.name = [.key name.sectionName] := by
      rw [same]
      cases name <;> rfl
    rw [place, SettingsSection.value?, if_pos same]
    exact gives.putSection part.distinct part.scalar
  · rw [SettingsSection.value?, if_neg same]
    exact gives.apart ((spares name).resolve_left same) _

end SettingsSection

/-- A file made of sections. One with no sections is as good as none. -/
structure SectionedFile where
  sections : List SettingsSection
  distinct : (sections.map SettingsSection.name).Nodup

namespace SectionedFile

variable {file : SectionedFile}

/-- What is read of the file. -/
def layer (file : SectionedFile) : Layer :=
  Layer.ofEntries (file.sections.map fun part => (part.name, .table part.entries))

def value? (file : SectionedFile) (name : SettingName) : Option SettingsTree :=
  file.sections.findSome? fun part => part.value? name

def Spares (file : SectionedFile) : Prop := ∀ part ∈ file.sections, part.Spares

theorem gives_putOver (spares : file.Spares) {tree : SettingsTree} {name : SettingName}
    {value? : Option SettingsTree} (gives : tree.Gives name value?) :
    (file.layer.putOver tree).Gives name ((file.value? name).or value?) := by
  have parts : file.layer = file.sections.flatMap fun part =>
      [⟨SettingsPath.ofName part.name, .table part.entries⟩] := by
    simp only [layer, Layer.ofEntries, List.map_map, ← List.map_eq_flatMap]
    rfl
  rw [parts]
  refine gives.putParts (fun part member tree value? gives => ?_) ?_
  · exact SettingsSection.gives_changeAt (spares part member) gives
  · refine (List.pairwise_map.mp file.distinct).imp fun {first second} different => ?_
    by_cases same : first.name = name.sectionName
    · exact .inr (if_neg (same ▸ different.symm))
    · exact .inl (if_neg same)

end SectionedFile

/-! ## The environment -/

namespace Environment

/-- The value that a variable has for a setting. -/
def valueOf? (assigned : String × String) (name : SettingName) : Option SettingsTree :=
  if Text.lowerCase assigned.1 = name.environmentName then some (.text assigned.2) else none

def value? (assigned : List (String × String)) (name : SettingName) : Option SettingsTree :=
  assigned.findSome? fun assigned => valueOf? assigned name

/-- Variables that are not for the ledger or say one section and one key of it. No two of the
latter have the same name but for the case of its letters. -/
structure IsSectioned (assigned : List (String × String)) : Prop where
  named : ∀ entry ∈ assigned, path? entry.1 = none ∨ IsSettingVariable entry.1
  distinct : assigned.Pairwise fun first second =>
    IsSettingVariable first.1 → Text.lowerCase first.1 ≠ Text.lowerCase second.1

theorem gives_putOver {assigned : List (String × String)} (sectioned : IsSectioned assigned)
    {tree : SettingsTree} {name : SettingName} {known? : Option SettingsTree}
    (gives : tree.Gives name known?) :
    ((layer assigned).putOver tree).Gives name ((value? assigned name).or known?) := by
  rw [layer, List.filterMap_eq_flatMap_toList]
  refine gives.putParts (fun entry member tree known? gives => ?_) ?_
  · change (Layer.putOver ((path? entry.1).map fun path => ⟨path, .text entry.2⟩).toList
      tree).Gives name _
    by_cases same : Text.lowerCase entry.1 = name.environmentName
    · rw [valueOf?, if_pos same, path?_eq_some_path same]
      exact SettingsTree.gives_putValue tree name entry.2
    · rw [valueOf?, if_neg same]
      rcases sectioned.named entry member with nowhere | isSetting
      · rw [nowhere]
        exact gives
      · obtain ⟨path, found, apart⟩ := isSetting.apart same
        rw [found]
        exact gives.apart apart _
  · refine sectioned.distinct.imp fun {first second} different => ?_
    by_cases same : Text.lowerCase first.1 = name.environmentName
    · exact .inr (if_neg (same ▸ (different (isSettingVariable_of_eq same)).symm))
    · exact .inl (if_neg same)

end Environment

end DepositLedger
