import TagTemplate.Proofs.Result
import TagTemplate.Proofs.Text.Words
import TagTemplate.Settings

/-!
# Entries of settings files

What a line of a settings file says does not depend on the settings that it is applied to: it is
nothing, or an entry, or a fault. An entry is a key with a value of its kind. Settings are determined
by the entries that they have under the keys, and entering one changes this entry and no other. So a
file is read entry by entry, and under each key the last one stays.
-/

namespace TagTemplate

/-- The key that is written like this is the one of this name. -/
theorem SettingsKey.ofName?_eq_some_iff {name : String} {key : SettingsKey} :
    ofName? name = some key ↔ key.name = name := by
  constructor
  · intro h
    simpa using List.find?_some h
  · rintro rfl
    cases key <;> decide

namespace Settings

/-- A key with a value of its kind. -/
inductive Entry where
  /-- How names are compared. -/
  | identifiers (nameCase : NameCase)
  /-- How texts are compared. -/
  | strings (collation : Collation)
  /-- The text of undefined values. -/
  | undefined (text : String)
  /-- Whether runs of blanks are collapsed. -/
  | collapseWhitespace (on : Bool)
  /-- Whether directives that fail are passed over. -/
  | ignoreErrors (on : Bool)
  /-- Whether names must resolve. -/
  | strictIdentifiers (on : Bool)
  /-- Whether members must exist. -/
  | strictMembers (on : Bool)
  /-- The delimiter that opens tags. -/
  | tagStart (c : Char)
  /-- The delimiter that closes tags. -/
  | tagEnd (c : Char)
  deriving DecidableEq, Repr

namespace Entry

/-- The key of an entry. -/
def key : Entry → SettingsKey
  | identifiers _ => .identifiers
  | strings _ => .strings
  | undefined _ => .undefined
  | collapseWhitespace _ => .collapseWhitespace
  | ignoreErrors _ => .ignoreErrors
  | strictIdentifiers _ => .strictIdentifiers
  | strictMembers _ => .strictMembers
  | tagStart _ => .tagStart
  | tagEnd _ => .tagEnd

/-- The entry that a value makes under a key. -/
def read (key : SettingsKey) (value : String) : Except SettingsFault Entry :=
  match key with
  | .identifiers => (readNameCase value).map identifiers
  | .strings => (readCollation value).map strings
  | .undefined => .ok (undefined value)
  | .collapseWhitespace => (readBool key value).map collapseWhitespace
  | .ignoreErrors => (readBool key value).map ignoreErrors
  | .strictIdentifiers => (readBool key value).map strictIdentifiers
  | .strictMembers => (readBool key value).map strictMembers
  | .tagStart => (readChar key value).map tagStart
  | .tagEnd => (readChar key value).map tagEnd

/-- What a line says: nothing, an entry, or a fault. -/
def ofLine (line : List Char) : Except SettingsFault (Option Entry) :=
  let body := Text.trimmed line
  if saysNothing body then .ok none
  else
    match Text.cutAt '=' body with
    | none => .error (.notSetting (String.ofList body))
    | some (before, after) =>
      let name := String.ofList (Text.trimmed before)
      match SettingsKey.ofName? name with
      | none => .error (.unknownKey name)
      | some key => (read key (String.ofList (unquote (Text.trimmed after)))).map some

/-- The entry on a line, if it has one. -/
def onLine? (line : List Char) : Option Entry := (ofLine line).toOption.join

/-- The fault of a line, if it has one. -/
def faultOn? (line : List Char) : Option SettingsFault :=
  match ofLine line with
  | .ok _ => none
  | .error fault => some fault

/-- The entries in a text, in order. -/
def inText (text : String) : List Entry := (Text.lines text.toList).filterMap onLine?

/-- The words for a truth value, in lower case. -/
def boolWords : Bool → List String
  | true => ["true", "yes", "on", "1"]
  | false => ["false", "no", "off", "0"]

/-- A word for a truth value, in letters of any case. -/
def IsBoolWord (on : Bool) (value : String) : Prop :=
  String.ofList (value.toList.map Char.toLower) ∈ boolWords on

instance (on : Bool) (value : String) : Decidable (IsBoolWord on value) :=
  inferInstanceAs (Decidable (_ ∈ _))

/-- The values that write an entry. -/
def IsWritten : Entry → String → Prop
  | identifiers .sensitive, value => value = "sensitive"
  | identifiers .insensitive, value => value = "insensitive"
  | strings .ordinal, value => value = "ordinal"
  | strings .ignoreCase, value => value = "ignore-case"
  | undefined text, value => value = text
  | collapseWhitespace on, value | ignoreErrors on, value | strictIdentifiers on, value
  | strictMembers on, value => IsBoolWord on value
  | tagStart c, value | tagEnd c, value => value.toList = [c]

instance (e : Entry) (value : String) : Decidable (e.IsWritten value) :=
  match e with
  | identifiers .sensitive | identifiers .insensitive | strings .ordinal | strings .ignoreCase
  | undefined _ => inferInstanceAs (Decidable (value = _))
  | collapseWhitespace on | ignoreErrors on | strictIdentifiers on | strictMembers on =>
    inferInstanceAs (Decidable (IsBoolWord on value))
  | tagStart c | tagEnd c => inferInstanceAs (Decidable (value.toList = [c]))

end Entry

/-- The settings with an entry. -/
def enter (s : Settings) : Entry → Settings
  | .identifiers nameCase => { s with nameCase }
  | .strings collation => { s with collation }
  | .undefined text => { s with undefinedText := text }
  | .collapseWhitespace on => { s with collapsesBlanks := on }
  | .ignoreErrors on => { s with options.ignoresErrors := on }
  | .strictIdentifiers on => { s with options.strictNames := on }
  | .strictMembers on => { s with options.strictMembers := on }
  | .tagStart c => { s with opening := c }
  | .tagEnd c => { s with closing := c }

/-- The entry that settings have under a key. -/
def entry (s : Settings) : SettingsKey → Entry
  | .identifiers => .identifiers s.nameCase
  | .strings => .strings s.collation
  | .undefined => .undefined s.undefinedText
  | .collapseWhitespace => .collapseWhitespace s.collapsesBlanks
  | .ignoreErrors => .ignoreErrors s.options.ignoresErrors
  | .strictIdentifiers => .strictIdentifiers s.options.strictNames
  | .strictMembers => .strictMembers s.options.strictMembers
  | .tagStart => .tagStart s.opening
  | .tagEnd => .tagEnd s.closing

variable {s t : Settings} {key : SettingsKey} {value : String} {e : Entry} {line : List Char}
  {fault : SettingsFault}

theorem key_entry (s : Settings) (key : SettingsKey) : (s.entry key).key = key := by
  cases key <;> rfl

/-- An entry changes what is under its key, and nothing else. -/
theorem entry_enter (s : Settings) (e : Entry) (key : SettingsKey) :
    (s.enter e).entry key = if e.key = key then e else s.entry key := by
  cases e <;> cases key <;> rfl

/-- Settings are determined by their entries. -/
theorem eq_of_entry (h : ∀ key, s.entry key = t.entry key) : s = t := by
  have hi := h .identifiers
  have hs := h .strings
  have hu := h .undefined
  have hw := h .collapseWhitespace
  have he := h .ignoreErrors
  have hn := h .strictIdentifiers
  have hm := h .strictMembers
  have ho := h .tagStart
  have hc := h .tagEnd
  obtain ⟨_, _, _, _, _, _, ⟨_, _, _⟩⟩ := s
  obtain ⟨_, _, _, _, _, _, ⟨_, _, _⟩⟩ := t
  simp_all [entry]

/-- After entries the last one under a key is what settings have there. -/
theorem entry_foldl_enter (entries : List Entry) (s : Settings) (key : SettingsKey) :
    (entries.foldl enter s).entry key =
      (entries.filter fun e => e.key = key).getLast?.getD (s.entry key) := by
  induction entries generalizing s with
  | nil => rfl
  | cons e entries ih =>
    rw [List.foldl_cons, ih, entry_enter]
    by_cases he : e.key = key <;> simp [he, List.getLast?_cons]

/-- A value is set by reading its entry and entering it. -/
theorem set_eq_map_enter (s : Settings) (key : SettingsKey) (value : String) :
    s.set key value = (Entry.read key value).map s.enter := by
  cases key with
  | undefined => rfl
  | identifiers | strings | collapseWhitespace | ignoreErrors | strictIdentifiers | strictMembers
  | tagStart | tagEnd =>
    rw [Entry.read, map_map]
    rfl

namespace Entry

theorem faultOn?_eq_some_iff : faultOn? line = some fault ↔ ofLine line = .error fault := by
  unfold faultOn?
  cases ofLine line <;> simp

/-- A line with a fault has no entry. -/
theorem onLine?_of_fault (h : ofLine line = .error fault) : onLine? line = none := by
  rw [onLine?, h]
  rfl

end Entry

/-- A line is applied by entering what it says, whatever the settings are. -/
theorem applyLine_eq_map_enter (s : Settings) (line : List Char) :
    s.applyLine line = (Entry.ofLine line).map fun said => said.elim s s.enter := by
  unfold applyLine Entry.ofLine
  dsimp only
  split
  · rfl
  · cases Text.cutAt '=' (Text.trimmed line) with
    | none => rfl
    | some cut =>
      dsimp only
      cases SettingsKey.ofName? (String.ofList (Text.trimmed cut.1)) with
      | none => rfl
      | some key =>
        dsimp only
        rw [set_eq_map_enter, map_map]
        rfl

/-- Lines are applied by entering their entries, and each line with a fault is an error. -/
theorem applyLines_eq (s : Settings) (n : Nat) (lines : List (List Char)) :
    s.applyLines n lines =
      ((lines.filterMap Entry.onLine?).foldl enter s,
        (lines.zipIdx n).filterMap fun (line, n) => (Entry.faultOn? line).map (⟨n, ·⟩)) := by
  induction lines generalizing s n with
  | nil => rfl
  | cons line lines ih =>
    rw [applyLines, applyLine_eq_map_enter, List.zipIdx_cons, List.filterMap_cons,
      List.filterMap_cons, Entry.onLine?]
    cases h : Entry.ofLine line with
    | error fault => simp [Except.map, ih, Except.toOption, Entry.faultOn?, h]
    | ok said => cases said <;> simp [Except.map, ih, Except.toOption, Entry.faultOn?, h]

/-- A text is loaded by entering its entries into the default settings. -/
theorem load_eq (text : String) :
    load text =
      ((Entry.inText text).foldl enter default,
        ((Text.lines text.toList).zipIdx 1).filterMap fun (line, n) =>
          (Entry.faultOn? line).map (⟨n, ·⟩)) :=
  applyLines_eq default 1 _

namespace Entry

theorem readNameCase_eq_ok_iff {nameCase : NameCase} :
    readNameCase value = .ok nameCase ↔ (identifiers nameCase).IsWritten value := by
  unfold readNameCase
  split
  · next h => cases nameCase <;> simp [IsWritten, h]
  · next hs =>
    split
    · next h => cases nameCase <;> simp [IsWritten, h]
    · next hi => cases nameCase <;> simp [IsWritten, hs, hi]

theorem readCollation_eq_ok_iff {collation : Collation} :
    readCollation value = .ok collation ↔ (strings collation).IsWritten value := by
  unfold readCollation
  split
  · next h => cases collation <;> simp [IsWritten, h]
  · next ho =>
    split
    · next h => cases collation <;> simp [IsWritten, h]
    · next hi => cases collation <;> simp [IsWritten, ho, hi]

theorem readBool_eq_ok_iff {on : Bool} : readBool key value = .ok on ↔ IsBoolWord on value := by
  unfold readBool IsBoolWord
  dsimp only
  generalize String.ofList (value.toList.map Char.toLower) = word
  split
  · next h =>
    rcases h with rfl | rfl | rfl | rfl <;> cases on <;> simp [boolWords]
  · next ht =>
    split
    · next h =>
      rcases h with rfl | rfl | rfl | rfl <;> cases on <;> simp [boolWords]
    · next hf =>
      refine iff_of_false nofun fun h => ?_
      cases on with
      | true => exact ht (by simpa [boolWords] using h)
      | false => exact hf (by simpa [boolWords] using h)

theorem readChar_eq_ok_iff {c : Char} : readChar key value = .ok c ↔ value.toList = [c] := by
  unfold readChar
  split
  · next d h => rw [h, Except.ok.injEq, List.singleton_inj]
  · next h => exact iff_of_false nofun (h c)

/-- An entry is read from the values that write it. -/
theorem read_eq_ok_iff : read key value = .ok e ↔ e.key = key ∧ e.IsWritten value := by
  cases key with
  | undefined => cases e <;> simp [read, Entry.key, IsWritten, eq_comm]
  | identifiers =>
    rw [read, map_eq_ok_iff]
    cases e <;> simp [readNameCase_eq_ok_iff, Entry.key]
  | strings =>
    rw [read, map_eq_ok_iff]
    cases e <;> simp [readCollation_eq_ok_iff, Entry.key]
  | collapseWhitespace | ignoreErrors | strictIdentifiers | strictMembers =>
    rw [read, map_eq_ok_iff]
    cases e <;> simp [readBool_eq_ok_iff, Entry.key, IsWritten]
  | tagStart | tagEnd =>
    rw [read, map_eq_ok_iff]
    cases e <;> simp [readChar_eq_ok_iff, Entry.key, IsWritten]

end Entry

end Settings

end TagTemplate
