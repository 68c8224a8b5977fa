import TagTemplate.Proofs.Settings.Entries
import TagTemplate.Proofs.Text.Lines

/-!
# Written settings

Settings are written as one line for each key, in any order, with the value in double quotes. What
stands between the quotes is the value whatever its characters are, as long as it is on one line; so
the text is loaded as these settings.
-/

namespace TagTemplate.Settings

variable {s : Settings} {key : SettingsKey} {value : String} {e : Entry} {keys : List SettingsKey}

/-- The line that sets a key to a value in double quotes. -/
def quotedLine (key : SettingsKey) (value : String) : String := key.name ++ " = \"" ++ value ++ "\""

/-- The row of a key with its value. -/
def quotedRow (key : SettingsKey) (value : String) (lineEnd : Text.LineEnd) : Text.Row :=
  ⟨(quotedLine key value).toList, lineEnd⟩

/-- Every value of the settings can stand on a line. -/
structure Writable (s : Settings) : Prop where
  /-- The text of undefined values is on one line. -/
  undefinedText : '\n' ∉ s.undefinedText.toList
  /-- The opening delimiter does not end a line. -/
  opening : s.opening ≠ '\n'
  /-- The closing delimiter does not end a line. -/
  closing : s.closing ≠ '\n'

theorem toList_quotedLine (key : SettingsKey) (value : String) :
    (quotedLine key value).toList =
      (key.name.toList ++ [' ']) ++ '=' :: ' ' :: '"' :: (value.toList ++ ['"']) := by
  simp [quotedLine]

/-- The name of a key begins with a character that is neither blank nor a mark of comment. -/
theorem exists_name_eq_cons (key : SettingsKey) :
    ∃ c cs, key.name.toList = c :: cs ∧ Text.isBlank c = false ∧ c ≠ '#' ∧ c ≠ ';' := by
  cases key <;> exact ⟨_, _, rfl, by decide, by decide, by decide⟩

/-- What stands between double quotes is what they quote. -/
theorem unquote_quoted (cs : List Char) : unquote ('"' :: (cs ++ ['"'])) = cs := by
  simp [unquote]

/-- A value in double quotes is not trimmed, whatever it begins or ends with. -/
theorem trimmed_quoted (cs : List Char) :
    Text.trimmed (' ' :: '"' :: (cs ++ ['"'])) = '"' :: (cs ++ ['"']) := by
  rw [Text.trimmed_cons_of_blank (by decide), Text.trimmed_of_ends (by decide) (by decide)]

/-- A line with a key and a value in double quotes says the entry that the value makes. -/
theorem ofLine_quotedLine (h : Entry.read key value = .ok e) :
    Entry.ofLine (quotedLine key value).toList = .ok (some e) := by
  obtain ⟨c, cs, hname, hblank, hhash, hsemi⟩ := exists_name_eq_cons key
  have hbody : Text.trimmed (quotedLine key value).toList = (quotedLine key value).toList := by
    have hends : (quotedLine key value).toList =
        c :: ((cs ++ [' ', '=', ' ', '"'] ++ value.toList) ++ ['"']) := by
      simp [toList_quotedLine, hname]
    rw [hends]
    exact Text.trimmed_of_ends hblank (by decide) _
  have hsays : saysNothing (quotedLine key value).toList = false := by
    rw [toList_quotedLine, hname]
    simp [saysNothing, hhash, hsemi]
  have hcut : Text.cutAt '=' (quotedLine key value).toList =
      some (key.name.toList ++ [' '], ' ' :: '"' :: (value.toList ++ ['"'])) := by
    refine Text.cutAt_eq_some_iff.mpr ⟨toList_quotedLine key value, ?_⟩
    cases key <;> decide
  have hkey : String.ofList (Text.trimmed (key.name.toList ++ [' '])) = key.name := by
    cases key <;> decide
  have hname : SettingsKey.ofName? key.name = some key := SettingsKey.ofName?_eq_some_iff.mpr rfl
  unfold Entry.ofLine
  dsimp only
  rw [hbody, hsays, hcut]
  dsimp only
  rw [hkey, hname, trimmed_quoted, unquote_quoted, String.ofList_toList]
  dsimp only
  rw [h]
  rfl

/-- A word for a truth value has no line feed. -/
theorem Entry.IsBoolWord.feed_not_mem {on : Bool} (h : IsBoolWord on value) :
    '\n' ∉ value.toList := by
  intro hm
  have hlower : '\n' ∈ (String.ofList (value.toList.map Char.toLower)).toList := by
    rw [String.toList_ofList]
    exact List.mem_map.mpr ⟨'\n', hm, rfl⟩
  have hfree : ∀ word ∈ boolWords on, '\n' ∉ word.toList := by
    cases on <;> decide
  exact hfree _ h hlower

/-- The values that write settings are on one line. -/
theorem Writable.feed_not_mem (hs : s.Writable) (hv : (s.entry key).IsWritten value) :
    '\n' ∉ value.toList := by
  cases key with
  | undefined =>
    obtain rfl : value = s.undefinedText := hv
    exact hs.undefinedText
  | identifiers =>
    rw [entry] at hv
    cases h : s.nameCase <;> rw [h] at hv <;> obtain rfl := hv <;> decide
  | strings =>
    rw [entry] at hv
    cases h : s.collation <;> rw [h] at hv <;> obtain rfl := hv <;> decide
  | collapseWhitespace | ignoreErrors | strictIdentifiers | strictMembers =>
    exact Entry.IsBoolWord.feed_not_mem hv
  | tagStart =>
    have hc : value.toList = [s.opening] := hv
    rw [hc, List.mem_singleton]
    exact hs.opening.symm
  | tagEnd =>
    have hc : value.toList = [s.closing] := hv
    rw [hc, List.mem_singleton]
    exact hs.closing.symm

/-- Settings are what all their entries, in any order, make of the default ones. -/
theorem foldl_entries (hk : ∀ key, key ∈ keys) (s : Settings) :
    (keys.map s.entry).foldl enter default = s := by
  refine eq_of_entry fun key => ?_
  have hsame : ∀ e ∈ (keys.map s.entry).filter (fun e => e.key = key), e = s.entry key := by
    intro e he
    obtain ⟨hm, hkey⟩ := List.mem_filter.mp he
    obtain ⟨k, -, rfl⟩ := List.mem_map.mp hm
    rw [key_entry] at hkey
    rw [of_decide_eq_true hkey]
  have hmem : s.entry key ∈ (keys.map s.entry).filter (fun e => e.key = key) :=
    List.mem_filter.mpr ⟨List.mem_map_of_mem (hk key), decide_eq_true (key_entry s key)⟩
  rw [entry_foldl_enter]
  cases hlast : ((keys.map s.entry).filter fun e => e.key = key).getLast? with
  | none =>
    rw [List.getLast?_eq_none_iff.mp hlast] at hmem
    cases hmem
  | some e => exact hsame e (List.mem_of_getLast? hlast)

theorem mem_of_perm_all (hk : keys.Perm SettingsKey.all) (key : SettingsKey) : key ∈ keys := by
  refine hk.mem_iff.mpr ?_
  cases key <;> decide

/-- The lines of a text of rows with keys are these rows. -/
theorem lines_quotedRows (hs : s.Writable) {value : SettingsKey → String}
    (hv : ∀ key, (s.entry key).IsWritten (value key)) {lineEnd : SettingsKey → Text.LineEnd}
    (he : ∀ key ∈ keys.dropLast, lineEnd key ≠ .textEnd) :
    Text.lines (Text.joined (keys.map fun key => quotedRow key (value key) (lineEnd key))) =
      keys.map fun key => (quotedLine key (value key)).toList := by
  have hrows : Text.AreRows (keys.map fun key => quotedRow key (value key) (lineEnd key)) := by
    refine Text.areRows_of_forall ?_ ?_
    · intro row hrow
      obtain ⟨key, -, rfl⟩ := List.mem_map.mp hrow
      have hname : '\n' ∉ key.name.toList := by cases key <;> decide
      have hvalue := hs.feed_not_mem (hv key)
      rw [quotedRow, toList_quotedLine]
      simp [hname, hvalue, List.getLast?_cons]
    · intro row hrow
      rw [← List.map_dropLast] at hrow
      obtain ⟨key, hkey, rfl⟩ := List.mem_map.mp hrow
      exact he key hkey
  rw [Text.lines_joined hrows, List.filter_eq_self.mpr, List.map_map]
  · rfl
  · intro row hrow
    obtain ⟨key, -, rfl⟩ := List.mem_map.mp hrow
    simp [quotedRow, Text.Row.chars, toList_quotedLine]

/-- **Written settings are read back.** A text that lists the keys in any order, each on a line of its
own with a value in double quotes that writes what the settings have under it, is loaded as these
settings, without errors. The values stand as they are; only the last line may end with the text. -/
theorem load_written (hs : s.Writable) (hk : keys.Perm SettingsKey.all)
    {value : SettingsKey → String} (hv : ∀ key, (s.entry key).IsWritten (value key))
    {lineEnd : SettingsKey → Text.LineEnd} (he : ∀ key ∈ keys.dropLast, lineEnd key ≠ .textEnd) :
    load (String.ofList (Text.joined (keys.map fun key =>
      quotedRow key (value key) (lineEnd key)))) = (s, []) := by
  have hsaid (key : SettingsKey) :
      Entry.ofLine (quotedLine key (value key)).toList = .ok (some (s.entry key)) :=
    ofLine_quotedLine (Entry.read_eq_ok_iff.mpr ⟨key_entry s key, hv key⟩)
  have hentry : Entry.onLine? ∘ (fun key => (quotedLine key (value key)).toList) =
      fun key => some (s.entry key) := by
    funext key
    rw [Function.comp_apply, Entry.onLine?, hsaid]
    rfl
  rw [load_eq, Entry.inText, String.toList_ofList, lines_quotedRows hs hv he]
  refine Prod.ext ?_ ?_
  · rw [List.filterMap_map, hentry, List.filterMap_eq_map']
    exact foldl_entries (mem_of_perm_all hk) s
  · refine List.filterMap_eq_nil_iff.mpr ?_
    rintro ⟨line, n⟩ hm
    obtain ⟨key, -, hline⟩ := List.mem_map.mp (List.fst_mem_of_mem_zipIdx hm)
    dsimp only at hline ⊢
    rw [← hline, Entry.faultOn?, hsaid]
    rfl

/-- Values, written as they are, of settings whose delimiters are a double quote and a carriage return
and whose text of undefined values looks like a line. -/
def oddValue : SettingsKey → String
  | .identifiers => "sensitive"
  | .strings => "ignore-case"
  | .undefined => " # = \"; "
  | .collapseWhitespace => "Yes"
  | .ignoreErrors => "ON"
  | .strictIdentifiers => "0"
  | .strictMembers => "tRuE"
  | .tagStart => "\""
  | .tagEnd => "\r"

/-- Line ends of all kinds; the first of the keys is on the last line. -/
def oddLineEnd : SettingsKey → Text.LineEnd
  | .tagStart | .ignoreErrors => .returnFeed
  | .identifiers => .textEnd
  | _ => .feed

/-- The settings with these values, written from the last key to the first. -/
theorem load_written_quotes :
    let s : Settings := ⟨.sensitive, .ignoreCase, " # = \"; ", true, '"', '\r', ⟨true, false, true⟩⟩
    let text := "tag_end = \"\r\"\ntag_start = \"\"\"\r\nstrict_members = \"tRuE\"\n" ++
      "strict_identifiers = \"0\"\nignore_errors = \"ON\"\r\ncollapse_whitespace = \"Yes\"\n" ++
      "undefined = \" # = \"; \"\nstrings = \"ignore-case\"\nidentifiers = \"sensitive\""
    s.Writable ∧ load text = (s, []) := by
  intro s text
  have hs : s.Writable := ⟨by decide, by decide, by decide⟩
  have hv : ∀ key, (s.entry key).IsWritten (oddValue key) := by
    intro key
    cases key <;> decide
  have he : ∀ key ∈ SettingsKey.all.reverse.dropLast, oddLineEnd key ≠ .textEnd := by decide
  have htext : text = String.ofList (Text.joined (SettingsKey.all.reverse.map fun key =>
      quotedRow key (oddValue key) (oddLineEnd key))) := by
    decide +kernel
  rw [htext]
  exact ⟨hs, load_written hs (List.reverse_perm SettingsKey.all) hv he⟩

end TagTemplate.Settings
