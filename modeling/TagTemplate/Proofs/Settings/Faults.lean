import TagTemplate.Proofs.Settings.Entries
import TagTemplate.Proofs.Text.Lines

/-!
# Faulty lines of settings files

Loading a text skips the lines with a fault and reports them by their numbers. They have no effect:
with these lines empty, the text is loaded as the same settings and without errors. The settings are
the entries of the other lines, entered into the default settings from the first to the last.
-/

namespace TagTemplate.Settings

variable {text other : String} {n : Nat} {line : List Char} {fault : SettingsFault}

/-- The numbers of the lines that are reported. -/
def faultyLines (text : String) : List Nat := (load text).2.map SettingsError.line

/-- The text, with the lines that are reported empty. -/
def withoutFaults (text : String) : String :=
  String.ofList (Text.emptied (faultyLines text) text.toList)

/-- A line is reported exactly if it has a fault. -/
theorem mem_errors_iff :
    ⟨n, fault⟩ ∈ (load text).2 ↔
      1 ≤ n ∧ ∃ line, (Text.lines text.toList)[n - 1]? = some line ∧
        Entry.ofLine line = .error fault := by
  rw [load_eq, List.mem_filterMap]
  constructor
  · rintro ⟨⟨line, m⟩, hm, hfault⟩
    obtain ⟨f, hf, he⟩ := Option.map_eq_some_iff.mp hfault
    cases he
    obtain ⟨hle, hline⟩ := List.mk_mem_zipIdx_iff_le_and_getElem?_sub.mp hm
    exact ⟨hle, line, hline, Entry.faultOn?_eq_some_iff.mp hf⟩
  · rintro ⟨hle, line, hline, h⟩
    refine ⟨(line, n), List.mk_mem_zipIdx_iff_le_and_getElem?_sub.mpr ⟨hle, hline⟩, ?_⟩
    exact Option.map_eq_some_iff.mpr ⟨fault, Entry.faultOn?_eq_some_iff.mpr h, rfl⟩

/-- The number of a line is reported exactly if the line has a fault. -/
theorem mem_faultyLines_iff :
    n ∈ faultyLines text ↔
      1 ≤ n ∧ ∃ line, (Text.lines text.toList)[n - 1]? = some line ∧
        ∃ fault, Entry.ofLine line = .error fault := by
  rw [faultyLines, List.mem_map]
  constructor
  · rintro ⟨⟨_, fault⟩, he, rfl⟩
    obtain ⟨hle, line, hline, h⟩ := mem_errors_iff.mp he
    exact ⟨hle, line, hline, fault, h⟩
  · rintro ⟨hle, line, hline, fault, h⟩
    exact ⟨⟨n, fault⟩, mem_errors_iff.mpr ⟨hle, line, hline, h⟩, rfl⟩

/-- Errors come in the order of the lines. -/
theorem pairwise_faultyLines (text : String) : (faultyLines text).Pairwise (· < ·) := by
  have hnumbers : ((Text.lines text.toList).zipIdx 1).Pairwise fun a b => a.2 < b.2 := by
    refine List.pairwise_map.mp ?_
    rw [List.zipIdx_map_snd]
    exact List.pairwise_lt_range'
  rw [faultyLines, load_eq, List.pairwise_map]
  refine hnumbers.filterMap _ fun a b hab e he f hf => ?_
  obtain ⟨_, -, rfl⟩ := Option.map_eq_some_iff.mp he
  obtain ⟨_, -, rfl⟩ := Option.map_eq_some_iff.mp hf
  exact hab

/-- A text without faults that has the entries of another one is loaded as the same settings. -/
theorem load_of_entries (hf : ∀ line ∈ Text.lines other.toList, Entry.faultOn? line = none)
    (he : Entry.inText other = Entry.inText text) : load other = ((load text).1, []) := by
  rw [load_eq, load_eq, he]
  refine Prod.ext rfl (List.filterMap_eq_nil_iff.mpr fun (line, n) hm => ?_)
  rw [Option.map_eq_none_iff]
  exact hf line (List.fst_mem_of_mem_zipIdx hm)

/-- The line, or an empty one if it has a fault. -/
def Entry.cleared (line : List Char) : List Char := if (faultOn? line).isSome then [] else line

/-- A line keeps its entry when its faults are cleared. -/
theorem Entry.onLine?_cleared (line : List Char) : onLine? (cleared line) = onLine? line := by
  unfold cleared
  split
  · next h =>
    obtain ⟨fault, hf⟩ := Option.isSome_iff_exists.mp h
    rw [onLine?_of_fault (faultOn?_eq_some_iff.mp hf)]
    rfl
  · rfl

theorem Entry.faultOn?_cleared (line : List Char) : faultOn? (cleared line) = none := by
  unfold cleared
  split
  · rfl
  · next h => exact Option.not_isSome_iff_eq_none.mp h

/-- Lines that are empty if they are faulty are cleared of their faults. -/
theorem map_cleared (text : String) :
    (((Text.lines text.toList).zipIdx 1).map fun (line, n) =>
        if n ∈ faultyLines text then [] else line) =
      (Text.lines text.toList).map Entry.cleared := by
  have hlines := (List.zipIdx_map_fst 1 (Text.lines text.toList)).symm
  conv => rhs; rw [hlines, List.map_map]
  refine List.map_congr_left ?_
  rintro ⟨line, n⟩ hm
  obtain ⟨hle, hline⟩ := List.mk_mem_zipIdx_iff_le_and_getElem?_sub.mp hm
  have hfaulty : n ∈ faultyLines text ↔ (Entry.faultOn? line).isSome = true := by
    rw [mem_faultyLines_iff, Option.isSome_iff_exists]
    simp only [hle, hline, true_and, Option.some.injEq, exists_eq_left', Entry.faultOn?_eq_some_iff]
  simp only [Function.comp_apply, Entry.cleared, hfaulty]

/-- The text without faults has the same lines, cleared of their faults; if the last of them is empty
then, it may be none. -/
theorem lines_withoutFaults (text : String) :
    let cleared := (Text.lines text.toList).map Entry.cleared
    Text.lines (withoutFaults text).toList = cleared ∨
      Text.lines (withoutFaults text).toList ++ [[]] = cleared := by
  intro cleared
  unfold cleared
  rw [withoutFaults, String.toList_ofList, ← map_cleared]
  exact Text.lines_emptied (faultyLines text) text.toList

/-- Without its faults a text has the same entries. -/
theorem inText_withoutFaults (text : String) :
    Entry.inText (withoutFaults text) = Entry.inText text := by
  have hentries : ((Text.lines text.toList).map Entry.cleared).filterMap Entry.onLine? =
      Entry.inText text := by
    have hline : Entry.onLine? ∘ Entry.cleared = Entry.onLine? := funext Entry.onLine?_cleared
    rw [List.filterMap_map, hline, Entry.inText]
  rw [← hentries, Entry.inText]
  rcases lines_withoutFaults text with h | h
  · rw [h]
  · rw [← h, List.filterMap_append]
    exact (List.append_nil _).symm

/-- Without its faults a text has none. -/
theorem faultOn?_of_mem_withoutFaults (h : line ∈ Text.lines (withoutFaults text).toList) :
    Entry.faultOn? line = none := by
  have hcleared : line ∈ (Text.lines text.toList).map Entry.cleared := by
    rcases lines_withoutFaults text with he | he
    · rwa [he] at h
    · rw [← he]
      exact List.mem_append_left _ h
  obtain ⟨faulty, -, rfl⟩ := List.mem_map.mp hcleared
  exact Entry.faultOn?_cleared faulty

/-- **Faulty lines have no effect.** Errors carry the numbers of the lines with a fault, from one on
and in their order. With these lines empty the text is loaded as the same settings and without
errors. The settings are what the entries of the remaining lines make of the default settings, entered
one after the other; so under each key there is the last of the entries with this key, or what there
is by default. -/
theorem faults_of_load (text : String) :
    (faultyLines text).Pairwise (· < ·) ∧
      (∀ n ∈ faultyLines text, 1 ≤ n ∧ n ≤ (Text.lines text.toList).length) ∧
      (∀ n fault, ⟨n, fault⟩ ∈ (load text).2 ↔
        1 ≤ n ∧ ∃ line, (Text.lines text.toList)[n - 1]? = some line ∧
          Entry.ofLine line = .error fault) ∧
      load (withoutFaults text) = ((load text).1, []) ∧
      (load text).1 = (Entry.inText (withoutFaults text)).foldl enter default ∧
      ∀ key, (load text).1.entry key =
        ((Entry.inText (withoutFaults text)).filter fun e => e.key = key).getLast?.getD
          (default.entry key) := by
  have hsettings : (load text).1 = (Entry.inText (withoutFaults text)).foldl enter default := by
    rw [inText_withoutFaults, load_eq]
  refine ⟨pairwise_faultyLines text, ?_, fun n fault => mem_errors_iff, ?_, hsettings, ?_⟩
  · intro n hn
    obtain ⟨hle, line, hline, -⟩ := mem_faultyLines_iff.mp hn
    have hlt := (List.getElem?_eq_some_iff.mp hline).1
    omega
  · exact load_of_entries (fun _ => faultOn?_of_mem_withoutFaults) (inText_withoutFaults text)
  · intro key
    rw [hsettings, entry_foldl_enter]

/-- Of two lines that cannot be read one ends the text; the last of two that can is the one that
counts. -/
example :
    let text := "tag_start\r\n ; note\ntag_end = <\r\n\ntag_end=\"=\"\nstrings = any"
    faultyLines text = [1, 6] ∧
      withoutFaults text = "\r\n ; note\ntag_end = <\r\n\ntag_end=\"=\"\n" ∧
      (load text).1 = { default with closing := '=' } := by
  decide

end TagTemplate.Settings
