import TagTemplate.Context
import TagTemplate.Proofs.Dialect.Registered
import TagTemplate.Proofs.Text.LowerCase

/-!
# Keys of variables

A table of variables files a name under its key, a record compares names letter by letter. The
two agree on the regular names, those whose key spells their folded form, and on no others: the
lower case of a whole name has a final sigma where the folded form has none, and a name without
a capital is its own key even if it has a titlecase digraph.
-/

namespace TagTemplate

namespace NameCase

/-- The names on which key and comparison agree. Where case does not count, no capital sigma may
end a word of the name, and letters that have another lower case need a capital beside them. -/
def Regular (nameCase : NameCase) (name : String) : Prop :=
  match nameCase with
  | .sensitive => True
  | .insensitive =>
    ¬ Text.SigmaEndsWord name.toList ∧
      ((∃ c ∈ name.toList, Text.lowerChar c ≠ [c]) → ∃ c ∈ name.toList, Text.isUppercase c = true)

/-- What comparison sees of a name. -/
def letters (nameCase : NameCase) (name : String) : List Char :=
  match nameCase with
  | .sensitive => name.toList
  | .insensitive => Text.folded name

/-- Two names are the same if comparison sees the same letters. -/
theorem same_iff (nameCase : NameCase) (a b : String) :
    nameCase.same a b = true ↔ nameCase.letters a = nameCase.letters b := by
  cases nameCase <;> simp [same, letters, String.toList_inj]

/-- A name is regular exactly if its key spells what comparison sees of it. -/
theorem regular_iff (nameCase : NameCase) (name : String) :
    nameCase.Regular name ↔ (nameCase.key name).toList = nameCase.letters name := by
  cases nameCase with
  | sensitive => simp [Regular, key, letters]
  | insensitive =>
    simp only [Regular, key, letters]
    split
    · next hcapital =>
      rw [Text.lowercase_eq_folded_iff]
      exact and_iff_left fun _ => by simpa using hcapital
    · next hcapital =>
      have hnone : ¬ ∃ c ∈ name.toList, Text.isUppercase c = true := by simpa using hcapital
      have hsigma : ¬ Text.SigmaEndsWord name.toList := by
        rintro ⟨before, after, hname, -⟩
        exact hnone ⟨'Σ', by simp [hname], Text.isUppercase_sigma⟩
      rw [eq_comm, Text.folded_eq_self_iff]
      simp [hsigma, hnone]

instance (nameCase : NameCase) (name : String) : Decidable (nameCase.Regular name) :=
  decidable_of_iff _ (nameCase.regular_iff name).symm

/-- What comparison sees of a name is a name for which it sees the same letters. -/
theorem letters_letters (nameCase : NameCase) (name : String) :
    nameCase.letters (String.ofList (nameCase.letters name)) = nameCase.letters name := by
  cases nameCase with
  | sensitive => simp [letters]
  | insensitive =>
    have hsettled := (Text.folded_eq_self_iff (String.ofList (Text.folded name))).mpr fun c hc =>
      Text.lowerChar_of_mem_folded (String.toList_ofList ▸ hc)
    simpa [letters] using hsettled

/-- Every name has a regular one that is the same: the letters that comparison sees. -/
theorem regular_letters (nameCase : NameCase) (name : String) :
    nameCase.Regular (String.ofList (nameCase.letters name)) := by
  cases nameCase with
  | sensitive => trivial
  | insensitive =>
    have hsettled : ∀ c ∈ Text.folded name, Text.lowerChar c = [c] :=
      fun c hc => Text.lowerChar_of_mem_folded hc
    rw [Regular, letters, String.toList_ofList]
    refine ⟨?_, fun ⟨c, hc, hmoves⟩ => absurd (hsettled c hc) hmoves⟩
    rintro ⟨before, after, hname, -⟩
    have hstays : Text.lowerChar 'Σ' = ['Σ'] := hsettled 'Σ' (by simp [hname])
    rw [Text.lowerChar_sigma] at hstays
    exact absurd hstays (by decide)

/-- Two regular names have one key exactly if they are the same. -/
theorem key_eq_iff {nameCase : NameCase} {a b : String} (ha : nameCase.Regular a)
    (hb : nameCase.Regular b) :
    nameCase.key a = nameCase.key b ↔ nameCase.same a b = true := by
  rw [same_iff, ← (regular_iff ..).mp ha, ← (regular_iff ..).mp hb, String.toList_inj]

/-- Only regular names agree with all regular names. -/
theorem regular_of_key_eq_iff {nameCase : NameCase} {a : String}
    (h : ∀ b, nameCase.Regular b →
      (nameCase.key a = nameCase.key b ↔ nameCase.same a b = true)) : nameCase.Regular a := by
  have hregular := nameCase.regular_letters a
  have hsame : nameCase.same a (String.ofList (nameCase.letters a)) = true := by
    rw [same_iff, letters_letters]
  rw [regular_iff, (h _ hregular).mpr hsame, (regular_iff ..).mp hregular, letters_letters]

end NameCase

/-- A context with one variable finds it under every name that has its key, and nothing else. -/
theorem Context.value?_setVariable_new (d : Dialect) (flag : Nat) (a b : String) (v : Value) :
    ((new d flag).setVariable a v).value? b =
      .ok (if d.nameCase.key a = d.nameCase.key b then some v else none) := by
  have htop : Record.get? (d.nameCase.key b) [(d.nameCase.key a, v)] =
      if d.nameCase.key a = d.nameCase.key b then some v else none := by
    simp [Record.get?, Record.find?, NameCase.same]
  simp only [value?, setVariable, new, frames, lookupFrames, Frame.bind, Frame.empty,
    Record.insert, htop]
  by_cases hkey : d.nameCase.key a = d.nameCase.key b <;> simp [hkey]

/-- A record with one member has it under every name that is the same, and nothing else. -/
theorem Value.readMember_single (nameCase : NameCase) (id : Nat) (a b : String) (v : Value) :
    (object (.record id (Record.ofFields [(a, v)]))).readMember nameCase b =
      .ok (if nameCase.same a b then some v else none) := by
  simp [readMember, Object.read, Record.ofFields, Record.insert, Record.find?]

/-- **Variables and members are found under the same names.** The names with which a regular
name shares its key are, among the regular ones, those that are the same, and no other name has
this property. After a variable is set in a context without a self object, a regular name finds
it exactly if it is the same name, as it would find the only member of a record. -/
theorem Context.lookup_of_regular (d : Dialect) (flag id : Nat) (a : String) (v : Value) :
    (d.nameCase.Regular a ↔ ∀ b, d.nameCase.Regular b →
      (d.nameCase.key a = d.nameCase.key b ↔ d.nameCase.same a b = true)) ∧
    (d.nameCase.Regular a → ∀ b, d.nameCase.Regular b →
      ((new d flag).setVariable a v).value? b =
        .ok (if d.nameCase.same a b then some v else none)) ∧
    ∀ b, (Value.object (.record id (Record.ofFields [(a, v)]))).readMember d.nameCase b =
      .ok (if d.nameCase.same a b then some v else none) := by
  refine ⟨⟨fun ha b hb => NameCase.key_eq_iff ha hb, NameCase.regular_of_key_eq_iff⟩,
    fun ha b hb => ?_, fun b => Value.readMember_single d.nameCase id a b v⟩
  rw [value?_setVariable_new]
  simp only [NameCase.key_eq_iff ha hb]

set_option maxRecDepth 1000 in
/-- A capital sigma that begins a word leaves its name regular: such a variable is found in small
letters. -/
theorem Context.lookup_of_regular_sigma :
    ∃ d, Dialect.standard = .ok d ∧ d.nameCase.Regular "ΣΟΦΙΑ" ∧ d.nameCase.Regular "σοφια" ∧
      ((new d 0).setVariable "ΣΟΦΙΑ" (.bool true)).value? "σοφια" = .ok (some (.bool true)) := by
  obtain ⟨d, hd, hcase⟩ := Dialect.exists_standard_insensitive
  have ha : d.nameCase.Regular "ΣΟΦΙΑ" := by
    rw [hcase]
    decide
  have hb : d.nameCase.Regular "σοφια" := by
    rw [hcase]
    decide
  refine ⟨d, hd, ha, hb, ?_⟩
  rw [(lookup_of_regular d 0 0 "ΣΟΦΙΑ" (.bool true)).2.1 ha "σοφια" hb, hcase,
    if_pos (by decide)]

/-- A variable whose name ends with a capital sigma is not found in small letters, though the
names are the same, but with a final sigma, though the names differ. -/
theorem Context.exists_lookup_of_final_sigma :
    ∃ d, Dialect.standard = .ok d ∧
      d.nameCase.same "ΑΣ" "ασ" = true ∧
      ((new d 0).setVariable "ΑΣ" (.bool true)).value? "ασ" = .ok none ∧
      d.nameCase.same "ΑΣ" "ας" = false ∧
      ((new d 0).setVariable "ΑΣ" (.bool true)).value? "ας" = .ok (some (.bool true)) := by
  obtain ⟨d, hd, hcase⟩ := Dialect.exists_standard_insensitive
  refine ⟨d, hd, ?_, ?_, ?_, ?_⟩
  · rw [hcase]
    decide
  · rw [value?_setVariable_new, hcase, if_neg (by decide)]
  · rw [hcase]
    decide
  · rw [value?_setVariable_new, hcase, if_pos (by decide)]

end TagTemplate
