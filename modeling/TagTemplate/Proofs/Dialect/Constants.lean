import TagTemplate.Proofs.Dialect.Registered
import TagTemplate.Proofs.Record.History

/-!
# Constants of a dialect

Constants are defined in two stages. A setting gives a spelling its value, in place if the spelling
is there; of the spellings that agree under the rule of the dialect, which is known only at the end,
the one that first came last then takes the place of the others. So a constant has the value that
this spelling was last given. That is the value of the last definition wherever the last definition
uses this spelling, as it always does where case counts.
-/

namespace TagTemplate

namespace Record

variable {α : Type} {nameCase : NameCase} {word : String} {r : Record α}

/-- The last field whose name agrees with `word`. -/
def lastAgreeing? (nameCase : NameCase) (word : String) (fields : List (String × α)) :
    Option (String × α) :=
  fields.reverse.find? fun field => nameCase.same field.1 word

/-- Of the spellings that agree with `word` the one that first came last. -/
def newestSpelling? (nameCase : NameCase) (word : String) (fields : List (String × α)) :
    Option String :=
  (fields.map Prod.fst).eraseDups.reverse.find? (nameCase.same · word)

/-- The value that a spelling is given last. -/
def lastValue? (fields : List (String × α)) (spelling : String) : Option α :=
  (fields.reverse.find? fun field => field.1 == spelling).map Prod.snd

/-- The last field that agrees is the last one of those behind, and else of those in front. -/
theorem lastAgreeing?_append (nameCase : NameCase) (word : String)
    (fields more : List (String × α)) :
    lastAgreeing? nameCase word (fields ++ more) =
      (lastAgreeing? nameCase word more).or (lastAgreeing? nameCase word fields) := by
  unfold lastAgreeing?
  rw [List.reverse_append, List.find?_append]

/-- What is found is found in a field. -/
theorem find?_eq_map (nameCase : NameCase) (word : String) (r : Record α) :
    find? nameCase word r =
      (List.find? (fun field => nameCase.same field.1 word) r).map Prod.snd := by
  induction r with
  | nil => rfl
  | cons field r ih =>
    obtain ⟨n, v⟩ := field
    cases h : nameCase.same n word <;> simp [find?, h, ih]

/-- Where all names that agree are one, the first field that agrees is also the last one. -/
theorem lastAgreeing?_of_unique (hn : r.names.Nodup)
    (hone : ∀ n ∈ r.names, ∀ n' ∈ r.names, nameCase.same n word = true →
      nameCase.same n' word = true → n = n') :
    (lastAgreeing? nameCase word r).map Prod.snd = find? nameCase word r := by
  rw [find?_eq_map]
  unfold lastAgreeing?
  cases hlast : r.reverse.find? fun field => nameCase.same field.1 word with
  | none =>
    have hnone : ∀ field ∈ r, ¬nameCase.same field.1 word = true := fun field hm =>
      List.find?_eq_none.mp hlast field (List.mem_reverse.mpr hm)
    rw [List.find?_eq_none.mpr hnone]
  | some last =>
    have hagree : nameCase.same last.1 word = true := (List.find?_some hlast :)
    have hm : last ∈ r := List.mem_reverse.mp (List.mem_of_find?_eq_some hlast)
    have hsome : (List.find? (fun field => nameCase.same field.1 word) r).isSome :=
      List.find?_isSome.mpr ⟨last, hm, hagree⟩
    obtain ⟨first, hfirst⟩ := Option.isSome_iff_exists.mp hsome
    have hagree' : nameCase.same first.1 word = true := (List.find?_some hfirst :)
    have hm' : first ∈ r := List.mem_of_find?_eq_some hfirst
    have hsame : last.1 = first.1 := hone _ (List.mem_map_of_mem hm) _ (List.mem_map_of_mem hm')
      hagree hagree'
    rw [hfirst, Option.map_some, Option.map_some, ← get?_of_mem hn hm, ← get?_of_mem hn hm', hsame]

/-- In a record the last field that agrees has the spelling that first came last in its history, and
the value that this spelling was last given. -/
theorem lastAgreeing?_ofFields (nameCase : NameCase) (word : String)
    (history : List (String × α)) :
    (lastAgreeing? nameCase word (ofFields history)).map Prod.snd =
      (newestSpelling? nameCase word history).bind (lastValue? history) := by
  have hnewest : newestSpelling? nameCase word history =
      (lastAgreeing? nameCase word (ofFields history)).map Prod.fst := by
    unfold newestSpelling? lastAgreeing?
    rw [← names_ofFields, names, ← List.map_reverse, List.find?_map]
    rfl
  rw [hnewest]
  cases hlast : lastAgreeing? nameCase word (ofFields history) with
  | none => rfl
  | some field =>
    have hm : field ∈ ofFields history :=
      List.mem_reverse.mp (List.mem_of_find?_eq_some hlast)
    have hvalue := get?_of_mem (nodup_names_ofFields history) hm
    rw [get?_ofFields] at hvalue
    rw [Option.map_some, Option.map_some, Option.bind_some, lastValue?, hvalue]

/-- The last field that agrees gives its spelling the last value. -/
theorem lastValue?_of_lastAgreeing? {fields : List (String × α)} {last : String × α}
    (h : lastAgreeing? nameCase word fields = some last) :
    lastValue? fields last.1 = some last.2 := by
  unfold lastAgreeing? at h
  obtain ⟨hagree, after, before, hsplit, hafter⟩ := List.find?_eq_some_iff_append.mp h
  have hlast : fields.reverse.find? (fun field => field.1 == last.1) = some last := by
    refine List.find?_eq_some_iff_append.mpr ⟨beq_self_eq_true _, after, before, hsplit, ?_⟩
    intro field hm
    have hother := hafter field hm
    by_cases he : field.1 = last.1
    · rw [he, hagree] at hother
      cases hother
    · simpa using he
  rw [lastValue?, hlast]
  rfl

/-- Writes that do not agree with `word` make no difference to its reader. -/
theorem find?_ofFields_append {more : List (String × α)}
    (h : ∀ field ∈ more, nameCase.same field.1 word = false) (history : List (String × α)) :
    find? nameCase word (ofFields (history ++ more)) = find? nameCase word (ofFields history) := by
  induction more generalizing history with
  | nil => rw [List.append_nil]
  | cons field more ih =>
    obtain ⟨hfield, hmore⟩ := List.forall_mem_cons.mp h
    rw [← List.singleton_append, ← List.append_assoc, ih hmore, ofFields_concat,
      find?_insert_of_not_same hfield]

/-- Where case counts, the spelling that first came last is the one that is looked for. -/
theorem newestSpelling?_sensitive {fields : List (String × α)} {last : String × α}
    (h : lastAgreeing? .sensitive word fields = some last) :
    newestSpelling? .sensitive word fields = some last.1 := by
  have hm : last ∈ fields := List.mem_reverse.mp (List.mem_of_find?_eq_some h)
  have hagree : NameCase.sensitive.same last.1 word = true := (List.find?_some h :)
  have hlast : last.1 = word := beq_iff_eq.mp hagree
  have hfound : (newestSpelling? .sensitive word fields).isSome := by
    refine List.find?_isSome.mpr ⟨last.1, ?_, beq_iff_eq.mpr hlast⟩
    exact List.mem_reverse.mpr (List.mem_eraseDups.mpr (List.mem_map_of_mem hm))
  obtain ⟨spelling, hspelling⟩ := Option.isSome_iff_exists.mp hfound
  have hagree' : NameCase.sensitive.same spelling word = true := (List.find?_some hspelling :)
  have hsame : spelling = word := beq_iff_eq.mp hagree'
  rw [hspelling, hsame, hlast]

end Record

namespace Dialect

open Record

/-- The constant that a setting defines. -/
def Setting.definition? : Setting → Option (String × Value)
  | .constant name value => some (name, value)
  | _ => none

/-- The constants that settings define, in order. -/
def definitions (settings : List Setting) : List (String × Value) :=
  settings.filterMap Setting.definition?

/-- The value of a constant if later definitions win: that of the last definition that agrees, or
of the default constant. -/
def latest? (nameCase : NameCase) (word : String) (defined : List (String × Value)) :
    Option Value :=
  ((lastAgreeing? nameCase word defined).map Prod.snd).or (find? nameCase word defaultConstants)

namespace Draft

/-- Registering an operator leaves the constants. -/
theorem constants_register (draft : Draft) (op : Operator) :
    (draft.register op).constants = draft.constants := by
  unfold register
  split <;> rfl

theorem constants_foldl_register (ops : List Operator) (draft : Draft) :
    (ops.foldl register draft).constants = draft.constants := by
  induction ops generalizing draft with
  | nil => rfl
  | cons op ops ih => exact (ih _).trans (constants_register draft op)

/-- A setting writes the constant that it defines, and no other one. -/
theorem constants_change (draft : Draft) (setting : Setting) :
    (draft.change setting).constants =
      setting.definition?.toList.foldl (fun r field => r.insert field.1 field.2)
        draft.constants := by
  cases setting with
  | operator op => exact constants_register draft op
  | standardOperators => exact constants_foldl_register _ draft
  | _ => rfl

/-- The constants of a draft are the default ones and those that its settings define, one after the
other. -/
theorem constants_ofSettings (name : String) (settings : List Setting) :
    (Draft.ofSettings name settings).constants =
      ofFields (defaultConstants ++ definitions settings) := by
  have hfold (draft : Draft) : (settings.foldl change draft).constants =
      (definitions settings).foldl (fun r field => Record.insert field.1 field.2 r)
        draft.constants := by
    induction settings generalizing draft with
    | nil => rfl
    | cons setting settings ih =>
      rw [List.foldl_cons, ih, constants_change, ← List.foldl_append]
      congr 1
      cases h : setting.definition? <;> simp [definitions, h]
  have hdefault : ofFields defaultConstants = defaultConstants := rfl
  rw [ofFields, List.foldl_append, ← ofFields, hdefault]
  exact hfold (new name)

end Draft

variable {nameCase : NameCase} {word : String}

/-- Filing constants that may have their names files them one by one. -/
theorem eq_foldl_of_placeConstants {keywords : List String} {filed more all : Record Value}
    (h : placeConstants nameCase keywords filed more = .ok all) :
    all = more.foldl (fun filed field => placeConstant nameCase field.1 field.2 filed) filed := by
  induction more generalizing filed with
  | nil =>
    cases h
    rfl
  | cons field more ih =>
    unfold placeConstants at h
    split at h
    · cases h
    · split at h
      · cases h
      · exact ih h

/-- A constant that is filed is found under every name that agrees, and under no other. -/
theorem find?_placeConstant (name : String) (value : Value) (filed : Record Value) :
    find? nameCase word (placeConstant nameCase name value filed) =
      if nameCase.same name word then some value else find? nameCase word filed := by
  induction filed with
  | nil => rfl
  | cons field filed ih =>
    obtain ⟨n, v⟩ := field
    unfold placeConstant
    by_cases hplace : nameCase.same n name = true
    · -- The field in front agrees with `word` exactly if the constant that takes its place does.
      have hfront : nameCase.same n word = nameCase.same name word := by
        rw [Bool.eq_iff_iff]
        exact ⟨fun hn => NameCase.same_trans (NameCase.same_symm hplace) hn,
          fun hn => NameCase.same_trans hplace hn⟩
      rw [if_pos hplace]
      cases h : nameCase.same name word <;> simp [find?, hfront, h]
    · rw [if_neg hplace, find?, find?, ih]
      cases h : nameCase.same name word with
      | false => rfl
      | true =>
        have hother : nameCase.same n word = false := by
          refine Bool.eq_false_iff.mpr fun hn => hplace ?_
          exact NameCase.same_trans hn (NameCase.same_symm h)
        simp [hother]

/-- Of constants that are filed one after the other the last one that agrees is found. -/
theorem find?_foldl_placeConstant (more filed : Record Value) :
    find? nameCase word
        (more.foldl (fun filed field => placeConstant nameCase field.1 field.2 filed) filed) =
      ((lastAgreeing? nameCase word more).map Prod.snd).or (find? nameCase word filed) := by
  induction more generalizing filed with
  | nil => rfl
  | cons field more ih =>
    rw [List.foldl_cons, ih, find?_placeConstant, ← List.singleton_append, lastAgreeing?_append]
    cases hlast : lastAgreeing? nameCase word more with
    | some last => rfl
    | none => cases h : nameCase.same field.1 word <;> simp [lastAgreeing?, h]

/-- A constant of a dialect has the value that was last given to the spelling that first came last
of those that agree, the default constants counting as the first that were defined. -/
theorem constant?_eq {name : String} {settings : List Setting} {d : Dialect}
    (h : ofSettings name settings = .ok d) (word : String) :
    d.constant? word =
      (newestSpelling? d.nameCase word (defaultConstants ++ definitions settings)).bind
        (lastValue? (defaultConstants ++ definitions settings)) := by
  obtain ⟨-, -, -, hcase, hplaced⟩ := steps_of_ofDraft h
  rw [constant?, eq_foldl_of_placeConstants hplaced, hcase, find?_foldl_placeConstant,
    Draft.constants_ofSettings, lastAgreeing?_ofFields]
  exact Option.or_none

/-- No two default constants agree. -/
theorem eq_of_mem_defaultConstants (nameCase : NameCase) :
    ∀ n ∈ defaultConstants.map Prod.fst, ∀ n' ∈ defaultConstants.map Prod.fst,
      nameCase.same n n' = true → n = n' := by
  cases nameCase <;> decide

/-- A constant that no setting defines has its default value, if it has one. -/
theorem constant?_eq_default {name : String} {settings : List Setting} {d : Dialect}
    (h : ofSettings name settings = .ok d)
    (hnone : lastAgreeing? d.nameCase word (definitions settings) = none) :
    d.constant? word = find? d.nameCase word defaultConstants := by
  have hother : ∀ field ∈ definitions settings, d.nameCase.same field.1 word = false := by
    intro field hm
    exact Bool.eq_false_iff.mpr (List.find?_eq_none.mp hnone field (List.mem_reverse.mpr hm))
  -- So the names that agree are default ones, of which no two agree.
  have hdefault : ∀ n ∈ (ofFields (defaultConstants ++ definitions settings)).names,
      d.nameCase.same n word = true → n ∈ defaultConstants.map Prod.fst := by
    intro n hm hn
    rw [names_ofFields, List.mem_eraseDups, List.map_append, List.mem_append] at hm
    refine hm.resolve_right fun hcall => ?_
    obtain ⟨field, hfield, rfl⟩ := List.mem_map.mp hcall
    rw [hother field hfield] at hn
    cases hn
  have hunique := lastAgreeing?_of_unique (nodup_names_ofFields _)
    fun n hm n' hm' hn hn' => eq_of_mem_defaultConstants d.nameCase n (hdefault n hm hn) n'
      (hdefault n' hm' hn') (NameCase.same_trans hn (NameCase.same_symm hn'))
  rw [constant?_eq h, ← lastAgreeing?_ofFields, hunique, find?_ofFields_append hother]
  rfl

/-- A constant has the value that was last given to the newest spelling of its name: of the default
constants and the definitions of the settings, in order, that of which the spelling first came last.
So later definitions win wherever the last definition of a name uses its newest spelling, or there
is none but the default one; and always where case counts. -/
theorem constant?_of_ofSettings {name : String} {settings : List Setting} {d : Dialect}
    (h : ofSettings name settings = .ok d) (word : String) :
    let all := defaultConstants ++ definitions settings
    d.constant? word = (newestSpelling? d.nameCase word all).bind (lastValue? all) ∧
    ((∀ last, lastAgreeing? d.nameCase word (definitions settings) = some last →
        newestSpelling? d.nameCase word all = some last.1) →
      d.constant? word = latest? d.nameCase word (definitions settings)) ∧
    (d.nameCase = .sensitive →
      d.constant? word = latest? d.nameCase word (definitions settings)) := by
  intro all
  have hlast {last : String × Value}
      (hcall : lastAgreeing? d.nameCase word (definitions settings) = some last) :
      lastAgreeing? d.nameCase word all = some last := by
    rw [lastAgreeing?_append, hcall]
    rfl
  have hnewest : (∀ last, lastAgreeing? d.nameCase word (definitions settings) = some last →
        newestSpelling? d.nameCase word all = some last.1) →
      d.constant? word = latest? d.nameCase word (definitions settings) := by
    intro hspelled
    unfold latest?
    cases hcall : lastAgreeing? d.nameCase word (definitions settings) with
    | none => exact constant?_eq_default h hcall
    | some last =>
      rw [constant?_eq h, hspelled last hcall, Option.bind_some,
        lastValue?_of_lastAgreeing? (hlast hcall)]
      rfl
  refine ⟨constant?_eq h word, hnewest, fun hcase => hnewest fun last hcall => ?_⟩
  have hfound := hlast hcall
  rw [hcase] at hfound ⊢
  exact newestSpelling?_sensitive hfound

set_option maxRecDepth 1000 in
/-- The law where a constant gets another value under another spelling. -/
theorem constant?_of_ofSettings_respelled :
    ∃ d, ofSettings "respelled" [.constant "Size" (.text "10"), .constant "SIZE" (.text "12"),
        .standardOperators, .standardDirectives] = .ok d ∧
      d.constant? "size" = some (.text "12") := by
  have hcheck : ∃ d, ofSettings "respelled" [.constant "Size" (.text "10"),
      .constant "SIZE" (.text "12"), .standardOperators, .standardDirectives] = .ok d ∧
        d.nameCase = .insensitive :=
    ⟨_, rfl, rfl⟩
  obtain ⟨d, hd, hcase⟩ := hcheck
  refine ⟨d, hd, ((constant?_of_ofSettings hd "size").2.1 ?_).trans ?_⟩
  · rw [hcase]
    intro last hlast
    cases hlast
    decide
  · rw [hcase]
    rfl

set_option maxRecDepth 1000 in
/-- A later definition does not win if an earlier one used another spelling after the first one that
is spelled like it: the third definition of `k` changes the value of a spelling whose place `K` has
taken. -/
theorem exists_constant?_of_respelled :
    ∃ d, ofSettings "respelled" [.constant "k" (.text "1"), .constant "K" (.text "2"),
        .constant "k" (.text "3"), .standardOperators, .standardDirectives] = .ok d ∧
      d.constant? "k" = some (.text "2") := by
  have hcheck : ∃ d, ofSettings "respelled" [.constant "k" (.text "1"),
      .constant "K" (.text "2"), .constant "k" (.text "3"), .standardOperators,
      .standardDirectives] = .ok d ∧ d.nameCase = .insensitive :=
    ⟨_, rfl, rfl⟩
  obtain ⟨d, hd, hcase⟩ := hcheck
  refine ⟨d, hd, (constant?_eq hd "k").trans ?_⟩
  rw [hcase]
  rfl

end Dialect

end TagTemplate
