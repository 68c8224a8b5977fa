import Mathlib.Data.List.Induction
import TagTemplate.Proofs.Forest.Candidates
import TagTemplate.Record

/-!
# Records as they are written

A record is what a history of writes makes of nothing. Its names are those of the history, in the
order in which they first came, and under its exact spelling every name has the value that it was
last given. A reader who does not look at case finds the name that came first of those that agree:
so what is written is read back unless another spelling of the name came before, which then keeps
being read.
-/

namespace TagTemplate

namespace Record

variable {α : Type} {nameCase : NameCase} {name word : String} {value : α} {r : Record α}

/-- The names of a record, in order. -/
def names (r : Record α) : List String := r.map Prod.fst

/-- A write leaves the names as they are, or puts a new one behind them. -/
theorem names_insert (name : String) (value : α) (r : Record α) :
    (r.insert name value).names = if name ∈ r.names then r.names else r.names ++ [name] := by
  unfold names
  induction r with
  | nil => rfl
  | cons field r ih =>
    obtain ⟨n, v⟩ := field
    unfold insert
    by_cases h : n = name
    · simp [h]
    · rw [if_neg h, List.map_cons, ih]
      by_cases hm : name ∈ r.map Prod.fst <;> simp [hm, Ne.symm h]

/-- A write makes no difference to a reader of a name that does not agree with it. -/
theorem find?_insert_of_not_same (h : nameCase.same name word = false) (value : α)
    (r : Record α) : find? nameCase word (r.insert name value) = find? nameCase word r := by
  induction r with
  | nil => simp [insert, find?, h]
  | cons field r ih =>
    obtain ⟨n, v⟩ := field
    unfold insert
    split
    · next hn =>
      subst hn
      simp [find?, h]
    · simp only [find?, ih]

/-- A write is read under a name that agrees with it if no other spelling comes first, and else
makes no difference. -/
theorem find?_insert_of_same (h : nameCase.same name word = true) (value : α) (r : Record α) :
    find? nameCase word (r.insert name value) =
      match r.names.find? (nameCase.same · word) with
      | some first => if first = name then some value else find? nameCase word r
      | none => some value := by
  unfold names
  induction r with
  | nil => simp [insert, find?, h]
  | cons field r ih =>
    obtain ⟨n, v⟩ := field
    unfold insert
    by_cases hn : n = name
    · subst hn
      simp [find?, h]
    · rw [if_neg hn]
      cases hs : nameCase.same n word <;> simp [find?, hs, hn, ih]

/-- Under its exact spelling a name has the value that it is given. -/
theorem get?_insert (name : String) (value : α) (r : Record α) (word : String) :
    get? word (r.insert name value) = if name = word then some value else get? word r := by
  unfold get?
  by_cases h : name = word
  · have hs : NameCase.sensitive.same name word = true := beq_iff_eq.mpr h
    rw [find?_insert_of_same hs, if_pos h]
    split
    · next first hfirst =>
      have hagree : NameCase.sensitive.same first word = true := (List.find?_some hfirst :)
      have hsame : first = word := beq_iff_eq.mp hagree
      rw [if_pos (hsame.trans h.symm)]
    · rfl
  · have hs : NameCase.sensitive.same name word = false := beq_eq_false_iff_ne.mpr h
    rw [find?_insert_of_not_same hs, if_neg h]

/-- A value in a record without repeated names is what is found under its name. -/
theorem get?_of_mem (hn : r.names.Nodup) (h : (name, value) ∈ r) : get? name r = some value := by
  unfold get?
  induction r with
  | nil => exact absurd h List.not_mem_nil
  | cons field r ih =>
    obtain ⟨hnew, hrest⟩ := List.nodup_cons.mp hn
    rcases List.mem_cons.mp h with rfl | hm
    · simp [find?, NameCase.same]
    · have hne : field.1 ≠ name := fun he => hnew (he ▸ List.mem_map_of_mem hm)
      simp only [find?, NameCase.same, beq_eq_false_iff_ne.mpr hne, Bool.false_eq_true, if_false]
      exact ih hrest hm

section History

variable {history : List (String × α)}

/-- The last write of a history is the last one that the record takes. -/
theorem ofFields_concat (history : List (String × α)) (name : String) (value : α) :
    ofFields (history ++ [(name, value)]) = (ofFields history).insert name value := by
  simp only [ofFields, List.foldl_append, List.foldl_cons, List.foldl_nil]

/-- The names of a record are those of its history, each where it first came. -/
theorem names_ofFields (history : List (String × α)) :
    (ofFields history).names = (history.map Prod.fst).eraseDups := by
  induction history using List.reverseRecOn with
  | nil => rfl
  | append_singleton history field ih =>
    obtain ⟨name, value⟩ := field
    rw [ofFields_concat, names_insert, ih, List.map_append, List.eraseDups_append]
    by_cases h : name ∈ history.map Prod.fst
    · have hgone : [name].removeAll (history.map Prod.fst) = [] := by
        simp [List.removeAll, h]
      rw [if_pos (List.mem_eraseDups.mpr h), List.map_singleton, hgone, List.eraseDups_nil,
        List.append_nil]
    · have hkept : [name].removeAll (history.map Prod.fst) = [name] := by
        simp [List.removeAll, h]
      rw [if_neg (fun hm => h (List.mem_eraseDups.mp hm)), List.map_singleton, hkept]
      simp [List.eraseDups_cons]

/-- No name of a record comes twice. -/
theorem nodup_names_ofFields (history : List (String × α)) : (ofFields history).names.Nodup := by
  induction history using List.reverseRecOn with
  | nil => exact List.nodup_nil
  | append_singleton history field ih =>
    obtain ⟨name, value⟩ := field
    rw [ofFields_concat, names_insert]
    split
    · exact ih
    · next h =>
      refine List.nodup_append.mpr ⟨ih, List.pairwise_singleton _ name, fun a ha b hb he => ?_⟩
      rw [List.mem_singleton.mp hb] at he
      exact h (he ▸ ha)

/-- The first name of a record with a property is the first such name of its history. -/
theorem find?_names_ofFields (p : String → Bool) (history : List (String × α)) :
    (ofFields history).names.find? p = (history.map Prod.fst).find? p := by
  induction history using List.reverseRecOn with
  | nil => rfl
  | append_singleton history field ih =>
    obtain ⟨name, value⟩ := field
    rw [ofFields_concat, names_insert, List.map_append, List.find?_append, ← ih]
    split
    · next h =>
      cases hfound : (ofFields history).names.find? p with
      | some first => rfl
      | none =>
        have hname := List.find?_eq_none.mp hfound name h
        simp [hname]
    · rw [List.find?_append]
      rfl

/-- Under its exact spelling every name has the value that the history gives it last. -/
theorem get?_ofFields (word : String) (history : List (String × α)) :
    get? word (ofFields history) =
      (history.reverse.find? fun field => field.1 == word).map Prod.snd := by
  induction history using List.reverseRecOn with
  | nil => rfl
  | append_singleton history field ih =>
    obtain ⟨name, value⟩ := field
    rw [ofFields_concat, get?_insert, ih, List.reverse_concat, List.find?_cons]
    by_cases h : name = word
    · simp [h]
    · rw [if_neg h, beq_eq_false_iff_ne.mpr h]

end History

/-- What is written is read back, wherever no other spelling of the name came before. A write under
`name` after any history makes no difference to a reader of a name that does not agree with it. A
reader of a name that agrees finds the value if `name` is how the first name of the history that
agrees is spelled, or if none does; and else finds what was found before. -/
theorem find?_insert_ofFields (nameCase : NameCase) (history : List (String × α)) (name : String)
    (value : α) :
    let r := ofFields history
    (∀ word, nameCase.same name word = false →
      find? nameCase word (r.insert name value) = find? nameCase word r) ∧
    (∀ word, nameCase.same name word = true →
      find? nameCase word (r.insert name value) =
        match (history.map Prod.fst).find? (nameCase.same · name) with
        | some first => if first = name then some value else find? nameCase word r
        | none => some value) ∧
    ((∀ n ∈ history.map Prod.fst, nameCase.same n name = true → n = name) →
      find? nameCase name (r.insert name value) = some value) := by
  intro r
  have hread : ∀ word, nameCase.same name word = true →
      find? nameCase word (r.insert name value) =
        match (history.map Prod.fst).find? (nameCase.same · name) with
        | some first => if first = name then some value else find? nameCase word r
        | none => some value := by
    intro word h
    have hagree : (nameCase.same · name) = (nameCase.same · word) := by
      funext n
      rw [Bool.eq_iff_iff]
      exact ⟨fun hn => NameCase.same_trans hn h,
        fun hn => NameCase.same_trans hn (NameCase.same_symm h)⟩
    rw [find?_insert_of_same h, find?_names_ofFields, hagree]
  refine ⟨fun word h => find?_insert_of_not_same h value r, hread, fun hspelled => ?_⟩
  rw [hread name (nameCase.same_refl name)]
  cases hfirst : (history.map Prod.fst).find? (nameCase.same · name) with
  | none => rfl
  | some first =>
    have hagree : nameCase.same first name = true := (List.find?_some hfirst :)
    exact if_pos (hspelled first (List.mem_of_find?_eq_some hfirst) hagree)

/-- A value that is written under another spelling of a name is not read back: `A` came first, and
is read as `a`. -/
theorem find?_insert_other_spelling :
    find? .insensitive "a" ((ofFields [("A", 1)]).insert "a" 2) = some 1 := by
  decide

end Record

end TagTemplate
