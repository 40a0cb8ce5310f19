import FormEngine.Keyed

/-!
Look-ups in entries that are kept in key order. Sorted entries have one value under each key, so
membership and look-up say the same, and two sorted lists that answer every look-up alike are one.
An insertion keeps the order and shows under its own key only.
-/

namespace FormEngine.Keyed

variable {Value : Type}

instance (entries : List (String × Value)) : Decidable (Sorted entries) :=
  inferInstanceAs (Decidable (entries.Pairwise fun earlier later => earlier.1 < later.1))

theorem sorted_iff_keys (entries : List (String × Value)) :
    Sorted entries ↔ (keys entries).Pairwise fun earlier later => earlier < later :=
  List.pairwise_map.symm

theorem find_entry (key : String) (entries : List (String × Value)) :
    find? key entries = (entries.find? fun entry => entry.1 = key).map Prod.snd := by
  induction entries with
  | nil => rfl
  | cons entry rest ih =>
      obtain ⟨name, value⟩ := entry
      by_cases same : name = key
      · simp [find?, same]
      · simpa [find?, same] using ih

theorem find_member (key : String) (value : Value) (entries : List (String × Value))
    (found : find? key entries = some value) : (key, value) ∈ entries := by
  induction entries with
  | nil => simp [find?] at found
  | cons entry rest ih =>
      obtain ⟨name, held⟩ := entry
      by_cases same : name = key
      · have equal : held = value := by simpa [find?, same] using found
        simp [same, equal]
      · have later := ih (by simpa [find?, same] using found)
        exact List.mem_cons_of_mem _ later

theorem find_absent (key : String) (entries : List (String × Value)) :
    find? key entries = none ↔ ∀ value, (key, value) ∉ entries := by
  induction entries with
  | nil => simp [find?]
  | cons entry rest ih =>
      obtain ⟨name, held⟩ := entry
      by_cases same : name = key
      · subst name
        simp only [find?, ↓reduceIte, reduceCtorEq, false_iff]
        intro absent
        exact absent held List.mem_cons_self
      · have different : key ≠ name := Ne.symm same
        simp [find?, same, different, ih]

theorem contains_iff (key : String) (entries : List (String × Value)) :
    contains key entries = true ↔ ∃ value, (key, value) ∈ entries := by
  cases found : find? key entries with
  | none =>
      have absent := (find_absent key entries).mp found
      simp [contains, found, absent]
  | some value =>
      have member := find_member key value entries found
      simp only [contains, found, Option.isSome_some, true_iff]
      exact ⟨value, member⟩

theorem sorted_tail (entry : String × Value) (rest : List (String × Value))
    (sorted : Sorted (entry :: rest)) : Sorted rest :=
  (List.pairwise_cons.mp sorted).2

-- A key occurs once, so the entry that a look-up meets first is the only one.
theorem sorted_find (key : String) (value : Value) (entries : List (String × Value))
    (sorted : Sorted entries) (member : (key, value) ∈ entries) :
    find? key entries = some value := by
  induction entries with
  | nil => simp at member
  | cons entry rest ih =>
      obtain ⟨name, held⟩ := entry
      rcases List.mem_cons.mp member with head | later
      · obtain ⟨rfl, rfl⟩ := Prod.mk.inj head
        simp [find?]
      · have before : name < key := (List.pairwise_cons.mp sorted).1 (key, value) later
        have different : name ≠ key := by
          intro same
          subst name
          exact String.lt_irrefl key before
        simpa [find?, different] using ih (sorted_tail _ rest sorted) later

theorem mem_keys (key : String) (entries : List (String × Value)) :
    key ∈ keys entries ↔ ∃ value, find? key entries = some value := by
  have held := contains_iff key entries
  rw [contains, Option.isSome_iff_exists] at held
  simp [held, keys]

-- Of two sorted lists that hold the same, neither can begin with a key that the other lacks.
theorem sorted_ext (left right : List (String × Value)) (sortedLeft : Sorted left)
    (sortedRight : Sorted right) (same : ∀ key, find? key left = find? key right) :
    left = right := by
  induction left generalizing right with
  | nil =>
      cases right with
      | nil => rfl
      | cons entry rest =>
          have absent := same entry.1
          simp [find?] at absent
  | cons first left ih =>
      cases right with
      | nil =>
          have absent := same first.1
          simp [find?] at absent
      | cons second right =>
          obtain ⟨name, value⟩ := first
          obtain ⟨label, other⟩ := second
          have belowLeft := (List.pairwise_cons.mp sortedLeft).1
          have belowRight := (List.pairwise_cons.mp sortedRight).1
          have held : (name, value) ∈ (label, other) :: right :=
            find_member name value _ (by rw [← same]; simp [find?])
          have kept : (label, other) ∈ (name, value) :: left :=
            find_member label other _ (by rw [same]; simp [find?])
          have heads : (name, value) = (label, other) := by
            rcases List.mem_cons.mp held with equal | later
            · exact equal
            · rcases List.mem_cons.mp kept with equal | sooner
              · exact equal.symm
              · exact absurd (belowLeft _ sooner) (String.lt_asymm (belowRight _ later))
          cases heads
          have tails : ∀ key, find? key left = find? key right := by
            intro key
            by_cases here : name = key
            · subst name
              have absent (rest : List (String × Value))
                  (below : ∀ entry ∈ rest, key < entry.1) : find? key rest = none :=
                (find_absent key rest).mpr fun held present =>
                  String.lt_irrefl key (below (key, held) present)
              rw [absent left belowLeft, absent right belowRight]
            · simpa [find?, here] using same key
          rw [ih right (sorted_tail _ left sortedLeft) (sorted_tail _ right sortedRight) tails]

section Insertion

variable (key : String) (value : Value) (entries : List (String × Value))

theorem find_insert (other : String) :
    find? other (insert key value entries) =
      if other = key then some value else find? other entries := by
  induction entries with
  | nil => simp [insert, find?, eq_comm]
  | cons entry rest ih =>
      obtain ⟨name, held⟩ := entry
      by_cases same : name = key
      · subst name
        by_cases asked : other = key
        · simp [insert, find?, asked]
        · simp [insert, find?, asked, Ne.symm asked]
      · by_cases before : key < name
        · by_cases asked : other = key
          · simp [insert, find?, same, before, asked]
          · simp [insert, find?, same, before, asked, Ne.symm asked]
        · simp only [insert, same, before, ↓reduceIte, find?, ih]
          by_cases here : name = other
          · have asked : other ≠ key := here ▸ same
            simp [here, asked]
          · simp [here]

theorem mem_insert (entry : String × Value) (present : entry ∈ insert key value entries) :
    entry = (key, value) ∨ entry ∈ entries := by
  induction entries with
  | nil => simpa [insert] using present
  | cons first rest ih =>
      obtain ⟨name, held⟩ := first
      simp only [insert] at present
      split at present
      · rcases List.mem_cons.mp present with new | later
        · exact Or.inl new
        · exact Or.inr (List.mem_cons_of_mem _ later)
      · split at present
        · exact List.mem_cons.mp present
        · rcases List.mem_cons.mp present with old | later
          · exact Or.inr (List.mem_cons.mpr (Or.inl old))
          · exact (ih later).imp_right (List.mem_cons_of_mem _)

theorem insert_sorted (sorted : Sorted entries) : Sorted (insert key value entries) := by
  induction entries with
  | nil => simp [insert, Sorted]
  | cons entry rest ih =>
      obtain ⟨name, held⟩ := entry
      obtain ⟨first, later⟩ := List.pairwise_cons.mp sorted
      by_cases same : name = key
      · subst name
        simpa [insert, Sorted] using sorted
      · by_cases before : key < name
        · simp only [insert, same, before, ↓reduceIte]
          refine List.pairwise_cons.mpr ⟨?_, sorted⟩
          intro entry present
          rcases List.mem_cons.mp present with rfl | present
          · exact before
          · exact String.lt_trans before (first entry present)
        · simp only [insert, same, before, ↓reduceIte]
          refine List.pairwise_cons.mpr ⟨?_, ih later⟩
          intro entry present
          rcases mem_insert key value rest entry present with rfl | old
          · refine Decidable.byContradiction fun outside => same ?_
            exact String.le_antisymm (String.not_lt.mp before) (String.not_lt.mp outside)
          · exact first entry old

/-- Putting what is there already changes nothing. -/
theorem insert_found (sorted : Sorted entries) (found : find? key entries = some value) :
    insert key value entries = entries := by
  refine sorted_ext _ _ (insert_sorted key value entries sorted) sorted fun other => ?_
  rw [find_insert]
  by_cases same : other = key
  · simp [same, found]
  · simp [same]

theorem insert_again (other : Value) (sorted : Sorted entries) :
    insert key value (insert key other entries) = insert key value entries := by
  have twice := insert_sorted key value _ (insert_sorted key other entries sorted)
  refine sorted_ext _ _ twice (insert_sorted key value entries sorted) fun asked => ?_
  by_cases same : asked = key <;> simp [find_insert, same]

theorem insert_swap (label : String) (other : Value) (sorted : Sorted entries)
    (different : label ≠ key) :
    insert key value (insert label other entries) =
      insert label other (insert key value entries) := by
  have left := insert_sorted key value _ (insert_sorted label other entries sorted)
  have right := insert_sorted label other _ (insert_sorted key value entries sorted)
  refine sorted_ext _ _ left right fun asked => ?_
  by_cases here : asked = key
  · simp [find_insert, here, Ne.symm different]
  · simp [find_insert, here]

end Insertion

section Removal

variable (key : String) (entries : List (String × Value))

theorem erase_sublist : (erase key entries).Sublist entries := by
  induction entries with
  | nil => exact List.Sublist.refl []
  | cons entry rest ih =>
      obtain ⟨name, held⟩ := entry
      simp only [erase]
      split
      · exact List.sublist_cons_self _ rest
      · exact ih.cons_cons _

theorem erase_sorted (sorted : Sorted entries) : Sorted (erase key entries) :=
  sorted.sublist (erase_sublist key entries)

theorem find_erase_other (other : String) (different : other ≠ key) :
    find? other (erase key entries) = find? other entries := by
  induction entries with
  | nil => rfl
  | cons entry rest ih =>
      obtain ⟨name, held⟩ := entry
      by_cases same : name = key
      · subst name
        simp [erase, find?, Ne.symm different]
      · simp [erase, find?, same, ih]

theorem find_erase (sorted : Sorted entries) : find? key (erase key entries) = none := by
  induction entries with
  | nil => rfl
  | cons entry rest ih =>
      obtain ⟨name, held⟩ := entry
      by_cases same : name = key
      · have before := (List.pairwise_cons.mp sorted).1
        refine (find_absent key _).mpr fun value present => ?_
        have later : (key, value) ∈ rest := by simpa [erase, same] using present
        exact String.lt_irrefl key (same ▸ before (key, value) later)
      · simpa [erase, find?, same] using ih (sorted_tail _ rest sorted)

end Removal

section Lists

variable (base overlay : List (String × Value))

theorem merge_sorted (sorted : Sorted base) : Sorted (merge base overlay) := by
  induction overlay generalizing base with
  | nil => exact sorted
  | cons entry rest ih => exact ih _ (insert_sorted entry.1 entry.2 base sorted)

theorem of_list_sorted : Sorted (ofList overlay) :=
  merge_sorted [] overlay List.Pairwise.nil

theorem mem_merge (entry : String × Value) (present : entry ∈ merge base overlay) :
    entry ∈ base ∨ entry ∈ overlay := by
  induction overlay generalizing base with
  | nil => exact Or.inl present
  | cons first rest ih =>
      rcases ih (insert first.1 first.2 base) present with held | later
      · rcases mem_insert first.1 first.2 base entry held with rfl | old
        · exact Or.inr List.mem_cons_self
        · exact Or.inl old
      · exact Or.inr (List.mem_cons_of_mem _ later)

theorem mem_of_list (entry : String × Value) (present : entry ∈ ofList overlay) :
    entry ∈ overlay :=
  (mem_merge [] overlay entry present).resolve_left List.not_mem_nil

theorem find_foreign (key : String) (foreign : key ∉ keys base) : find? key base = none :=
  Option.eq_none_iff_forall_ne_some.mpr fun value found =>
    foreign ((mem_keys key base).mpr ⟨value, found⟩)

theorem find_append (key : String) :
    find? key (base ++ overlay) = (find? key base).or (find? key overlay) := by
  induction base with
  | nil => rfl
  | cons entry rest ih =>
      obtain ⟨name, value⟩ := entry
      by_cases same : name = key
      · simp [find?, same]
      · simpa [find?, same] using ih

/-- The last entry under a key wins. -/
theorem find_merge (key : String) :
    find? key (merge base overlay) = (find? key overlay.reverse).or (find? key base) := by
  induction overlay generalizing base with
  | nil => rfl
  | cons entry rest ih =>
      obtain ⟨name, value⟩ := entry
      show find? key (merge (insert name value base) rest) = _
      rw [ih (insert name value base), List.reverse_cons, find_append, Option.or_assoc, find_insert]
      by_cases same : name = key
      · simp [find?, same]
      · simp [find?, same, Ne.symm same]

theorem find_of_list (key : String) : find? key (ofList overlay) = find? key overlay.reverse := by
  have merged := find_merge [] overlay key
  rw [find?, Option.or_none] at merged
  exact merged

theorem find_reverse (distinct : (keys overlay).Nodup) (key : String) :
    find? key overlay.reverse = find? key overlay := by
  induction overlay with
  | nil => rfl
  | cons entry rest ih =>
      obtain ⟨name, value⟩ := entry
      obtain ⟨once, others⟩ := List.nodup_cons.mp distinct
      rw [List.reverse_cons, find_append, ih others]
      by_cases same : name = key
      · subst name
        simp [find?, find_foreign rest key once]
      · simp [find?, same]

theorem sorted_distinct (sorted : Sorted overlay) : (keys overlay).Nodup := by
  refine List.pairwise_map.mpr (sorted.imp ?_)
  intro earlier later before same
  exact String.lt_irrefl later.1 (same ▸ before)

/-- A list in key order is kept as it is. -/
theorem of_list_of_sorted (sorted : Sorted overlay) : ofList overlay = overlay :=
  sorted_ext _ _ (of_list_sorted overlay) sorted fun key =>
    (find_of_list overlay key).trans (find_reverse overlay (sorted_distinct overlay sorted) key)

end Lists

end FormEngine.Keyed
