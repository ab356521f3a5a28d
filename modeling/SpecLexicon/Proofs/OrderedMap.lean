import SpecLexicon.OrderedMap

/-!
# Laws of repeated writing

What a map holds after many writes: every key at the place of its first write, with the value of its
last one. A list in which no key stands twice is the list of entries of its map. Writing under a key
leaves the entries of all others as they are.
-/

set_option autoImplicit false

namespace SpecLexicon.OrderedMap

variable {α β : Type} [DecidableEq α]

theorem eraseDups_of_nodup {items : List α} (distinct : items.Nodup) : items.eraseDups = items := by
  induction items with
  | nil => rfl
  | cons item rest ih =>
    obtain ⟨absent, others⟩ := List.nodup_cons.mp distinct
    have kept : rest.filter (fun other => !other == item) = rest := by
      rw [List.filter_eq_self]
      intro other member
      rw [Bool.not_eq_true', beq_eq_false_iff_ne]
      rintro rfl
      exact absent member
    rw [List.eraseDups_cons, kept, ih others]

theorem keys_insertMany (map : OrderedMap α β) (entries : List (α × β)) :
    (map.insertMany entries).keys = (map.keys ++ entries.map Prod.fst).eraseDups := by
  induction entries generalizing map with
  | nil =>
    rw [List.map_nil, List.append_nil]
    exact (eraseDups_of_nodup map.keys_nodup).symm
  | cons entry rest ih =>
    change ((map.insert entry.1 entry.2).insertMany rest).keys = _
    rw [ih, keys_insert, List.map_cons]
    by_cases known : entry.1 ∈ map.keys
    · rw [if_pos known, List.eraseDups_append, List.eraseDups_append, List.cons_removeAll]
      simp [known]
    · rw [if_neg known, List.append_assoc, List.singleton_append]

theorem keys_ofList (entries : List (α × β)) :
    (ofList entries).keys = (entries.map Prod.fst).eraseDups :=
  keys_insertMany empty entries

theorem lookup_append (key : α) (front rest : List (α × β)) :
    lookup key (front ++ rest) = (lookup key front).or (lookup key rest) := by
  induction front with
  | nil => rfl
  | cons entry others ih =>
    obtain ⟨other, value⟩ := entry
    by_cases same : other = key
    · simp [lookup, same]
    · simpa [lookup, same] using ih

theorem get?_insertMany (map : OrderedMap α β) (entries : List (α × β)) (key : α) :
    (map.insertMany entries).get? key = (lookup key entries.reverse).or (map.get? key) := by
  induction entries generalizing map with
  | nil => rfl
  | cons entry rest ih =>
    change ((map.insert entry.1 entry.2).insertMany rest).get? key = _
    rw [ih, get?_insert, List.reverse_cons, lookup_append, Option.or_assoc]
    congr 1
    by_cases same : entry.1 = key
    · simp [lookup, same]
    · simp [lookup, same]

theorem get?_ofList (entries : List (α × β)) (key : α) :
    (ofList entries).get? key = lookup key entries.reverse := by
  rw [ofList, get?_insertMany, get?_empty, Option.or_none]

/-- The value of a key if all entries of that key agree. -/
theorem lookup_eq_some_of_agree {key : α} {value : β} {entries : List (α × β)}
    (listed : (key, value) ∈ entries)
    (agree : ∀ entry ∈ entries, entry.1 = key → entry.2 = value) :
    lookup key entries = some value := by
  induction entries with
  | nil => exact absurd listed List.not_mem_nil
  | cons first rest ih =>
    by_cases same : first.1 = key
    · rw [lookup, if_pos same, agree first List.mem_cons_self same]
    · rw [lookup, if_neg same]
      rcases List.mem_cons.mp listed with rfl | listed
      · exact absurd rfl same
      · exact ih listed fun entry member => agree entry (List.mem_cons_of_mem first member)

theorem write_of_absent {key : α} {value : β} {entries : List (α × β)}
    (absent : key ∉ entries.map Prod.fst) :
    write key value entries = entries ++ [(key, value)] := by
  induction entries with
  | nil => rfl
  | cons entry rest ih =>
    obtain ⟨other, previous⟩ := entry
    rw [List.map_cons, List.mem_cons, not_or] at absent
    rw [write, if_neg (Ne.symm absent.1), ih absent.2, List.cons_append]

theorem write_write (key : α) (first second : β) (entries : List (α × β)) :
    write key second (write key first entries) = write key second entries := by
  induction entries with
  | nil => simp [write]
  | cons entry rest ih =>
    obtain ⟨other, previous⟩ := entry
    by_cases same : other = key
    · simp [write, same]
    · simp [write, same, ih]

theorem insert_insert (map : OrderedMap α β) (key : α) (first second : β) :
    (map.insert key first).insert key second = map.insert key second :=
  ext (write_write key first second map.toList)

theorem toList_insertMany_of_nodup {entries : List (α × β)} (map : OrderedMap α β)
    (distinct : ((map.toList ++ entries).map Prod.fst).Nodup) :
    (map.insertMany entries).toList = map.toList ++ entries := by
  induction entries generalizing map with
  | nil => exact (List.append_nil _).symm
  | cons entry rest ih =>
    have absent : entry.1 ∉ map.toList.map Prod.fst := by
      intro member
      rw [List.map_append, List.nodup_append] at distinct
      exact distinct.2.2 _ member _ (List.mem_map_of_mem List.mem_cons_self) rfl
    have written : (map.insert entry.1 entry.2).toList = map.toList ++ [entry] :=
      write_of_absent absent
    change ((map.insert entry.1 entry.2).insertMany rest).toList = _
    rw [ih, written, List.append_assoc, List.singleton_append]
    rwa [written, List.append_assoc, List.singleton_append]

theorem toList_ofList_of_nodup {entries : List (α × β)}
    (distinct : (entries.map Prod.fst).Nodup) : (ofList entries).toList = entries :=
  toList_insertMany_of_nodup empty distinct

/-- Keys that are not there yet come in behind the others, each at its first mention. -/
theorem toList_foldl_insertIfNew (map : OrderedMap α β) (keys : List α) (value : β) :
    (keys.foldl (fun grown key => grown.insertIfNew key value) map).toList =
      map.toList ++
        (keys.filter fun key => (map.get? key).isNone).eraseDups.map fun key => (key, value) := by
  induction keys generalizing map with
  | nil => simp
  | cons key rest ih =>
    rw [List.foldl_cons, ih, insertIfNew, contains]
    cases found : map.get? key with
    | some previous => simp [found]
    | none =>
      have written : (map.insert key value).toList = map.toList ++ [(key, value)] :=
        write_of_absent (get?_eq_none_iff.mp found)
      -- Behind its first mention the key is there, so the rest mentions it in vain.
      have later : (rest.filter fun other => ((map.insert key value).get? other).isNone) =
          (rest.filter fun other => (map.get? other).isNone).filter fun other => !other == key := by
        rw [List.filter_filter]
        refine List.filter_congr fun other _ => ?_
        rw [get?_insert]
        by_cases same : key = other
        · simp [same]
        · simp [same, Ne.symm same]
      simp [found, written, later, List.eraseDups_cons]

theorem mem_write {key : α} {value : β} {entries : List (α × β)} {entry : α × β}
    (member : entry ∈ write key value entries) : entry = (key, value) ∨ entry ∈ entries := by
  induction entries with
  | nil => exact .inl (List.mem_singleton.mp member)
  | cons first rest ih =>
    obtain ⟨other, previous⟩ := first
    rw [write] at member
    split at member
    · exact (List.mem_cons.mp member).imp_right (List.mem_cons_of_mem _)
    · rcases List.mem_cons.mp member with rfl | later
      · exact .inr List.mem_cons_self
      · exact (ih later).imp_right (List.mem_cons_of_mem _)

theorem mem_insertMany {map : OrderedMap α β} {entries : List (α × β)} {entry : α × β}
    (member : entry ∈ (map.insertMany entries).toList) : entry ∈ map.toList ∨ entry ∈ entries := by
  induction entries generalizing map with
  | nil => exact .inl member
  | cons first rest ih =>
    have split : entry ∈ (map.insert first.1 first.2).toList ∨ entry ∈ rest := ih member
    rcases split with earlier | later
    · rcases mem_write earlier with rfl | older
      · exact .inr List.mem_cons_self
      · exact .inl older
    · exact .inr (List.mem_cons_of_mem first later)

/-- The map of a list holds nothing but entries of the list. -/
theorem mem_of_mem_ofList {entries : List (α × β)} {entry : α × β}
    (member : entry ∈ (ofList entries).toList) : entry ∈ entries :=
  (mem_insertMany member).resolve_left List.not_mem_nil

/-!
## Renamed keys
-/

section Renamed

variable {γ δ : Type} [DecidableEq γ] {name : α → γ}
  (apart : ∀ left right, name left = name right → left = right) (f : β → δ)

include apart

theorem write_map (key : α) (value : β) (entries : List (α × β)) :
    write (name key) (f value) (entries.map (Prod.map name f)) =
      (write key value entries).map (Prod.map name f) := by
  induction entries with
  | nil => rfl
  | cons entry rest ih =>
    obtain ⟨other, previous⟩ := entry
    by_cases same : other = key
    · simp [write, same]
    · have different : ¬name other = name key := fun equal => same (apart _ _ equal)
      simp [write, same, different, ih]

theorem insertMany_map (map : OrderedMap α β) (entries : List (α × β)) :
    (map.rename name apart f).insertMany (entries.map (Prod.map name f)) =
      (map.insertMany entries).rename name apart f := by
  induction entries generalizing map with
  | nil => rfl
  | cons entry rest ih =>
    have first : (map.rename name apart f).insert (name entry.1) (f entry.2) =
        (map.insert entry.1 entry.2).rename name apart f :=
      ext (write_map apart f entry.1 entry.2 map.toList)
    change ((map.rename name apart f).insert (name entry.1) (f entry.2)).insertMany _ = _
    rw [first]
    exact ih (map.insert entry.1 entry.2)

/-- Keys may be renamed before or after a map is made of a list. -/
theorem ofList_map (entries : List (α × β)) :
    ofList (entries.map (Prod.map name f)) = (ofList entries).rename name apart f :=
  insertMany_map apart f empty entries

end Renamed

/-!
## Selected keys
-/

section Selected

variable (chosen : α → Bool)

theorem filter_write (key : α) (value : β) (entries : List (α × β)) :
    (write key value entries).filter (fun entry => chosen entry.1) =
      if chosen key then write key value (entries.filter fun entry => chosen entry.1)
      else entries.filter fun entry => chosen entry.1 := by
  induction entries with
  | nil => by_cases selected : chosen key = true <;> simp [write, selected]
  | cons entry rest ih =>
    obtain ⟨other, previous⟩ := entry
    by_cases same : other = key
    · subst same
      by_cases selected : chosen other = true <;> simp [write, selected]
    · rw [write, if_neg same, List.filter_cons, List.filter_cons, ih]
      by_cases selected : chosen key = true <;> by_cases kept : chosen other = true <;>
        simp [write, same, selected, kept]

omit chosen in
theorem filter_insert_ne (map : OrderedMap α β) (key : α) (value : β) :
    (map.insert key value).toList.filter (fun entry => decide (entry.1 ≠ key)) =
      map.toList.filter fun entry => decide (entry.1 ≠ key) := by
  have written := filter_write (fun other => decide (other ≠ key)) key value map.toList
  rwa [if_neg (by simp)] at written

theorem filter_toList_insertMany (map filtered : OrderedMap α β) (entries : List (α × β))
    (same : map.toList.filter (fun entry => chosen entry.1) = filtered.toList) :
    (map.insertMany entries).toList.filter (fun entry => chosen entry.1) =
      (filtered.insertMany (entries.filter fun entry => chosen entry.1)).toList := by
  induction entries generalizing map filtered with
  | nil => exact same
  | cons entry rest ih =>
    change ((map.insert entry.1 entry.2).insertMany rest).toList.filter _ = _
    have written := filter_write chosen entry.1 entry.2 map.toList
    rw [List.filter_cons]
    by_cases selected : chosen entry.1 = true
    · rw [if_pos selected, same] at written
      rw [if_pos selected]
      exact ih (map.insert entry.1 entry.2) (filtered.insert entry.1 entry.2) written
    · rw [if_neg selected, same] at written
      rw [if_neg selected]
      exact ih (map.insert entry.1 entry.2) filtered written

/-- The entries of a map under selected keys are those of the selected part of its list. -/
theorem filter_toList_ofList (entries : List (α × β)) :
    (ofList entries).toList.filter (fun entry => chosen entry.1) =
      (ofList (entries.filter fun entry => chosen entry.1)).toList :=
  filter_toList_insertMany chosen empty empty entries rfl

end Selected

/-!
## Maps of named things
-/

section Named

variable {γ : Type} (name : γ → α) (value : γ → β) (items : List γ)

theorem lookup_map_named (key : α) :
    lookup key (items.map fun item => (name item, value item)) =
      (items.find? (name · == key)).map value := by
  induction items with
  | nil => rfl
  | cons item rest ih =>
    by_cases same : name item = key
    · simp [lookup, same]
    · simpa [lookup, same] using ih

/-- Of things with the same name the last one counts. -/
theorem get?_ofList_named (key : α) :
    (ofList (items.map fun item => (name item, value item))).get? key =
      (items.reverse.find? (name · == key)).map value := by
  rw [get?_ofList, ← List.map_reverse, lookup_map_named]

/-- The names stand in the order in which they first came up. -/
theorem keys_ofList_named :
    (ofList (items.map fun item => (name item, value item))).keys =
      (items.map name).eraseDups := by
  rw [keys_ofList, List.map_map]
  rfl

omit [DecidableEq α] in
theorem size_eq_length_keys (map : OrderedMap α β) : map.size = map.keys.length := by
  rw [keys, List.length_map]
  rfl

end Named

end SpecLexicon.OrderedMap
