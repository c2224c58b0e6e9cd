import Mathlib.Data.List.Nodup

/-!
# Maps as lists of entries

A hash map is the list of its entries, in whatever order the map iterates.  The operations keep
the entries of all other keys as they are, which is what the lookup lemmas say; a map with two
entries of one key has the first one's value.

* `mem_modify` — an element of a list with one element changed.
* `get?_modify`, `get?_erase`, `get?_mapValues` — what a lookup finds after each operation.
-/

namespace Assoc

variable {κ ν ν' : Type}

/-! ## Changing one element of a list -/

variable {α : Type}

variable {f : α → α} {i : Nat} {l : List α} {a : α}

theorem mem_modify (h : a ∈ l.modify i f) : a ∈ l ∨ ∃ b ∈ l, a = f b := by
  obtain ⟨j, hj⟩ := List.mem_iff_getElem?.mp h
  rw [List.getElem?_modify] at hj
  obtain ⟨b, hb, rfl⟩ := Option.map_eq_some_iff.mp hj
  split
  · exact .inr ⟨b, List.mem_of_getElem? hb, rfl⟩
  · exact .inl (List.mem_of_getElem? hb)

theorem mem_modify_of_mem (h : a ∈ l) : a ∈ l.modify i f ∨ f a ∈ l.modify i f := by
  obtain ⟨j, hj⟩ := List.mem_iff_getElem?.mp h
  have hnew := List.getElem?_modify f i l j
  rw [hj, Option.map_eq_map, Option.map_some] at hnew
  split at hnew
  · exact .inr (List.mem_of_getElem? hnew)
  · exact .inl (List.mem_of_getElem? hnew)

/-- Changing the first element with a key changes the only one. -/
theorem modify_findIdx [DecidableEq κ] {key : α → κ} {k : κ} {f : α → α} :
    ∀ {l : List α}, (l.map key).Nodup →
      l.modify (l.findIdx fun a => key a == k) f = l.map fun a => if key a = k then f a else a
  | [], _ => rfl
  | a :: l, h => by
    obtain ⟨hnot, hnodup⟩ := List.nodup_cons.mp h
    by_cases ha : key a = k
    · have hrest : l.map (fun b => if key b = k then f b else b) = l := by
        refine (List.map_congr_left fun b hb => if_neg ?_).trans (List.map_id l)
        intro hbk
        exact hnot (List.mem_map.mpr ⟨b, hb, hbk.trans ha.symm⟩)
      rw [List.findIdx_cons, beq_iff_eq.mpr ha, List.map_cons, if_pos ha, hrest]
      rfl
    · rw [List.findIdx_cons, beq_eq_false_iff_ne.mpr ha, List.map_cons, if_neg ha,
        ← modify_findIdx hnodup]
      rfl

/-! ## Maps -/

/-- The entries of a map. -/
abbrev Map (κ ν : Type) := List (κ × ν)

namespace Map

def values (map : Map κ ν) : List ν := map.map (·.2)

def keys (map : Map κ ν) : List κ := map.map (·.1)

/-- Change every value. -/
def mapValues (f : ν → ν') (map : Map κ ν) : Map κ ν' := map.map fun entry => (entry.1, f entry.2)

variable [DecidableEq κ]

def get? (map : Map κ ν) (key : κ) : Option ν :=
  (map.find? fun entry => entry.1 = key).map (·.2)

/-- Update the value of a key, starting from `default` if the map has none. -/
def modify (map : Map κ ν) (key : κ) (default : ν) (f : ν → ν) : Map κ ν :=
  match map with
  | [] => [(key, f default)]
  | entry :: rest =>
    if entry.1 = key then (entry.1, f entry.2) :: rest else entry :: modify rest key default f

/-- Set the value of a key. -/
def insert (map : Map κ ν) (key : κ) (value : ν) : Map κ ν := map.modify key value fun _ => value

/-- Remove a key. -/
def erase (map : Map κ ν) (key : κ) : Map κ ν := map.filter fun entry => entry.1 ≠ key

@[simp] theorem get?_nil (key : κ) : get? ([] : Map κ ν) key = none := rfl

theorem get?_cons (entry : κ × ν) (rest : Map κ ν) (key : κ) :
    get? (entry :: rest) key = if entry.1 = key then some entry.2 else get? rest key := by
  unfold get?
  rw [List.find?_cons]
  by_cases h : entry.1 = key <;> simp [h]

variable {key : κ} {value : ν} {map : Map κ ν} {default : ν} {f : ν → ν}

theorem mem_of_get? (h : map.get? key = some value) : (key, value) ∈ map := by
  obtain ⟨entry, hfind, rfl⟩ := Option.map_eq_some_iff.mp h
  have hkey : entry.1 = key := by simpa using List.find?_some hfind
  exact hkey ▸ List.mem_of_find?_eq_some hfind

/-- **Lookup after an update.** -/
theorem get?_modify (key : κ) (default : ν) (f : ν → ν) (key' : κ) : ∀ map : Map κ ν,
    (map.modify key default f).get? key'
      = if key' = key then some (f ((map.get? key).getD default)) else map.get? key'
  | [] => by
    rw [modify, get?_cons]
    by_cases h : key = key'
    · simp [h]
    · simp [h, Ne.symm h]
  | entry :: rest => by
    rw [modify]
    by_cases hentry : entry.1 = key
    · rw [if_pos hentry, get?_cons, get?_cons, get?_cons, if_pos hentry]
      by_cases h : key' = key
      · simp [h, hentry]
      · have hne : entry.1 ≠ key' := fun heq => h (heq.symm.trans hentry)
        simp [h, hne]
    · rw [if_neg hentry, get?_cons, get?_modify key default f key' rest, get?_cons, get?_cons,
        if_neg hentry]
      by_cases h : key' = key
      · have hne : entry.1 ≠ key' := fun heq => hentry (heq.trans h)
        simp [h, hentry]
      · simp [h]

theorem get?_insert (map : Map κ ν) (key : κ) (value : ν) (key' : κ) :
    (map.insert key value).get? key' = if key' = key then some value else map.get? key' :=
  get?_modify key value (fun _ => value) key' map

/-- Lookup after a value has been set for each of several keys. -/
theorem get?_foldl_insert (f : κ → ν) (key' : κ) : ∀ (keys : List κ) (map : Map κ ν),
    (keys.foldl (fun map key => map.insert key (f key)) map).get? key'
      = if key' ∈ keys then some (f key') else map.get? key'
  | [], map => by simp
  | key :: keys, map => by
    rw [List.foldl_cons, get?_foldl_insert f key' keys, get?_insert]
    simp only [List.mem_cons]
    by_cases hkeys : key' ∈ keys
    · simp [hkeys]
    · by_cases hkey : key' = key
      · simp [hkey]
      · simp [hkeys, hkey]

/-- Lookup after several updates: those of the key, in their order. -/
theorem get?_foldl_modify {α : Type} (key : α → κ) (default : ν) (f : ν → α → ν) (key' : κ) :
    ∀ (l : List α) (map : Map κ ν),
      (l.foldl (fun (map : Map κ ν) a => map.modify (key a) default (f · a)) map).get? key'
        = if l.filter (key · = key') = [] then map.get? key'
          else some ((l.filter (key · = key')).foldl f ((map.get? key').getD default))
  | [], _ => rfl
  | a :: l, map => by
    rw [List.foldl_cons, get?_foldl_modify key default f key' l, get?_modify]
    by_cases ha : key a = key'
    · subst ha
      by_cases hl : l.filter (key · = key a) = []
      · simp [hl]
      · simp [hl]
    · simp [ha, Ne.symm ha]

/-- **Lookup after a removal.** -/
theorem get?_erase (key key' : κ) : ∀ map : Map κ ν,
    (map.erase key).get? key' = if key' = key then none else map.get? key'
  | [] => by simp [erase]
  | entry :: rest => by
    have ih := get?_erase key key' rest
    unfold erase at ih ⊢
    by_cases hentry : entry.1 = key
    · rw [List.filter_cons_of_neg (by simp [hentry]), ih, get?_cons]
      by_cases h : key' = key
      · simp [h]
      · have hne : entry.1 ≠ key' := fun heq => h (heq.symm.trans hentry)
        simp [h, hne]
    · rw [List.filter_cons_of_pos (by simp [hentry]), get?_cons, ih, get?_cons]
      by_cases h : key' = key
      · subst h
        simp [hentry]
      · simp [h]

theorem get?_mapValues (f : ν → ν') (key : κ) : ∀ map : Map κ ν,
    (map.mapValues f).get? key = (map.get? key).map f
  | [] => rfl
  | entry :: rest => by
    have ih := get?_mapValues f key rest
    unfold mapValues at ih ⊢
    rw [List.map_cons, get?_cons, get?_cons, ih]
    split <;> rfl

/-- The values after an update: the old ones and the updated one. -/
theorem mem_values_modify : ∀ {map : Map κ ν},
    value ∈ (map.modify key default f).values →
      value ∈ map.values ∨ value = f ((map.get? key).getD default)
  | [], h => by
    refine .inr ?_
    simpa [modify, values] using h
  | entry :: rest, h => by
    rw [modify] at h
    rw [get?_cons]
    by_cases hentry : entry.1 = key
    · rw [if_pos hentry] at h ⊢
      rcases List.mem_cons.mp h with rfl | h
      · exact .inr rfl
      · exact .inl (List.mem_cons_of_mem _ h)
    · rw [if_neg hentry] at h ⊢
      rcases List.mem_cons.mp h with rfl | h
      · exact .inl List.mem_cons_self
      · exact (mem_values_modify h).imp (List.mem_cons_of_mem _) id

/-- An update keeps every value, except that one may be updated. -/
theorem mem_values_modify_of_mem :
    ∀ {map : Map κ ν}, value ∈ map.values →
      value ∈ (map.modify key default f).values ∨ f value ∈ (map.modify key default f).values
  | entry :: rest, h => by
    rw [modify]
    rcases List.mem_cons.mp h with rfl | h
    · by_cases hentry : entry.1 = key
      · rw [if_pos hentry]
        exact .inr List.mem_cons_self
      · rw [if_neg hentry]
        exact .inl List.mem_cons_self
    · by_cases hentry : entry.1 = key
      · rw [if_pos hentry]
        exact .inl (List.mem_cons_of_mem _ h)
      · rw [if_neg hentry]
        exact (mem_values_modify_of_mem h).imp (List.mem_cons_of_mem _) (List.mem_cons_of_mem _)

/-- An update that a partial function does not see, neither on the default nor on a value. -/
theorem filterMap_values_modify {β : Type} (key : κ) {g : ν → Option β}
    (hdefault : g (f default) = none) (hf : ∀ value, g (f value) = g value) : ∀ map : Map κ ν,
    (map.modify key default f).values.filterMap g = map.values.filterMap g
  | [] => by simp [modify, values, hdefault]
  | entry :: rest => by
    rw [modify]
    split
    · simp [values, List.filterMap_cons, hf]
    · have ih := filterMap_values_modify key hdefault hf rest
      unfold values at ih ⊢
      rw [List.map_cons, List.map_cons, List.filterMap_cons, List.filterMap_cons, ih]

theorem mem_values_erase (h : value ∈ (map.erase key).values) : value ∈ map.values :=
  (List.filter_sublist.map _).subset h

/-! ### Keys -/

omit [DecidableEq κ] in
theorem keys_cons (entry : κ × ν) (rest : Map κ ν) : keys (entry :: rest) = entry.1 :: keys rest :=
  rfl

theorem get?_eq_none : ∀ {map : Map κ ν}, key ∉ map.keys → map.get? key = none
  | [], _ => rfl
  | entry :: rest, h => by
    rw [keys_cons, List.mem_cons, not_or] at h
    rw [get?_cons, if_neg (Ne.symm h.1), get?_eq_none h.2]

/-- The keys are those a lookup finds. -/
theorem mem_keys_iff : key ∈ map.keys ↔ (map.get? key).isSome = true := by
  constructor
  · intro h
    by_contra hnone
    rw [get?, Option.isSome_map, List.find?_isSome] at hnone
    obtain ⟨entry, hentry, hkey⟩ := List.mem_map.mp h
    exact hnone ⟨entry, hentry, decide_eq_true hkey⟩
  · intro h
    obtain ⟨value, hvalue⟩ := Option.isSome_iff_exists.mp h
    exact List.mem_map_of_mem (mem_of_get? hvalue)

theorem mem_keys_modify {key key' : κ} : ∀ {map : Map κ ν},
    key' ∈ (map.modify key default f).keys → key' = key ∨ key' ∈ map.keys
  | [], h => .inl (List.mem_singleton.mp h)
  | entry :: rest, h => by
    rw [modify] at h
    split at h
    · exact .inr h
    · rcases List.mem_cons.mp h with heq | h
      · exact .inr (heq ▸ List.mem_cons_self)
      · exact (mem_keys_modify h).imp_right (List.mem_cons_of_mem _)

/-- An update keeps the keys apart. -/
theorem nodup_keys_modify (key : κ) (default : ν) (f : ν → ν) : ∀ {map : Map κ ν},
    map.keys.Nodup → (map.modify key default f).keys.Nodup
  | [], _ => List.nodup_singleton key
  | entry :: rest, h => by
    rw [modify]
    split
    · exact h
    · rename_i hne
      rw [keys_cons, List.nodup_cons] at h ⊢
      refine ⟨fun hmem => ?_, nodup_keys_modify key default f h.2⟩
      rcases mem_keys_modify hmem with heq | hmem
      · exact hne heq
      · exact h.1 hmem

theorem nodup_keys_foldl_modify {α : Type} (key : α → κ) (default : ν) (f : ν → α → ν) (l : List α)
    (h : map.keys.Nodup) :
    (l.foldl (fun (map : Map κ ν) a => map.modify (key a) default (f · a)) map).keys.Nodup :=
  List.foldlRecOn (motive := fun map : Map κ ν => map.keys.Nodup) _ _ h
    fun _ h _ _ => nodup_keys_modify _ _ _ h

/-- A map with its keys apart is read entry by entry. -/
theorem mem_iff_get? : ∀ {map : Map κ ν}, map.keys.Nodup →
    ((key, value) ∈ map ↔ map.get? key = some value)
  | [], _ => by simp
  | entry :: rest, h => by
    rw [keys_cons, List.nodup_cons] at h
    rw [List.mem_cons, get?_cons, mem_iff_get? h.2]
    split
    · next hentry =>
      have hrest : get? rest key = none := get?_eq_none (hentry ▸ h.1)
      simp [hrest, Prod.ext_iff, hentry, eq_comm]
    · next hentry => simp [Prod.ext_iff, Ne.symm hentry]

end Map

end Assoc
